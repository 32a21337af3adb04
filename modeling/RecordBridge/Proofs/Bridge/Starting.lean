import RecordBridge.Proofs.Bridge.Serving
import RecordBridge.Proofs.Custody.Objectless

namespace RecordBridge

variable {α : Type}

open Bridge

namespace Ledger

-- The lock was not taken and no reference was touched, whatever else was reported.
structure Unlocked (before after : Ledger) : Prop where
  depth : after.depth = before.depth
  references : after.references = before.references
  reported : ∃ news, after.reported = news ++ before.reported ∧ ∀ depth, .nestedAcquisition depth ∉ news

theorem Untouched.unlocked {before after : Ledger} (untouched : before.Untouched after) :
    before.Unlocked after :=
  ⟨untouched.depth, untouched.references, [], untouched.reported, fun _ => List.not_mem_nil⟩

theorem unlocked_record {event : Event} (ledger : Ledger) (other : ∀ depth, .nestedAcquisition depth ≠ event) :
    ledger.Unlocked (ledger.record event) :=
  ⟨rfl, rfl, [event], rfl, fun depth member => other depth (List.mem_singleton.mp member)⟩

-- In the middle of a scope nobody takes the lock for an object unseen.
theorem held_seen {ledger : Ledger} (deep : 0 < ledger.depth) (object : ObjectId) (change : Int) :
    ¬ ledger.Unlocked (ledger.held (·.adjust object change)) := by
  rintro ⟨-, -, news, reported, silent⟩
  have told : (ledger.held (·.adjust object change)).reported =
      [.nestedAcquisition (ledger.depth + 1).toNat] ++ ledger.reported := by
    unfold held enter
    rw [if_pos deep]
    rfl
  obtain rfl := List.append_cancel_right (told.symm.trans reported)
  exact silent _ List.mem_cons_self

end Ledger

-- The ways to use a callable.
inductive Use where
  | sink
  | filter
  | transform (destination : Value)
  | hash

def Outcome.forget : Outcome α → Outcome Unit
  | .returned _ => .returned ()
  | .failed error => .failed error
  | .panicked => .panicked
  | .exited status => .exited status

theorem Outcome.forget_failed {outcome : Outcome α} {error : BridgeError}
    (same : outcome.forget = .failed error) : outcome = .failed error := by
  cases outcome <;> simp_all [forget]

def Use.apply (way : Use) (callable : Callable) (value : Value) : Bridge Unit := fun world =>
  match way with
  | .sink => Adapter.sink callable value world
  | .filter =>
    let done := Adapter.filter callable value world
    (done.1.forget, done.2)
  | .transform destination =>
    let done := Adapter.transform callable value destination world
    (done.outcome.forget, done.world)
  | .hash =>
    let done := Adapter.hash callable value world
    (done.1.forget, done.2)

-- One thing that a process does. A scope runs whatever body it is given, but none that stops the
-- interpreter, and hands out objects when it returns.
inductive Deed where
  | bootstrap (config : Config) (path : Bytes)
  | scope (body : Bridge (List ObjectId))
      (goesOn : ∀ world, world.running = true → (body world).2.running = true)
  | load (name module function : String)
  | use (name : String) (way : Use) (value : Value)
  | operate (operation : Operation Fields)

-- The state of the bridge, and the objects that scopes have handed out.
structure Process where
  world : World
  objects : List ObjectId

namespace Process

def initial (site : Site) : Process := ⟨.initial site, []⟩

-- Every object that the host can name.
def inHand (process : Process) : List ObjectId := process.objects ++ process.world.store.handles.map (·.2)

end Process

-- How the deed ends, and the process after it. What cannot be done, because there is no such callable or no
-- such object in hand, is not done.
def Deed.perform : Deed → Process → Outcome Unit × Process
  | .bootstrap config path, process =>
    let done := Bridge.bootstrap config path process.world
    (done.1, { process with world := done.2 })
  | .scope body _, process =>
    match withLock body process.world with
    | (.returned objects, world) => (.returned (), ⟨world, process.objects ++ objects⟩)
    | (outcome, world) => (outcome.forget, { process with world })
  | .load name module function, process =>
    match Callable.load module function process.world with
    | (.returned callable, world) =>
      let known := Named.put name callable world.callables
      (.returned (), { process with world := { world with callables := known } })
    | (outcome, world) => (outcome.forget, { process with world })
  | .use name way value, process =>
    match Named.find? name process.world.callables with
    | some callable =>
      let done := way.apply callable value process.world
      (done.1, { process with world := done.2 })
    | none => (.returned (), process)
  | .operate operation, process =>
    if operation.isScope = false ∧ ∀ object ∈ operation.given, object ∈ process.inHand then
      let store := operation.perform process.world.store
      (.returned (), { process with world := { process.world with store } })
    else (.returned (), process)

namespace Deed

theorem perform_scope (body : Bridge (List ObjectId))
    (goesOn : ∀ world, world.running = true → (body world).2.running = true) (process : Process) :
    ((scope body goesOn).perform process).1 = (withLock body process.world).1.forget ∧
      ((scope body goesOn).perform process).2.world = (withLock body process.world).2 := by
  rw [perform]
  rcases withLock body process.world with ⟨_ | _ | _ | _, after⟩ <;> exact ⟨rfl, rfl⟩

theorem perform_load (name module function : String) (process : Process) :
    ((load name module function).perform process).1 = (Callable.load module function process.world).1.forget ∧
      ((load name module function).perform process).2.world.running =
        (Callable.load module function process.world).2.running := by
  rw [perform]
  rcases Callable.load module function process.world with ⟨_ | _ | _ | _, after⟩ <;> exact ⟨rfl, rfl⟩

end Deed

namespace Process

-- Nothing is done after the process has ended.
def run : List Deed → Process → Process
  | [], process => process
  | deed :: rest, process =>
    match deed.perform process with
    | (.exited _, after) => after
    | (_, after) => run rest after

-- The interpreter does not run, and there is nothing of it.
structure Bare (process : Process) : Prop where
  stopped : process.world.running = false
  callables : process.world.callables = []
  objects : process.objects = []
  store : process.world.store.Objectless

theorem bare_initial (site : Site) : (initial site).Bare := ⟨rfl, rfl, rfl, Store.objectless_initial⟩

-- The same process in the middle of scopes of the lock, or wherever the ledger has it.
def watched (ledger : Ledger) (process : Process) : Process :=
  { process with world := process.world.settle fun _ => ledger }

theorem Bare.watched {process : Process} (bare : process.Bare) (ledger : Ledger) :
    (process.watched ledger).Bare :=
  ⟨bare.stopped, bare.callables, bare.objects, bare.store.records, bare.store.payloads, bare.store.handles⟩

end Process

namespace Bridge

theorem withLock_stopped {world : World} (stopped : world.running = false) (body : Bridge α) :
    withLock body world = (.failed .notInitialized, world) := by
  rw [withLock, if_neg (by simp [stopped])]

theorem preload_exact (library : String) (world : World) : preload library world =
    match world.site.preload library with
    | .ok () => (.returned (), world.settle (·.record (.libraryPreloaded library)))
    | .error reason =>
      (.failed (.symbolPreload library reason), world.settle (·.record (.libraryNotOpened library reason))) := by
  unfold preload
  rw [bind_of_returned (rfl : get world = (.returned world, world))]
  cases world.site.preload library <;> rfl

-- Preloading reports at most that it succeeded or failed.
theorem preloadConfigured_quiet (config : Config) (world : World) :
    ((preloadConfigured config world).1 = .returned () ∨
      ∃ library reason, (preloadConfigured config world).1 = .failed (.symbolPreload library reason)) ∧
    ∃ ledger, (preloadConfigured config world).2 = world.settle (fun _ => ledger) ∧
      world.store.ledger.Unlocked ledger := by
  unfold preloadConfigured
  cases config.library with
  | none => exact ⟨.inl rfl, _, rfl, (Ledger.Untouched.refl _).unlocked⟩
  | some library =>
    dsimp only
    rw [preload_exact]
    cases world.site.preload library with
    | ok done => exact ⟨.inl rfl, _, rfl, Ledger.unlocked_record _ fun _ => nofun⟩
    | error reason => exact ⟨.inr ⟨library, reason, rfl⟩, _, rfl, Ledger.unlocked_record _ fun _ => nofun⟩

-- Bringing up that gets past its preloading switches the interpreter on before it does anything else.
theorem bootstrap_switched {config : Config} {path : Bytes} {world preloaded : World}
    (preloads : preloadConfigured config world = (.returned (), preloaded))
    (stopped : preloaded.running = false) :
    bootstrap config path world =
      (log .interpreterInitialized >>= fun _ => runSetup path) { preloaded with running := true } := by
  have started : start preloaded =
      (.returned (), { preloaded with running := true }.settle (·.record .interpreterInitialized)) := by
    have asked : isRunning preloaded = (.returned false, preloaded) := by rw [isRunning, stopped]
    unfold start
    rw [bind_of_returned asked]
    rfl
  change (preloadConfigured config >>= fun _ => start >>= fun _ => runSetup path) world = _
  rw [bind_of_returned preloads, bind_of_returned started]
  rfl

end Bridge

-- Brings the interpreter up if it does not run: the preloading goes well.
def Deed.Starts (deed : Deed) (process : Process) : Prop := ∃ config path,
  deed = .bootstrap config path ∧ (preloadConfigured config process.world).1 = .returned ()

theorem Use.served_apply (way : Use) (callable : Callable) (value : Value) :
    (way.apply callable value).Served := by
  have told : ∀ {γ : Type} {outcome : Outcome γ}, outcome ≠ .failed .notInitialized →
      outcome.forget ≠ .failed .notInitialized := fun other same => other (Outcome.forget_failed same)
  intro world running
  cases way with
  | sink => exact Adapter.served_sink callable value world running
  | filter => exact (Adapter.served_filter callable value world running).imp told id
  | transform destination => exact (Adapter.served_transform callable value destination running).imp told id
  | hash => exact (Adapter.served_hash callable value world running).imp told id

namespace Process

variable {process : Process}

-- What a deed leaves of a process in which the interpreter does not run, unless it starts it.
structure Rests (before : Process) (done : Outcome Unit × Process) : Prop where
  bare : done.2.Bare
  unlocked : before.world.store.ledger.Unlocked done.2.world.store.ledger
  lives : ∀ status, done.1 ≠ .exited status

theorem Bare.rests (bare : process.Bare) {outcome : Outcome Unit}
    (lives : ∀ status, outcome ≠ .exited status) : process.Rests (outcome, process) := ⟨bare, (Ledger.Untouched.refl _).unlocked, lives⟩

theorem Bare.bootstrap (bare : process.Bare) (config : Config) (path : Bytes) :
    let done := (Deed.bootstrap config path).perform process
    ((preloadConfigured config process.world).1 = .returned () ∧ done.2.world.running = true) ∨
      ((preloadConfigured config process.world).1 ≠ .returned () ∧ process.Rests done) := by
  intro done
  obtain ⟨ended, ledger, left, unlocked⟩ := preloadConfigured_quiet config process.world
  obtain ready | ⟨library, reason, refused⟩ := ended
  · have switched := @bootstrap_switched config path process.world _ (Prod.ext ready left) bare.stopped
    have goes := (served_log .interpreterInitialized).bind fun _ => served_runSetup path
    refine .inl ⟨ready, ?_⟩
    change (Bridge.bootstrap config path process.world).2.running = true
    rw [switched]
    exact (goes _ rfl).2
  · have ran : Bridge.bootstrap config path process.world =
        (.failed (.symbolPreload library reason), process.world.settle fun _ => ledger) :=
      bind_of_failed (Prod.ext refused left)
    have whole : done = (.failed (.symbolPreload library reason), process.watched ledger) :=
      congrArg (fun ended => (ended.1, { process with world := ended.2 })) ran
    refine .inr ⟨by rw [refused]; exact nofun, ?_⟩
    rw [whole]
    exact ⟨bare.watched ledger, unlocked, fun _ => nofun⟩

theorem Bare.inHand (bare : process.Bare) : process.inHand = [] := by
  rw [Process.inHand, bare.objects, bare.store.handles]
  rfl

theorem Bare.other (bare : process.Bare) {deed : Deed} (other : ∀ config path, deed ≠ .bootstrap config path) :
    process.Rests (deed.perform process) := by
  cases deed with
  | bootstrap config path => exact absurd rfl (other config path)
  | scope body goesOn =>
    rw [Deed.perform, withLock_stopped bare.stopped]
    exact bare.rests fun _ => nofun
  | load name module function =>
    rw [Deed.perform, Callable.load, withLock_stopped bare.stopped]
    exact bare.rests fun _ => nofun
  | use name way value =>
    rw [Deed.perform, bare.callables]
    exact bare.rests fun _ => nofun
  | operate operation =>
    rw [Deed.perform, bare.inHand]
    split
    · rename_i able
      have nothing : operation.given = [] :=
        List.eq_nil_iff_forall_not_mem.mpr fun object member => List.not_mem_nil (able.2 object member)
      have done := Operation.harmless_perform able.1 nothing bare.store
      exact ⟨⟨bare.stopped, bare.callables, bare.objects, done.objectless⟩, done.untouched.unlocked,
        fun _ => nofun⟩
    · exact bare.rests fun _ => nofun

-- Without the interpreter nothing comes of a deed but what the host can do with payloads that have no
-- object, unless the deed starts it.
theorem Bare.perform (bare : process.Bare) (deed : Deed) :
    (deed.Starts process ∧ (deed.perform process).2.world.running = true) ∨
      (¬ deed.Starts process ∧ process.Rests (deed.perform process)) := by
  by_cases brings : ∃ config path, deed = .bootstrap config path
  · obtain ⟨config, path, rfl⟩ := brings
    refine (bare.bootstrap config path).imp (.imp (fun ready => ⟨config, path, rfl, ready⟩) id) (.imp ?_ id)
    rintro refused ⟨_, _, same, ready⟩
    cases same
    exact refused ready
  · refine .inr ⟨fun ⟨config, path, same, _⟩ => brings ⟨config, path, same⟩, ?_⟩
    exact bare.other fun config path same => brings ⟨config, path, same⟩

-- With it, a deed is refused for want of it only by the body of a scope that says so, and it runs on.
theorem perform_running (running : process.world.running = true) (deed : Deed) :
    (deed.perform process).2.world.running = true ∧
      ((deed.perform process).1 = .failed .notInitialized → ∃ body goesOn, deed = .scope body goesOn ∧
        (body (process.world.settle Ledger.enter)).1 = .failed .notInitialized) := by
  cases deed with
  | bootstrap config path =>
    have done := served_bootstrap config path process.world running
    exact ⟨done.2, fun refused => absurd refused done.1⟩
  | scope body goesOn =>
    obtain ⟨ended, left⟩ := Deed.perform_scope body goesOn process
    rw [ended, left, withLock, if_pos running]
    exact ⟨goesOn _ running, fun refused => ⟨body, goesOn, rfl, Outcome.forget_failed refused⟩⟩
  | load name module function =>
    have done := Callable.served_load module function process.world running
    obtain ⟨ended, left⟩ := Deed.perform_load name module function process
    rw [ended, left]
    exact ⟨done.2, fun refused => absurd (Outcome.forget_failed refused) done.1⟩
  | use name way value =>
    rw [Deed.perform]
    cases Named.find? name process.world.callables with
    | none => exact ⟨running, by simp⟩
    | some callable =>
      have done := way.served_apply callable value process.world running
      exact ⟨done.2, fun refused => absurd refused done.1⟩
  | operate operation =>
    rw [Deed.perform]
    split <;> exact ⟨running, by simp⟩

theorem run_cons (deed : Deed) (rest : List Deed) (process : Process) :
    run (deed :: rest) process = (deed.perform process).2 ∨
      run (deed :: rest) process = run rest (deed.perform process).2 := by
  rw [run]
  rcases deed.perform process with ⟨_ | _ | _ | status, after⟩
  · exact .inr rfl
  · exact .inr rfl
  · exact .inr rfl
  · exact .inl rfl

theorem run_lives {deed : Deed} (lives : ∀ status, (deed.perform process).1 ≠ .exited status)
    (rest : List Deed) : run (deed :: rest) process = run rest (deed.perform process).2 := by
  rw [run]
  rcases ran : deed.perform process with ⟨_ | _ | _ | status, after⟩
  · rfl
  · rfl
  · rfl
  · exact absurd (congrArg (·.1) ran) (lives status)

theorem run_running (history : List Deed) (running : process.world.running = true) :
    (run history process).world.running = true := by
  induction history generalizing process with
  | nil => exact running
  | cons deed rest ih =>
    have goesOn := (perform_running running deed).1
    rcases run_cons deed rest process with same | same <;> rw [same]
    · exact goesOn
    · exact ih goesOn

-- Whatever was done, if the interpreter does not run then there is nothing of it, and the lock is free.
def Sound (process : Process) : Prop :=
  process.world.running = false → process.Bare ∧ process.world.store.ledger.depth = 0

theorem Sound.perform (sound : process.Sound) (deed : Deed) : (deed.perform process).2.Sound := by
  intro stopped
  cases before : process.world.running with
  | true =>
    rw [(perform_running before deed).1] at stopped
    cases stopped
  | false =>
    obtain ⟨bare, free⟩ := sound before
    obtain ⟨-, running⟩ | ⟨-, rests⟩ := bare.perform deed
    · rw [running] at stopped
      cases stopped
    · exact ⟨rests.bare, rests.unlocked.depth.trans free⟩

theorem Sound.run (sound : process.Sound) (history : List Deed) : (process.run history).Sound := by
  induction history generalizing process with
  | nil => exact sound
  | cons deed rest ih =>
    rcases run_cons deed rest process with same | same <;> rw [same]
    · exact sound.perform deed
    · exact ih (sound.perform deed)

theorem sound_initial (site : Site) : (initial site).Sound := fun _ => ⟨bare_initial site, rfl⟩

-- The first deed that starts the interpreter has it running for good, and nothing else does. The induction
-- is on the history, from any process in which the interpreter does not run.
theorem Bare.run_running_iff (bare : process.Bare) (history : List Deed) :
    (run history process).world.running = true ↔ ∃ front deed back, history = front ++ deed :: back ∧
      (run front process).world.running = false ∧ deed.Starts (run front process) := by
  induction history generalizing process with
  | nil =>
    refine ⟨fun running => ?_, fun ⟨front, deed, back, split, _⟩ => ?_⟩
    · exact absurd (running.symm.trans bare.stopped) (by decide)
    · exact absurd split.symm (List.append_ne_nil_of_right_ne_nil front (List.cons_ne_nil deed back))
  | cons deed rest ih =>
    obtain ⟨starts, running⟩ | ⟨idle, rests⟩ := bare.perform deed
    · refine ⟨fun _ => ⟨[], deed, rest, rfl, bare.stopped, starts⟩, fun _ => ?_⟩
      rcases run_cons deed rest process with same | same <;> rw [same]
      · exact running
      · exact run_running rest running
    · have goes := run_lives rests.lives
      rw [goes, ih rests.bare]
      constructor
      · rintro ⟨front, first, back, rfl, stopped, starts⟩
        rw [← goes] at stopped starts
        exact ⟨deed :: front, first, back, rfl, stopped, starts⟩
      · rintro ⟨front, first, back, split, stopped, starts⟩
        cases front with
        | nil =>
          obtain ⟨rfl, rfl⟩ := List.cons.inj split
          exact absurd starts idle
        | cons head front =>
          obtain ⟨rfl, rfl⟩ := List.cons.inj split
          rw [goes] at stopped starts
          exact ⟨front, first, back, rfl, stopped, starts⟩

-- What a process can do without the interpreter: nothing that takes the lock. Watched with any ledger in its
-- place, no deed touches the lock or a reference as long as the interpreter does not run; the deed that
-- starts it does everything else after that.
structure Refuses (process : Process) : Prop where
  lock : ∀ {α : Type} (body : Bridge α), withLock body process.world = (.failed .notInitialized, process.world)
  load : ∀ module function,
    Callable.load module function process.world = (.failed .notInitialized, process.world)
  use : ∀ (way : Use) callable value,
    way.apply callable value process.world = (.failed .notInitialized, process.world)
  free : process.world.isHeld = false
  callables : process.world.callables = []
  inHand : process.inHand = []
  payloads : ∀ payload ∈ process.world.store.stored, payload.held? = none
  rests : ∀ (deed : Deed) ledger, (deed.perform (process.watched ledger)).2.world.running = false →
    ledger.Unlocked (deed.perform (process.watched ledger)).2.world.store.ledger
  starts : ∀ (deed : Deed) ledger, (deed.perform (process.watched ledger)).2.world.running = true →
    ∃ config path, ∃ preloaded : World, deed = .bootstrap config path ∧
      ledger.Unlocked preloaded.store.ledger ∧
      Bridge.bootstrap config path (process.watched ledger).world =
        (log .interpreterInitialized >>= fun _ => runSetup path) { preloaded with running := true }

theorem Bare.refuses (bare : process.Bare) (free : process.world.store.ledger.depth = 0) :
    process.Refuses where
  lock := withLock_stopped bare.stopped
  load _ _ := withLock_stopped bare.stopped _
  use way callable value := by
    have lock : ∀ {γ : Type} (body : Bridge γ), withLock body process.world = _ := withLock_stopped bare.stopped
    cases way with
    | sink => exact lock _
    | filter =>
      rw [Use.apply, Adapter.filter, lock]
      rfl
    | transform destination =>
      rw [Use.apply, Adapter.transform, if_neg (by simp [bare.stopped])]
      rfl
    | hash =>
      rw [Use.apply, Adapter.hash, lock]
      rfl
  free := by
    rw [World.isHeld, Ledger.isHeld, free]
    rfl
  callables := bare.callables
  inHand := bare.inHand
  payloads := bare.store.stored
  rests deed ledger stopped := by
    obtain ⟨-, running⟩ | ⟨-, rests⟩ := (bare.watched ledger).perform deed
    · rw [running] at stopped
      cases stopped
    · exact rests.unlocked
  starts deed ledger running := by
    obtain ⟨⟨config, path, rfl, ready⟩, -⟩ | ⟨-, rests⟩ := (bare.watched ledger).perform deed
    · obtain ⟨-, after, left, unlocked⟩ := preloadConfigured_quiet config (process.watched ledger).world
      exact ⟨config, path, (process.watched ledger).world.settle fun _ => after, rfl, unlocked,
        bootstrap_switched (Prod.ext ready left) bare.stopped⟩
    · rw [rests.bare.stopped] at running
      cases running

end Process

theorem nothing_before_start (site : Site) (history : List Deed) :
    let process := Process.run history (.initial site)
    (process.world.running = true ↔ ∃ front deed back, history = front ++ deed :: back ∧
      (Process.run front (.initial site)).world.running = false ∧
      deed.Starts (Process.run front (.initial site))) ∧
    (process.world.running = true → ∀ later,
      (Process.run (history ++ later) (.initial site)).world.running = true) ∧
    (process.world.running = false → process.Refuses) ∧
    (process.world.running = true → ∀ deed : Deed, (deed.perform process).1 = .failed .notInitialized →
      ∃ body goesOn, deed = .scope body goesOn ∧
        (body (process.world.settle Ledger.enter)).1 = .failed .notInitialized) ∧
    ∀ ledger : Ledger, 0 < ledger.depth → ∀ object change,
      ¬ ledger.Unlocked (ledger.held (·.adjust object change)) := by
  intro process
  have started := (Process.bare_initial site).run_running_iff
  refine ⟨started history, fun running later => ?_, fun stopped => ?_, fun running deed => ?_,
    fun ledger => Ledger.held_seen⟩
  · obtain ⟨front, deed, back, rfl, stopped, starts⟩ := (started history).mp running
    exact (started _).mpr ⟨front, deed, back ++ later, by simp, stopped, starts⟩
  · obtain ⟨bare, free⟩ := (Process.sound_initial site).run history stopped
    exact bare.refuses free
  · exact (Process.perform_running running deed).2

-- A record with an object in its slot, as another process may have sent it.
def Record.ofSlot : Record := ⟨[], some ⟨[(slotName, .reference (some 7))]⟩⟩

-- An empty slot is copied and comes from bytes, the lock and a callable are asked for, and a library that
-- is not there is to be opened.
def Deed.early : List Deed :=
  [.operate (.newPayload "slot" (.reference none)), .operate (.clonePayload "slot" "copy"),
    .operate (.receive "record" slotRegistry Registry.slot_holds_nothing
      (.ofBytes .network (Record.ofSlot.serialize .network))),
    .operate (.attach "record" 7), .scope (Pure.pure [7]) (fun _ running => running),
    .load "callable" "json" "dumps", .use "callable" .sink (.blob ⟨[]⟩),
    .bootstrap ⟨some "lib.so", "info"⟩ []]

-- Nothing is to be opened, but the script is missing.
def Deed.late : Deed := .bootstrap .initial [0x61]

-- On a machine without files and libraries.
def Process.early : Process := run Deed.early (.initial ⟨[], [], [], "", Guest.Interpreter.noCode⟩)

def Process.late : Process := run (Deed.early ++ [.late]) (.initial ⟨[], [], [], "", Guest.Interpreter.noCode⟩)

theorem nothing_before_start_missing :
    Process.early.world.running = false ∧ Process.early.Refuses ∧
      Process.early.world.store.stored.length = 3 ∧
      (Deed.late.perform .early).1 =
        .failed (.setupScriptMissing [0x61] "No such file or directory (os error 2)") ∧
      Process.late.world.running = true ∧
      ((Deed.load "callable" "json" "dumps").perform .late).1 ≠ .failed .notInitialized := by
  have stopped : Process.early.world.running = false := rfl
  obtain ⟨-, -, refuses, -⟩ := nothing_before_start ⟨[], [], [], "", Guest.Interpreter.noCode⟩ Deed.early
  obtain ⟨started, -, -, served, -⟩ := nothing_before_start ⟨[], [], [], "", Guest.Interpreter.noCode⟩ (Deed.early ++ [.late])
  have running := started.mpr ⟨Deed.early, .late, [], rfl, stopped, .initial, [0x61], rfl, rfl⟩
  refine ⟨stopped, refuses stopped, rfl, rfl, running, fun refused => ?_⟩
  obtain ⟨_, _, same, -⟩ := served running (.load "callable" "json" "dumps") refused
  cases same

end RecordBridge
