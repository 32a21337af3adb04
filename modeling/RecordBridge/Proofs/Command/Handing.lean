import RecordBridge.Command.Run
import RecordBridge.Proofs.Bridge.Adapters
import RecordBridge.Proofs.Bridge.Confined

namespace RecordBridge

open Guest (Object)

def Outcome.map {α β : Type} (f : α → β) : Outcome α → Outcome β
  | .returned a => .returned (f a)
  | .failed error => .failed error
  | .panicked => .panicked
  | .exited status => .exited status

namespace Command.Run

-- What an adapter says about a line.
inductive Answer where
  | sunk
  | kept (keep : Bool)
  | made (content : Option Bytes)
  | hashed (code : Int32)

-- The complete output record of a line.
def Answer.record (line : Bytes) : Answer → Bytes
  | .sunk => []
  | .kept keep => if keep then terminated line else []
  | .made content => content.elim [] terminated
  | .hashed code => hashRecord code line

-- Hands a value to the adapter of the operation, with an empty destination if it wants one.
def hand (callable : Callable) (operation : Operation) (value : Value) : Bridge Answer := fun world =>
  match operation with
  | .sink =>
    let done := Adapter.sink callable value world
    (done.1.map fun _ => .sunk, done.2)
  | .filter =>
    let done := Adapter.filter callable value world
    (done.1.map .kept, done.2)
  | .transform =>
    let done := Adapter.transform callable value value.emptyLike world
    (done.outcome.map fun filled => .made (if filled then some done.destination.bytes else none), done.world)
  | .hash =>
    let done := Adapter.hash callable value world
    (done.1.map .hashed, done.2)

-- The calls that a value leads to: one, or none if it cannot be handed over.
def handed (value : Value) : List Object :=
  match value.toObject with
  | .ok argument => [argument]
  | .error _ => []

-- What an operation asks of a result.
def question (operation : Operation) (v : Object) : Guest.Step Unit :=
  match operation with
  | .sink | .transform => .of (.ok ())
  | .filter => v.truth.bind fun _ => .of (.ok ())
  | .hash => (Adapter.lowWord v).bind fun _ => .of (.ok ())

-- What becomes of a result that is asked about: the adapter says something, or the process ends for what the
-- result raised then.
structure Judged (operation : Operation) (v : Object) (interpreter : Guest.Interpreter)
    (done : Outcome Answer × World) : Prop where
  left : done.2.interpreter.program = (question operation v interpreter).2.program
  ends : (∃ answer, done.1 = .returned answer) ∨ (∃ error, done.1 = .failed error) ∨
    ∃ raised status, (question operation v interpreter).1 = .error raised ∧ done.1 = .exited status ∧
      Bridge.EndsFor raised status done.2

-- What becomes of a value, and the arguments that the callable gets for it, one call each.
inductive Called (callable : Callable) (operation : Operation) (value : Value) (before : World)
    (done : Outcome Answer × World) : List Object → Prop where
  | never {error : BridgeError} (undecodable : value.Undecodable) (failed : done.1 = .failed error)
      (left : done.2.interpreter.program = before.interpreter.program) :
      Called callable operation value before done []
  | raised {argument : Object} {raised : Guest.Raised} (holds : value.Holds argument)
      (raises : (callable.call [argument] before.interpreter).1 = .error raised)
      (told : Bridge.Told raised (.invocation callable.function)
        { before with interpreter := (callable.call [argument] before.interpreter).2 } done) :
      Called callable operation value before done [argument]
  | returned {argument v : Object} (holds : value.Holds argument)
      (returns : (callable.call [argument] before.interpreter).1 = .ok v)
      (judged : Judged operation v (callable.call [argument] before.interpreter).2 done) :
      Called callable operation value before done [argument]

theorem bytes_inputOf (blob : Bool) (line : Bytes) : (inputOf blob line).bytes = line := by
  cases blob <;> rfl

theorem apply_hand (callable : Callable) (operation : Operation) (value : Value) (world : World) :
    apply callable operation value world =
      ((hand callable operation value world).1.map (·.record value.bytes),
        (hand callable operation value world).2) := by
  cases operation with
  | sink =>
    change Bridge.bind (Adapter.sink callable value) _ world = _
    unfold Bridge.bind hand
    rcases Adapter.sink callable value world with ⟨a | error | _ | status, after⟩ <;> rfl
  | filter =>
    change Bridge.bind (Adapter.filter callable value) _ world = _
    unfold Bridge.bind hand
    rcases Adapter.filter callable value world with ⟨keep | error | _ | status, after⟩
    · cases keep <;> rfl
    all_goals rfl
  | transform =>
    change Bridge.bind (fun world => (_, world)) _ _ = _
    unfold Bridge.bind hand
    rcases Adapter.transform callable value value.emptyLike world with ⟨filled | error | _ | status, made, after⟩
    · cases filled <;> rfl
    all_goals rfl
  | hash =>
    change Bridge.bind (Adapter.hash callable value) _ world = _
    unfold Bridge.bind hand
    rcases Adapter.hash callable value world with ⟨code | error | _ | status, after⟩ <;> rfl

theorem hand_alike (callable : Callable) (operation : Operation) (value : Value) {one other : World}
    (alike : one.Alike other) :
    Outcome.Alike (hand callable operation value one) (hand callable operation value other) := by
  cases operation with
  | sink =>
    obtain ⟨outcome, after⟩ := (Adapter.confined_sink callable value).alike alike
    exact ⟨congrArg (Outcome.map fun _ => Answer.sunk) outcome, after⟩
  | filter =>
    obtain ⟨outcome, after⟩ := (Adapter.confined_filter callable value).alike alike
    exact ⟨congrArg (Outcome.map Answer.kept) outcome, after⟩
  | transform =>
    obtain ⟨outcome, made, after⟩ := Adapter.confined_transform callable value value.emptyLike alike
    refine ⟨?_, after⟩
    unfold hand
    dsimp only
    rw [outcome, made]
  | hash =>
    obtain ⟨outcome, after⟩ := (Adapter.confined_hash callable value).alike alike
    exact ⟨congrArg (Outcome.map Answer.hashed) outcome, after⟩

theorem hand_running (callable : Callable) (operation : Operation) (value : Value) (world : World) :
    (hand callable operation value world).2.running = world.running := by
  cases operation with
  | sink => exact (Adapter.confined_sink callable value).running world
  | filter => exact (Adapter.confined_filter callable value).running world
  | transform => exact Adapter.running_transform callable value value.emptyLike world
  | hash => exact (Adapter.confined_hash callable value).running world

theorem map_exact {α β : Type} (body : Bridge α) (f : α → β) (world : World) :
    (body >>= fun a => Pure.pure (f a)) world = ((body world).1.map f, (body world).2) := by
  change Bridge.bind body _ world = _
  unfold Bridge.bind
  rcases body world with ⟨a | error | _ | status, after⟩ <;> rfl

theorem withLock_map {α β : Type} (body : Bridge α) (f : α → β) (world : World) :
    Bridge.withLock (body >>= fun a => Pure.pure (f a)) world =
      ((Bridge.withLock body world).1.map f, (Bridge.withLock body world).2) := by
  unfold Bridge.withLock
  split
  · dsimp only [Bridge.held]
    rw [map_exact]
  · rfl

-- The rest of an operation behind the call.
def behind (callable : Callable) (operation : Operation) (value : Value) (v : Object) : Bridge Answer :=
  match operation with
  | .sink => return .sunk
  | .filter => Adapter.weigh callable v >>= fun keep => Pure.pure (.kept keep)
  | .transform =>
    let filled := Adapter.fill callable v value.emptyLike
    filled.1 >>= fun full => Pure.pure (.made (if full then some filled.2.bytes else none))
  | .hash => Adapter.judge callable v >>= fun code => Pure.pure (.hashed code)

theorem hand_scope (callable : Callable) (operation : Operation) (value : Value) (world : World) :
    hand callable operation value world =
      Bridge.withLock (Adapter.callWith callable value >>= behind callable operation value) world := by
  cases operation with
  | sink =>
    have mapped := withLock_map (Adapter.callWith callable value >>= fun _ => Pure.pure ())
      (fun _ => Answer.sunk) world
    rw [Bridge.bind_assoc] at mapped
    exact mapped.symm
  | filter =>
    have mapped := withLock_map (Adapter.callWith callable value >>= Adapter.weigh callable) Answer.kept world
    rw [Bridge.bind_assoc] at mapped
    exact mapped.symm
  | transform =>
    unfold hand Adapter.transform Bridge.withLock
    dsimp only
    split
    · rcases called : Adapter.callWith callable value (world.settle Ledger.enter) with
        ⟨v | error | _ | status, after⟩
      · rw [Bridge.held, Bridge.bind_of_returned called, behind, map_exact]
        rfl
      · rw [Bridge.held, Bridge.bind_of_failed called]
        rfl
      · rw [Bridge.held, Bridge.bind_of_panicked called]
        rfl
      · rw [Bridge.held, Bridge.bind_of_exited called]
        rfl
    · rfl
  | hash =>
    have mapped := withLock_map (Adapter.callWith callable value >>= Adapter.judge callable) Answer.hashed world
    rw [Bridge.bind_assoc] at mapped
    exact mapped.symm

section Judging

variable {operation : Operation} {v : Object}

-- A step that the operation asks of a result, and what was made of its value.
theorem judged_resolved {α β : Type} {step : Guest.Step α} {result : α → β} {cause : String → BridgeError}
    {interpreter : Guest.Interpreter} {done : Outcome β × World}
    (resolved : Bridge.Resolves step interpreter result cause done) (f : β → Answer)
    (asks : question operation v = step.bind fun _ => .of (.ok ())) :
    Judged operation v interpreter (done.1.map f, done.2) := by
  rcases came : step interpreter with ⟨e | a, after⟩
  · have asked : question operation v interpreter = (.error e, after) := by
      rw [asks, Guest.Step.bind, came]
    refine ⟨?_, ?_⟩
    · rw [asked]
      exact resolved.left.trans (by rw [came])
    · by_cases ordinary : e.Ordinary
      · exact .inr (.inl ⟨_, congrArg (Outcome.map f) (resolved.failed e (by rw [came]) ordinary)⟩)
      · obtain ⟨status, exited, ends⟩ := resolved.exited e (by rw [came]) ordinary
        exact .inr (.inr ⟨e, status, congrArg (·.1) asked, congrArg (Outcome.map f) exited, ends⟩)
  · have asked : question operation v interpreter = (.ok (), after) := by
      rw [asks, Guest.Step.bind, came]
      rfl
    refine ⟨?_, .inl ⟨_, congrArg (Outcome.map f) (resolved.answered a (by rw [came]))⟩⟩
    rw [asked]
    exact resolved.left.trans (by rw [came])

theorem behind_judged (callable : Callable) (operation : Operation) (value : Value) (v : Object)
    (world : World) : Judged operation v world.interpreter (behind callable operation value v world) := by
  cases operation with
  | sink => exact ⟨rfl, .inl ⟨_, rfl⟩⟩
  | filter =>
    rw [behind, map_exact]
    exact judged_resolved (Adapter.weigh_resolves callable v world) Answer.kept rfl
  | transform =>
    rw [behind, map_exact]
    have filled := Adapter.gives_fill callable v value.emptyLike world
    refine ⟨filled.2.program, ?_⟩
    dsimp only
    rw [filled.1]
    split
    · exact .inl ⟨_, rfl⟩
    · split
      · exact .inl ⟨_, rfl⟩
      · exact .inr (.inl ⟨_, rfl⟩)
  | hash =>
    rw [behind, map_exact]
    exact judged_resolved (Adapter.judge_resolves callable v world) Answer.hashed rfl

end Judging

theorem hand_called (callable : Callable) (operation : Operation) (value : Value) {world : World}
    (running : world.running = true) :
    Called callable operation value world (hand callable operation value world) (handed value) := by
  rw [hand_scope, Bridge.withLock, if_pos running]
  obtain ⟨argument, made, holds, -⟩ | ⟨raised, refused, usual, undecodable⟩ := value.toObject_decided
  · have once : handed value = [argument] := by rw [handed, made]
    rw [once]
    cases answered : (callable.call [argument] world.interpreter).1 with
    | error raised =>
      have told := (@Adapter.callWith_raised Value _ callable value argument made
        (world.settle Ledger.enter) raised answered).bind (behind callable operation value)
      exact .raised holds answered ⟨⟨told.same.program, told.same.running⟩, told.failed, told.exited⟩
    | ok v =>
      have returned := @Adapter.callWith_returned Value _ callable value argument made
        (world.settle Ledger.enter) v answered
      have judged := behind_judged callable operation value v
        { world.settle Ledger.enter with interpreter := (callable.call [argument] world.interpreter).2 }
      rw [Bridge.held, Bridge.bind_of_returned returned]
      exact .returned holds answered ⟨judged.left, judged.ends⟩
  · have never : handed value = [] := by rw [handed, refused]
    have told := @Adapter.callWith_refused Value _ callable value raised refused (world.settle Ledger.enter)
    rw [never, Bridge.held, Bridge.bind_of_failed (Prod.ext (told.failed usual) rfl)]
    exact .never undecodable rfl told.same.program

-- A line that passes was handed over.
theorem Called.once {callable : Callable} {operation : Operation} {value : Value} {before : World}
    {done : Outcome Answer × World} {made : List Object} {answer : Answer}
    (called : Called callable operation value before done made) (passes : done.1 = .returned answer) :
    ∃ argument, made = [argument] := by
  cases called with
  | never undecodable failed left => cases passes.symm.trans failed
  | raised holds raises told => exact ⟨_, rfl⟩
  | returned holds returns judged => exact ⟨_, rfl⟩

end Command.Run
end RecordBridge
