import RecordBridge.Bridge.Report
import RecordBridge.Proofs.Guest.Answers

namespace RecordBridge

variable {α β : Type}

-- All that the interpreted program can tell apart: its own state, and whether it runs.
structure World.SameProgram (before after : World) : Prop where
  program : after.interpreter.program = before.interpreter.program
  running : after.running = before.running

namespace World

theorem SameProgram.refl (world : World) : world.SameProgram world := ⟨rfl, rfl⟩

theorem SameProgram.trans {first second third : World} (one : first.SameProgram second)
    (two : second.SameProgram third) : first.SameProgram third :=
  ⟨two.program.trans one.program, two.running.trans one.running⟩

theorem sameProgram_settle (world : World) (change : Ledger → Ledger) :
    world.SameProgram (world.settle change) := ⟨rfl, rfl⟩

end World

namespace Bridge

-- Always ends in this way, and changes nothing of the program.
def Gives (body : Bridge α) (outcome : Outcome α) : Prop :=
  ∀ world, (body world).1 = outcome ∧ World.SameProgram world (body world).2

-- Always returns something, and changes nothing of the program.
def Quiet (body : Bridge α) : Prop :=
  ∀ world, (∃ a, (body world).1 = .returned a) ∧ World.SameProgram world (body world).2

-- Changes nothing of the program, however it ends.
def Leaves (body : Bridge α) : Prop := ∀ world, World.SameProgram world (body world).2

theorem Gives.leaves {body : Bridge α} {outcome : Outcome α} (gives : body.Gives outcome) : body.Leaves :=
  fun world => (gives world).2

theorem Quiet.leaves {body : Bridge α} (quiet : body.Quiet) : body.Leaves := fun world => (quiet world).2

section Binding

variable {first : Bridge α} {next : α → Bridge β} {world after : World}

theorem bind_of_returned {a : α} (ran : first world = (.returned a, after)) :
    (first >>= next) world = next a after := by
  change Bridge.bind first next world = _
  rw [Bridge.bind, ran]

theorem bind_of_failed {error : BridgeError} (ran : first world = (.failed error, after)) :
    (first >>= next) world = (.failed error, after) := by
  change Bridge.bind first next world = _
  rw [Bridge.bind, ran]

theorem bind_of_panicked (ran : first world = (.panicked, after)) :
    (first >>= next) world = (.panicked, after) := by
  change Bridge.bind first next world = _
  rw [Bridge.bind, ran]

theorem bind_of_exited {status : UInt8} (ran : first world = (.exited status, after)) :
    (first >>= next) world = (.exited status, after) := by
  change Bridge.bind first next world = _
  rw [Bridge.bind, ran]

end Binding

theorem bind_assoc {γ : Type} (first : Bridge α) (next : α → Bridge β) (last : β → Bridge γ) :
    (first >>= next) >>= last = first >>= fun a => next a >>= last := by
  funext world
  rcases ran : first world with ⟨a | error | _ | status, after⟩
  · rw [bind_of_returned ran]
    change Bridge.bind (first >>= next) last world = _
    rw [Bridge.bind, bind_of_returned ran]
    rfl
  · rw [bind_of_failed ran, bind_of_failed (bind_of_failed ran)]
  · rw [bind_of_panicked ran, bind_of_panicked (bind_of_panicked ran)]
  · rw [bind_of_exited ran, bind_of_exited (bind_of_exited ran)]

theorem bind_same {first : Bridge α} {next other : α → Bridge β} (same : ∀ a, next a = other a) :
    (first >>= next) = (first >>= other) := congrArg (Bridge.bind first) (funext same)

theorem bind_returned {first : Bridge α} {next : α → Bridge β} {world after : World} {b : β}
    (ended : (first >>= next) world = (.returned b, after)) :
    ∃ a between, first world = (.returned a, between) ∧ next a between = (.returned b, after) := by
  rcases ran : first world with ⟨a | error | _ | status, between⟩
  · rw [bind_of_returned ran] at ended
    exact ⟨a, between, rfl, ended⟩
  · rw [bind_of_failed ran] at ended
    cases ended
  · rw [bind_of_panicked ran] at ended
    cases ended
  · rw [bind_of_exited ran] at ended
    cases ended

theorem bind_exited {first : Bridge α} {next : α → Bridge β} {world after : World} {status : UInt8}
    (ended : (first >>= next) world = (.exited status, after)) :
    first world = (.exited status, after) ∨
      ∃ a between, first world = (.returned a, between) ∧ next a between = (.exited status, after) := by
  rcases ran : first world with ⟨a | error | _ | status, between⟩
  · rw [bind_of_returned ran] at ended
    exact .inr ⟨a, between, rfl, ended⟩
  · rw [bind_of_failed ran] at ended
    cases ended
  · rw [bind_of_panicked ran] at ended
    cases ended
  · rw [bind_of_exited ran] at ended
    cases ended
    exact .inl rfl

-- What every part does to the world, the whole does, if it can be put together from parts.
theorem bind_moves (R : World → World → Prop)
    (together : ∀ {before between after}, R before between → R between after → R before after)
    {first : Bridge α} {next : α → Bridge β} (one : ∀ world, R world (first world).2)
    (two : ∀ a world, R world (next a world).2) (world : World) : R world ((first >>= next) world).2 := by
  have head := one world
  rcases ran : first world with ⟨a | error | _ | status, after⟩ <;> rw [ran] at head
  · rw [bind_of_returned ran]
    exact together head (two a after)
  · rw [bind_of_failed ran]
    exact head
  · rw [bind_of_panicked ran]
    exact head
  · rw [bind_of_exited ran]
    exact head

theorem Leaves.bind {first : Bridge α} {next : α → Bridge β} (one : first.Leaves)
    (two : ∀ a, (next a).Leaves) : (first >>= next).Leaves :=
  bind_moves World.SameProgram World.SameProgram.trans one two

theorem Gives.quiet {body : Bridge α} {a : α} (gives : body.Gives (.returned a)) : body.Quiet :=
  fun world => ⟨⟨a, (gives world).1⟩, (gives world).2⟩

theorem Gives.bind {first : Bridge α} {next : α → Bridge β} {a : α} {outcome : Outcome β}
    (one : first.Gives (.returned a)) (two : (next a).Gives outcome) : (first >>= next).Gives outcome := by
  intro world
  obtain ⟨returned, same⟩ := one world
  rw [bind_of_returned (Prod.ext returned rfl)]
  exact ⟨(two _).1, same.trans (two _).2⟩

-- What comes next does not depend on what was returned.
theorem Quiet.bind {first : Bridge α} {next : α → Bridge β} {outcome : Outcome β} (one : first.Quiet)
    (two : ∀ a, (next a).Gives outcome) : (first >>= next).Gives outcome := by
  intro world
  obtain ⟨⟨a, returned⟩, same⟩ := one world
  rw [bind_of_returned (Prod.ext returned rfl)]
  exact ⟨(two a _).1, same.trans (two a _).2⟩

theorem gives_pure (a : α) : (Pure.pure a : Bridge α).Gives (.returned a) :=
  fun world => ⟨rfl, World.SameProgram.refl world⟩

theorem gives_fail (error : BridgeError) : (fail error : Bridge α).Gives (.failed error) :=
  fun world => ⟨rfl, World.SameProgram.refl world⟩

theorem gives_log (event : Event) : (log event).Gives (.returned ()) :=
  fun world => ⟨rfl, world.sameProgram_settle _⟩

theorem gives_showRaised (raised : Guest.Raised) : (showRaised raised).Gives (.returned ()) :=
  fun _ => ⟨rfl, rfl, rfl⟩

theorem gives_flushOne (name : String) (flushed : Except Guest.Raised Unit) :
    (flushOne name flushed).Gives (.returned ()) := by
  cases flushed with
  | ok done => exact gives_pure ()
  | error e => exact gives_log _

theorem quiet_onInterpreter {step : Guest.Step α}
    (still : ∀ interpreter, (step interpreter).2.program = interpreter.program) :
    (onInterpreter step).Quiet := fun world => ⟨⟨_, rfl⟩, still world.interpreter, rfl⟩

theorem gives_flushStreams : flushStreams.Gives (.returned ()) := by
  have errors : (onInterpreter fun interpreter =>
      let done := interpreter.stderr.flush "stderr"
      (done.1, { interpreter with stderr := done.2 })).Quiet := quiet_onInterpreter fun _ => rfl
  have output : (onInterpreter fun interpreter =>
      let done := interpreter.stdout.flush "stdout"
      (done.1, { interpreter with stdout := done.2 })).Quiet := quiet_onInterpreter fun _ => rfl
  refine errors.bind fun first => (gives_flushOne "stderr" first).bind ?_
  exact output.bind fun second => gives_flushOne "stdout" second

theorem gives_report {raised : Guest.Raised} (ordinary : raised.Ordinary) :
    (report raised).Gives (.returned raised.summary) := by
  rw [Guest.Raised.Ordinary] at ordinary
  unfold report
  rw [ordinary]
  exact (gives_showRaised raised).bind (gives_flushStreams.bind (gives_pure raised.summary))

theorem leaves_report (raised : Guest.Raised) : (report raised).Leaves := by
  cases asked : raised.exitStatus? with
  | none => exact (gives_report asked).leaves
  | some status =>
    intro world
    unfold report
    rw [asked]
    exact World.SameProgram.refl world

theorem gives_reported {raised : Guest.Raised} (ordinary : raised.Ordinary) (cause : String → BridgeError) :
    (do let message ← report raised; fail (cause message) : Bridge α).Gives
      (.failed (cause raised.summary)) :=
  (gives_report ordinary).bind (gives_fail _)

-- The process ends with the status that the exception asks for, as far as the streams allow.
def EndsFor (raised : Guest.Raised) (status : UInt8) (after : World) : Prop :=
  ∃ code, raised.exitStatus? = some code ∧ status = after.interpreter.endStatus code

-- Ends in the error for an exception, or ends the process if the exception asks for it, and changes nothing
-- of the program.
structure Told (raised : Guest.Raised) (cause : String → BridgeError) (before : World)
    (done : Outcome α × World) : Prop where
  same : before.SameProgram done.2
  failed : raised.Ordinary → done.1 = .failed (cause raised.summary)
  exited : ¬ raised.Ordinary → ∃ status, done.1 = .exited status ∧ EndsFor raised status done.2

def Tells (body : Bridge α) (raised : Guest.Raised) (cause : String → BridgeError) : Prop :=
  ∀ world, Told raised cause world (body world)

section Telling

variable {raised : Guest.Raised} {cause : String → BridgeError}

theorem Told.stops {before : World} {done : Outcome α × World} (told : Told raised cause before done) (a : α) :
    done.1 ≠ .returned a := by
  intro returned
  by_cases ordinary : raised.Ordinary
  · cases returned.symm.trans (told.failed ordinary)
  · obtain ⟨status, exited, -⟩ := told.exited ordinary
    cases returned.symm.trans exited

theorem Told.ends {before : World} {done : Outcome α × World} (told : Told raised cause before done)
    {status : UInt8} (ended : done.1 = .exited status) : EndsFor raised status done.2 := by
  by_cases ordinary : raised.Ordinary
  · cases ended.symm.trans (told.failed ordinary)
  · obtain ⟨asked, exited, ends⟩ := told.exited ordinary
    cases ended.symm.trans exited
    exact ends

theorem Told.bind {first : Bridge α} {before world : World} (told : Told raised cause before (first world))
    (next : α → Bridge β) : Told raised cause before ((first >>= next) world) := by
  by_cases ordinary : raised.Ordinary
  · rw [bind_of_failed (Prod.ext (told.failed ordinary) rfl)]
    exact ⟨told.same, fun _ => rfl, fun other => absurd ordinary other⟩
  · obtain ⟨status, exited, ends⟩ := told.exited ordinary
    rw [bind_of_exited (Prod.ext exited rfl)]
    exact ⟨told.same, fun usual => absurd usual ordinary, fun _ => ⟨status, rfl, ends⟩⟩

theorem tells_reported (raised : Guest.Raised) (cause : String → BridgeError) :
    (do let message ← report raised; fail (cause message) : Bridge α).Tells raised cause := by
  intro world
  cases asked : raised.exitStatus? with
  | none =>
    obtain ⟨failed, same⟩ := @gives_reported α raised asked cause world
    exact ⟨same, fun _ => failed, fun other => absurd asked other⟩
  | some code =>
    have ended : report raised world = (.exited (world.interpreter.endStatus code), world) := by
      unfold report
      rw [asked]
      rfl
    rw [bind_of_exited ended]
    refine ⟨World.SameProgram.refl world, fun ordinary => ?_, fun _ => ⟨_, rfl, code, asked, rfl⟩⟩
    cases asked.symm.trans ordinary

theorem Quiet.tells {first : Bridge α} {next : α → Bridge β} (one : first.Quiet)
    (two : ∀ a, (next a).Tells raised cause) : (first >>= next).Tells raised cause := by
  intro world
  obtain ⟨⟨a, returned⟩, same⟩ := one world
  rw [bind_of_returned (Prod.ext returned rfl)]
  obtain ⟨later, failed, exited⟩ := two a (first world).2
  exact ⟨same.trans later, failed, exited⟩

end Telling

-- What becomes of a step of the program: its value is made a result of, its exception is told, and what it
-- left of the program stays.
structure Resolves (step : Guest.Step α) (interpreter : Guest.Interpreter) (result : α → β)
    (cause : String → BridgeError) (done : Outcome β × World) : Prop where
  left : done.2.interpreter.program = (step interpreter).2.program
  answered : ∀ a, (step interpreter).1 = .ok a → done.1 = .returned (result a)
  failed : ∀ e, (step interpreter).1 = .error e → e.Ordinary → done.1 = .failed (cause e.summary)
  exited : ∀ e, (step interpreter).1 = .error e → ¬ e.Ordinary →
    ∃ status, done.1 = .exited status ∧ EndsFor e status done.2

theorem Resolves.returned {step : Guest.Step α} {interpreter : Guest.Interpreter} {result : α → β}
    {cause : String → BridgeError} {done : Outcome β × World} {b : β}
    (resolved : Resolves step interpreter result cause done) (ended : done.1 = .returned b) :
    ∃ a, (step interpreter).1 = .ok a ∧ b = result a := by
  cases came : (step interpreter).1 with
  | ok a => exact ⟨a, rfl, Outcome.returned.inj (ended.symm.trans (resolved.answered a came))⟩
  | error e =>
    by_cases ordinary : e.Ordinary
    · cases ended.symm.trans (resolved.failed e came ordinary)
    · obtain ⟨status, exited, -⟩ := resolved.exited e came ordinary
      cases ended.symm.trans exited

theorem resolves_step {step : Guest.Step α} {result : α → β} {cause : String → BridgeError}
    {next : Except Guest.Raised α → Bridge β} (answers : ∀ a, next (.ok a) = Pure.pure (result a))
    (raises : ∀ e, (next (.error e)).Tells e cause) (world : World) :
    Resolves step world.interpreter result cause ((onInterpreter step >>= next) world) := by
  have stepped : onInterpreter step world =
      (.returned (step world.interpreter).1, { world with interpreter := (step world.interpreter).2 }) := rfl
  rw [bind_of_returned stepped]
  cases came : (step world.interpreter).1 with
  | ok a =>
    rw [answers]
    exact ⟨rfl, fun b same => congrArg (Outcome.returned ∘ result) (Except.ok.inj (came.symm.trans same)),
      fun e other => (nomatch came.symm.trans other), fun e other => (nomatch came.symm.trans other)⟩
  | error e =>
    have told := raises e { world with interpreter := (step world.interpreter).2 }
    refine ⟨told.same.program, fun a other => (nomatch came.symm.trans other), fun raised same ordinary => ?_,
      fun raised same other => ?_⟩
    · cases came.symm.trans same
      exact told.failed ordinary
    · cases came.symm.trans same
      exact told.exited other

theorem quiet_describe (o : Guest.Object) : (describe o).Quiet :=
  fun world => ⟨⟨_, rfl⟩, World.SameProgram.refl world⟩

end Bridge
end RecordBridge
