import RecordBridge.Proofs.Bridge.Preparing
import RecordBridge.Proofs.Command.Handing
import RecordBridge.Proofs.Command.Lines

namespace RecordBridge

open Guest (Object Raised)

-- Whatever else it does, it leaves a note of each call, and no result of it touches the notes when an operation
-- asks about it.
structure Callable.Notes (callable : Callable) : Prop where
  call : ∀ arguments interpreter,
    (callable.call arguments interpreter).2.program.seen = interpreter.program.seen ++ [arguments]
  asked : ∀ operation arguments interpreter v, (callable.call arguments interpreter).1 = .ok v →
    let left := (callable.call arguments interpreter).2
    (Command.Run.question operation v left).2.program.seen = left.program.seen

namespace Command.Run

section Lines

variable (callable : Callable) (operation : Operation) (blob : Bool)

-- The calls that lines lead to, up to and including the first line that fails.
def calls : List Bytes → World → List Object
  | [], _ => []
  | line :: rest, world =>
    match hand callable operation (inputOf blob line) world with
    | (.returned _, next) => handed (inputOf blob line) ++ calls rest next
    | _ => handed (inputOf blob line)

-- Lines with the calls they lead to, the records of those that pass, and how it ends.
inductive Works : World → List Bytes → List Object → List Bytes → Outcome Unit → World → Prop where
  | finished (world : World) : Works world [] [] [] (.returned ()) world
  | pass {world next after : World} {line : Bytes} {rest records : List Bytes} {answer : Answer}
      {argument : Object} {later : List Object} {ending : Outcome Unit}
      (passes : hand callable operation (inputOf blob line) world = (.returned answer, next))
      (called : Called callable operation (inputOf blob line) world (.returned answer, next) [argument])
      (others : Works next rest later records ending after) :
      Works world (line :: rest) (argument :: later) (answer.record line :: records) ending after
  | stop {world after : World} {line : Bytes} {rest : List Bytes} {last : List Object}
      {ended : Outcome Answer}
      (fails : hand callable operation (inputOf blob line) world = (ended, after))
      (without : ∀ answer, ended ≠ .returned answer)
      (called : Called callable operation (inputOf blob line) world (ended, after) last) :
      Works world (line :: rest) last [] (ended.map fun _ => ()) after

end Lines

section Lines

variable {callable : Callable} (operation : Operation) (blob : Bool)

theorem each_passes {line : Bytes} {world next : World} {answer : Answer}
    (passes : hand callable operation (inputOf blob line) world = (.returned answer, next))
    (rest : List Bytes) : each callable operation blob (line :: rest) world =
      (each callable operation blob rest next).after (answer.record line) := by
  rw [each, apply_hand, passes, bytes_inputOf]
  rfl

theorem each_stops {line : Bytes} {world after : World} {ended : Outcome Answer}
    (fails : hand callable operation (inputOf blob line) world = (ended, after))
    (without : ∀ answer, ended ≠ .returned answer) (rest : List Bytes) :
    each callable operation blob (line :: rest) world = ⟨ended.map fun _ => (), [], after⟩ := by
  rw [each, apply_hand, fails]
  cases ended with
  | returned answer => exact absurd rfl (without answer)
  | failed error => rfl
  | panicked => rfl
  | exited status => rfl

theorem calls_passes {line : Bytes} {world next : World} {answer : Answer}
    (passes : hand callable operation (inputOf blob line) world = (.returned answer, next))
    (rest : List Bytes) : calls callable operation blob (line :: rest) world =
      handed (inputOf blob line) ++ calls callable operation blob rest next := by
  rw [calls, passes]

theorem calls_stops {line : Bytes} {world after : World} {ended : Outcome Answer}
    (fails : hand callable operation (inputOf blob line) world = (ended, after))
    (without : ∀ answer, ended ≠ .returned answer) (rest : List Bytes) :
    calls callable operation blob (line :: rest) world = handed (inputOf blob line) := by
  rw [calls, fails]
  cases ended with
  | returned answer => exact absurd rfl (without answer)
  | failed error => rfl
  | panicked => rfl
  | exited status => rfl

-- One line passes or is the last, whatever its adapter says.
theorem hand_decided (callable : Callable) (line : Bytes) (world : World) :
    (∃ answer next, hand callable operation (inputOf blob line) world = (.returned answer, next)) ∨
      ∃ ended after, hand callable operation (inputOf blob line) world = (ended, after) ∧
        ∀ answer, ended ≠ .returned answer := by
  rcases hand callable operation (inputOf blob line) world with ⟨answer | error | _ | status, after⟩
  · exact .inl ⟨answer, after, rfl⟩
  all_goals exact .inr ⟨_, after, rfl, fun _ => nofun⟩

theorem each_works (lines : List Bytes) {world : World} (running : world.running = true) : ∃ records,
    Works callable operation blob world lines (calls callable operation blob lines world) records
        (each callable operation blob lines world).outcome (each callable operation blob lines world).world ∧
      (each callable operation blob lines world).output = records.flatten := by
  -- A line leaves the interpreter running, so the next one can be handed over in the world it left.
  induction lines generalizing world with
  | nil => exact ⟨[], .finished world, rfl⟩
  | cons line rest ih =>
    have called := hand_called callable operation (inputOf blob line) running
    have goes := hand_running callable operation (inputOf blob line) world
    obtain ⟨answer, next, passes⟩ | ⟨ended, after, fails, without⟩ :=
      hand_decided operation blob callable line world
    · rw [passes] at called goes
      obtain ⟨argument, once⟩ := called.once rfl
      rw [once] at called
      obtain ⟨records, works, printed⟩ := ih (goes.trans running)
      refine ⟨answer.record line :: records, ?_, ?_⟩
      · rw [each_passes operation blob passes, calls_passes operation blob passes, once]
        exact .pass passes called works
      · rw [each_passes operation blob passes, List.flatten_cons, ← printed]
        rfl
    · rw [fails] at called
      refine ⟨[], ?_, ?_⟩
      · rw [each_stops operation blob fails without, calls_stops operation blob fails without]
        exact .stop fails without called
      · rw [each_stops operation blob fails without]
        rfl

theorem map_stopped {α : Type} {ended : Outcome α} (without : ∀ answer, ended ≠ .returned answer) :
    (ended.map fun _ => ()) ≠ .returned () := by
  intro returned
  cases ended with
  | returned answer => exact without answer rfl
  | failed error => cases returned
  | panicked => cases returned
  | exited status => cases returned

-- Every line passes exactly if the run returns.
theorem Works.passing {operation : Operation} {blob : Bool} {world after : World} {lines records : List Bytes}
    {made : List Object} {ending : Outcome Unit}
    (works : Works callable operation blob world lines made records ending after) :
    ending = .returned () ∧ records.length = lines.length ∨
      ending ≠ .returned () ∧ records.length < lines.length := by
  induction works with
  | finished world => exact .inl ⟨rfl, rfl⟩
  | pass passes called others ih =>
    obtain ⟨returned, all⟩ | ⟨stopped, fewer⟩ := ih
    · exact .inl ⟨returned, congrArg (· + 1) all⟩
    · exact .inr ⟨stopped, Nat.succ_lt_succ fewer⟩
  | stop fails without called => exact .inr ⟨map_stopped without, Nat.succ_pos _⟩

theorem Called.noted {operation : Operation} {value : Value} {before : World} {done : Outcome Answer × World}
    {made : List Object} (notes : callable.Notes) (called : Called callable operation value before done made) :
    done.2.interpreter.program.seen = before.interpreter.program.seen ++ made.map ([·]) := by
  cases called with
  | never undecodable failed left =>
    rw [left]
    exact (List.append_nil _).symm
  | raised holds raises told =>
    rw [told.same.program]
    exact notes.call _ _
  | returned holds returns judged =>
    rw [judged.left, notes.asked operation _ _ _ returns]
    exact notes.call _ _

theorem Works.noted {operation : Operation} {blob : Bool} {world after : World} {lines records : List Bytes}
    {made : List Object} {ending : Outcome Unit} (notes : callable.Notes)
    (works : Works callable operation blob world lines made records ending after) :
    after.interpreter.program.seen = world.interpreter.program.seen ++ made.map ([·]) := by
  induction works with
  | finished world => exact (List.append_nil _).symm
  | pass passes called others ih =>
    rw [ih, called.noted notes, List.append_assoc]
    rfl
  | stop fails without called => exact called.noted notes

-- The callable gave a result for a value, and that raised what ends the process so when the operation asked
-- about it.
def AskedToEnd (callable : Callable) (operation : Operation) (value : Value) (interpreter : Guest.Interpreter)
    (status : UInt8) (after : World) : Prop :=
  ∃ argument v raised, value.Holds argument ∧ (callable.call [argument] interpreter).1 = .ok v ∧
    (question operation v (callable.call [argument] interpreter).2).1 = .error raised ∧
      Bridge.EndsFor raised status after

-- That happened with one of the lines, after those before it had passed.
def EndedWithin (callable : Callable) (operation : Operation) (blob : Bool) (world : World) (lines : List Bytes)
    (status : UInt8) (after : World) : Prop :=
  ∃ front line rest, lines = front ++ line :: rest ∧
    (each callable operation blob front world).outcome = .returned () ∧
      AskedToEnd callable operation (inputOf blob line) (each callable operation blob front world).world.interpreter
        status after

theorem Called.ending {operation : Operation} {value : Value} {before : World} {done : Outcome Answer × World}
    {made : List Object} (ordinary : callable.RaisesOrdinarily)
    (called : Called callable operation value before done made) (without : ∀ answer, done.1 ≠ .returned answer) :
    status (done.1.map fun _ => ()) = 1 ∨
      AskedToEnd callable operation value before.interpreter (status (done.1.map fun _ => ())) done.2 := by
  cases called with
  | never undecodable failed left => exact .inl (by rw [failed]; rfl)
  | raised holds raises told =>
    exact .inl (by rw [told.failed (ordinary _ _ _ raises)]; rfl)
  | returned holds returns judged =>
    obtain ⟨answer, passes⟩ | ⟨error, failed⟩ | ⟨raised, code, raises, exited, ends⟩ := judged.ends
    · exact absurd passes (without answer)
    · exact .inl (by rw [failed]; rfl)
    · rw [exited]
      exact .inr ⟨_, _, raised, holds, returns, raises, ends⟩

theorem EndedWithin.behind {operation : Operation} {blob : Bool} {world next after : World} {line : Bytes}
    {rest : List Bytes} {answer : Answer} {code : UInt8}
    (passes : hand callable operation (inputOf blob line) world = (.returned answer, next))
    (within : EndedWithin callable operation blob next rest code after) :
    EndedWithin callable operation blob world (line :: rest) code after := by
  obtain ⟨front, last, left, rfl, returned, asked⟩ := within
  refine ⟨line :: front, last, left, rfl, ?_⟩
  rw [each_passes operation blob passes]
  exact ⟨returned, asked⟩

theorem Works.ending {operation : Operation} {blob : Bool} {world after : World} {lines records : List Bytes}
    {made : List Object} {ending : Outcome Unit} (ordinary : callable.RaisesOrdinarily)
    (works : Works callable operation blob world lines made records ending after) :
    (status ending = if records.length = lines.length then 0 else 1) ∨
      records.length < lines.length ∧ EndedWithin callable operation blob world lines (status ending) after := by
  induction works with
  | finished world => exact .inl rfl
  | pass passes called others ih =>
    obtain regular | ⟨fewer, within⟩ := ih
    · left
      simpa only [List.length_cons, Nat.add_left_inj] using regular
    · exact .inr ⟨Nat.succ_lt_succ fewer, within.behind passes⟩
  | @stop world after line rest last ended fails without called =>
    obtain failed | asked := called.ending ordinary without
    · exact .inl failed
    · exact .inr ⟨Nat.succ_pos _, [], line, rest, rfl, rfl, asked⟩

theorem each_goes {first : List Bytes} {world : World}
    (returned : (each callable operation blob first world).outcome = .returned ()) (second : List Bytes) :
    each callable operation blob (first ++ second) world =
        (each callable operation blob second (each callable operation blob first world).world).after
          (each callable operation blob first world).output ∧
      calls callable operation blob (first ++ second) world = calls callable operation blob first world ++
        calls callable operation blob second (each callable operation blob first world).world := by
  induction first generalizing world with
  | nil => exact ⟨rfl, rfl⟩
  | cons line rest ih =>
    obtain ⟨answer, next, passes⟩ | ⟨ended, after, fails, without⟩ :=
      hand_decided operation blob callable line world
    · rw [each_passes operation blob passes] at returned
      obtain ⟨later, called⟩ := ih returned
      rw [List.cons_append, each_passes operation blob passes, each_passes operation blob passes,
        calls_passes operation blob passes, calls_passes operation blob passes, later, called]
      refine ⟨?_, (List.append_assoc _ _ _).symm⟩
      exact congrArg (fun output => Progress.mk _ output _) (List.append_assoc _ _ _).symm
    · rw [each_stops operation blob fails without] at returned
      exact absurd returned (map_stopped without)

-- What was not yet handed over when the run stopped makes no difference.
theorem each_ceases {first : List Bytes} {world : World}
    (stopped : (each callable operation blob first world).outcome ≠ .returned ()) (second : List Bytes) :
    each callable operation blob (first ++ second) world = each callable operation blob first world ∧
      calls callable operation blob (first ++ second) world = calls callable operation blob first world := by
  induction first generalizing world with
  | nil => exact absurd rfl stopped
  | cons line rest ih =>
    rw [List.cons_append]
    obtain ⟨answer, next, passes⟩ | ⟨ended, after, fails, without⟩ :=
      hand_decided operation blob callable line world
    · rw [each_passes operation blob passes] at stopped
      obtain ⟨later, called⟩ := ih stopped
      rw [each_passes operation blob passes, each_passes operation blob passes,
        calls_passes operation blob passes, calls_passes operation blob passes, later, called]
      exact ⟨rfl, rfl⟩
    · rw [each_stops operation blob fails without, each_stops operation blob fails without,
        calls_stops operation blob fails without, calls_stops operation blob fails without]
      exact ⟨rfl, rfl⟩

-- The same lines in worlds that differ only in what the bridge keeps. Two runs of the command in a row
-- differ from one in what was logged in between, so this is what puts them together.
theorem each_alike (lines : List Bytes) {one other : World} (alike : one.Alike other) :
    (each callable operation blob lines one).outcome = (each callable operation blob lines other).outcome ∧
      (each callable operation blob lines one).output = (each callable operation blob lines other).output ∧
      (each callable operation blob lines one).world.Alike (each callable operation blob lines other).world ∧
      calls callable operation blob lines one = calls callable operation blob lines other := by
  induction lines generalizing one other with
  | nil => exact ⟨rfl, rfl, alike, rfl⟩
  | cons line rest ih =>
    obtain ⟨same, later⟩ := hand_alike callable operation (inputOf blob line) alike
    obtain ⟨answer, next, passes⟩ | ⟨ended, after, fails, without⟩ :=
      hand_decided operation blob callable line one
    · rw [passes] at same later
      have again : hand callable operation (inputOf blob line) other =
        (.returned answer, (hand callable operation (inputOf blob line) other).2) := Prod.ext same.symm rfl
      obtain ⟨outcome, output, worlds, called⟩ := ih later
      rw [each_passes operation blob passes, calls_passes operation blob passes, each_passes operation blob again,
        calls_passes operation blob again]
      exact ⟨outcome, congrArg (answer.record line ++ ·) output, worlds, congrArg (_ ++ ·) called⟩
    · rw [fails] at same later
      have again : hand callable operation (inputOf blob line) other =
        (ended, (hand callable operation (inputOf blob line) other).2) := Prod.ext same.symm rfl
      rw [each_stops operation blob fails without, calls_stops operation blob fails without,
        each_stops operation blob again without, calls_stops operation blob again without]
      exact ⟨rfl, rfl, later, rfl⟩

end Lines

-- A run whose callable has been looked up.
def conclude (arguments : Arguments) (callable : Callable) (input : Bytes) (ready : World) : Progress :=
  finish (Lines.ofBytes input) (each callable arguments.operation arguments.blob (Lines.ofBytes input) ready)

theorem finish_exact (lines : List Bytes) (progress : Progress) :
    (finish lines progress).outcome = progress.outcome ∧ (finish lines progress).output = progress.output ∧
      (finish lines progress).world.Alike progress.world := by
  unfold finish
  split
  · exact ⟨rfl, rfl, rfl, rfl⟩
  · exact ⟨rfl, rfl, rfl, rfl⟩

theorem finish_stopped (lines : List Bytes) {progress : Progress} (stopped : progress.outcome ≠ .returned ()) :
    finish lines progress = progress := by
  unfold finish
  split
  · rename_i returned
    exact absurd returned stopped
  · rfl

-- Lines handed over in order, with the calls that the callable has seen for them and what is printed.
structure Worked (arguments : Arguments) (callable : Callable) (lines : List Bytes) (made : List Object)
    (ready : World) (records : List Bytes) (progress : Progress) : Prop where
  works : ∃ after, Works callable arguments.operation arguments.blob ready lines made records progress.outcome
    after ∧ progress.world.Alike after
  output : progress.output = records.flatten
  noted : callable.Notes → progress.world.interpreter.program.seen =
    ready.interpreter.program.seen ++ made.map ([·])

theorem conclude_worked (arguments : Arguments) (callable : Callable) (input : Bytes) {ready : World}
    (running : ready.running = true) : ∃ records, Worked arguments callable (Lines.ofBytes input)
      (calls callable arguments.operation arguments.blob (Lines.ofBytes input) ready) ready records
      (conclude arguments callable input ready) := by
  obtain ⟨records, works, printed⟩ :=
    @each_works callable arguments.operation arguments.blob (Lines.ofBytes input) ready running
  obtain ⟨outcome, output, same⟩ := finish_exact (Lines.ofBytes input)
    (each callable arguments.operation arguments.blob (Lines.ofBytes input) ready)
  refine ⟨records, ⟨_, outcome ▸ works, same⟩, output.trans printed, fun notes => ?_⟩
  rw [conclude, same.interpreter]
  exact works.noted notes

-- An account of a run: the status tells whether all lines passed, unless a result that was asked about ended
-- the process from within.
def Accounted (arguments : Arguments) (callable : Callable) (input : Bytes) (ready : World)
    (progress : Progress) : Prop :=
  let lines := Lines.ofBytes input
  ∃ records, Worked arguments callable lines (calls callable arguments.operation arguments.blob lines ready) ready
      records progress ∧
    ((status progress.outcome = if records.length = lines.length then 0 else 1) ∨
      records.length < lines.length ∧
        EndedWithin callable arguments.operation arguments.blob ready lines (status progress.outcome)
          progress.world)

theorem conclude_accounted (arguments : Arguments) {callable : Callable} (ordinary : callable.RaisesOrdinarily)
    (input : Bytes) {ready : World} (running : ready.running = true) :
    Accounted arguments callable input ready (conclude arguments callable input ready) := by
  obtain ⟨records, worked⟩ := conclude_worked arguments callable input running
  obtain ⟨after, works, same⟩ := worked.works
  refine ⟨records, worked, ?_⟩
  obtain regular | ⟨fewer, front, line, rest, split, passed, argument, v, raised, holds, returns, raises, ends⟩ :=
    works.ending ordinary
  · exact .inl regular
  · rw [Bridge.EndsFor, ← same.interpreter] at ends
    exact .inr ⟨fewer, front, line, rest, split, passed, argument, v, raised, holds, returns, raises, ends⟩

-- An input in two parts: the second is worked through where the first left the interpreter, or not at
-- all if the first stopped.
def Continues (arguments : Arguments) (callable : Callable) (first second : Bytes) (ready : World) : Prop :=
  let made := fun input => calls callable arguments.operation arguments.blob (Lines.ofBytes input)
  let early := conclude arguments callable first ready
  let whole := conclude arguments callable (first ++ second) ready
  (early.outcome = .returned () → ∀ left : World, left.Alike early.world →
    let late := conclude arguments callable second left
    whole.outcome = late.outcome ∧ whole.output = early.output ++ late.output ∧ whole.world.Alike late.world ∧
      made (first ++ second) ready = made first ready ++ made second left) ∧
    (early.outcome ≠ .returned () → whole = early ∧ made (first ++ second) ready = made first ready)

theorem conclude_continues (arguments : Arguments) (callable : Callable) {first : Bytes}
    (whole : Lines.Whole first) (second : Bytes) (ready : World) :
    Continues arguments callable first second ready := by
  obtain ⟨earlyOutcome, earlyOutput, earlyWorld⟩ := finish_exact (Lines.ofBytes first)
    (each callable arguments.operation arguments.blob (Lines.ofBytes first) ready)
  dsimp only [Continues, conclude]
  rw [Lines.ofBytes_append whole, earlyOutcome]
  refine ⟨fun returned left alike => ?_, fun stopped => ?_⟩
  · obtain ⟨later, called⟩ := each_goes arguments.operation arguments.blob returned (Lines.ofBytes second)
    obtain ⟨outcome, output, world, same⟩ := @each_alike callable arguments.operation arguments.blob
      (Lines.ofBytes second) _ _ (alike.trans earlyWorld)
    obtain ⟨wholeOutcome, wholeOutput, wholeWorld⟩ := finish_exact (Lines.ofBytes first ++ Lines.ofBytes second)
      (each callable arguments.operation arguments.blob (Lines.ofBytes first ++ Lines.ofBytes second) ready)
    obtain ⟨lateOutcome, lateOutput, lateWorld⟩ := finish_exact (Lines.ofBytes second)
      (each callable arguments.operation arguments.blob (Lines.ofBytes second) left)
    rw [later] at wholeOutcome wholeOutput wholeWorld
    rw [later]
    refine ⟨?_, ?_, ?_, ?_⟩
    · exact wholeOutcome.trans (outcome.symm.trans lateOutcome.symm)
    · rw [wholeOutput, earlyOutput, lateOutput, output]
      rfl
    · exact wholeWorld.trans (world.symm.trans lateWorld.symm)
    · rw [called, same]
  · obtain ⟨same, called⟩ := each_ceases arguments.operation arguments.blob stopped (Lines.ofBytes second)
    rw [same, finish_stopped _ stopped, finish_stopped _ stopped]
    exact ⟨rfl, called⟩

-- An exception that the script, the module or the look for the name in it comes to.
def Raises (arguments : Arguments) (world : World) (raised : Raised) : Prop :=
  ∃ source, world.site.read arguments.setup = .ok source ∧
    let ran := Bridge.script arguments.setup source world.interpreter
    let loaded := Bridge.loading world.site arguments.module ran.2
    (ran.1 = .error raised ∨ loaded.1 = .error raised ∨
      (Guest.Interpreter.lookup arguments.module arguments.function loaded.2).1 = .error raised)

theorem orderly_prepare (arguments : Arguments) (config : Config) : (prepare arguments config).Orderly :=
  (Bridge.orderly_bootstrap config arguments.setup).bind fun _ =>
    Bridge.orderly_load arguments.module arguments.function

theorem prepare_running {arguments : Arguments} {config : Config} {world ready : World} {callable : Callable}
    (prepared : prepare arguments config world = (.returned callable, ready)) : ready.running = true := by
  obtain ⟨⟨⟩, started, boots, loads⟩ := Bridge.bind_returned prepared
  obtain ⟨-, -, -, -, running⟩ := Bridge.bootstrap_returned boots
  have goes := (Bridge.orderly_load arguments.module arguments.function).running started running
  rw [loads] at goes
  exact goes

theorem prepare_exited {arguments : Arguments} {config : Config} {world after : World} {code : UInt8}
    (prepared : prepare arguments config world = (.exited code, after)) :
    ∃ raised, Raises arguments world raised ∧ Bridge.EndsFor raised code after := by
  obtain boots | ⟨⟨⟩, started, boots, loads⟩ := Bridge.bind_exited prepared
  · obtain ⟨source, raised, read, raises, ends⟩ := Bridge.bootstrap_exited boots
    exact ⟨raised, ⟨source, read, .inl raises⟩, ends⟩
  · obtain ⟨source, read, interpreter, site, -⟩ := Bridge.bootstrap_returned boots
    obtain ⟨raised, ends, raises⟩ := Bridge.load_exited loads
    rw [interpreter, site] at raises
    exact ⟨raised, ⟨source, read, .inr raises⟩, ends⟩

-- No callable was found: nothing is called, nothing is printed, and the status is 1 unless an exception
-- asks for another.
def Unprepared (arguments : Arguments) (world : World) (prepared : Outcome Callable × World)
    (progress : Progress) : Prop :=
  progress.output = [] ∧ progress.world = prepared.2 ∧
    progress.world.interpreter.program.seen = world.interpreter.program.seen ∧
    (status progress.outcome = 1 ∨ ∃ raised, Raises arguments world raised ∧
      Bridge.EndsFor raised (status progress.outcome) progress.world)

theorem run_unprepared {arguments : Arguments} {config : Config} {world : World}
    (without : ∀ callable, (prepare arguments config world).1 ≠ .returned callable) (input : Bytes) :
    Unprepared arguments world (prepare arguments config world) (run arguments config input world) := by
  have orderly := orderly_prepare arguments config
  have whole := orderly.whole world
  have seen := orderly.seen world
  unfold run
  rcases prepared : prepare arguments config world with ⟨callable | error | _ | code, after⟩ <;>
    rw [prepared] at without whole seen
  · exact absurd rfl (without callable)
  · exact ⟨rfl, rfl, seen, .inl rfl⟩
  · exact absurd rfl whole
  · exact ⟨rfl, rfl, seen, .inr (prepare_exited prepared)⟩

theorem run_prepared {arguments : Arguments} {config : Config} {world ready : World} {callable : Callable}
    (prepared : prepare arguments config world = (.returned callable, ready)) (input : Bytes) :
    run arguments config input world = conclude arguments callable input ready := by
  rw [run, prepared]
  rfl

-- The output is what the command itself writes (`Progress`), and exceptions are shown by the interpreter's own
-- display.
theorem run_accounted (arguments : Arguments) (input : Bytes) :
    (∃ (whole : List Bytes) (final : Bytes), input = (whole.map (· ++ [Lines.lineFeed])).flatten ++ final ∧
      (∀ line ∈ whole, Lines.lineFeed ∉ line) ∧ Lines.lineFeed ∉ final ∧
      Lines.ofBytes input = whole.map Lines.strip ++ if final = [] then [] else [Lines.strip final]) ∧
    (∀ config world, (∀ callable, (prepare arguments config world).1 ≠ .returned callable) →
      Unprepared arguments world (prepare arguments config world) (run arguments config input world)) ∧
    (∀ config world callable ready, prepare arguments config world = (.returned callable, ready) →
      ready.running = true ∧ run arguments config input world = conclude arguments callable input ready) ∧
    (∀ callable ready, callable.RaisesOrdinarily → ready.running = true →
      Accounted arguments callable input ready (conclude arguments callable input ready) ∧
      ∀ first second, Lines.Whole first → Continues arguments callable first second ready) ∧
    ∀ site environment line filter, Arguments.ofLine line = .run arguments →
      LogFilter.ofEnvironment? environment = some filter →
      let progress := run arguments (configure arguments environment) input (.initial site)
      (invoke site environment line input).output = progress.output ∧
        (invoke site environment line input).status = status progress.outcome := by
  refine ⟨?_, ?_, ?_, ?_, ?_⟩
  · obtain ⟨whole, final, rfl, without, unfinished⟩ := Lines.cut input
    exact ⟨whole, final, rfl, without, unfinished, Lines.ofBytes_cut without unfinished⟩
  · intro config world without
    exact run_unprepared without input
  · intro config world callable ready prepared
    exact ⟨prepare_running prepared, run_prepared prepared input⟩
  · intro callable ready ordinary running
    refine ⟨conclude_accounted arguments ordinary input running, ?_⟩
    intro first second whole
    exact conclude_continues arguments callable whole second ready
  · intro site environment line filter read filtered
    rw [invoke, read, filtered]
    exact ⟨rfl, rfl⟩

theorem noting_notes (b : Bool) : (Callable.noting (.bool b)).Notes := by
  refine ⟨fun _ _ => rfl, fun operation arguments interpreter v gives => ?_⟩
  cases gives
  cases operation with
  | hash =>
    have read := @Adapter.lowWord_number (.bool b) _ rfl id
    rw [question, read]
    rfl
  | sink | filter | transform => rfl

-- A machine with nothing but a script in its root.
def withScript (source : Guest.Source) : Site :=
  ⟨[], [([], .directory), ([Utf8.encode "setup.py"], .file source false)], [], "", Guest.Interpreter.noCode⟩

def sampleLine (script : String) : List String :=
  ["filter", "--setup", script, "--module", "operators", "--function", "noting", "--blob"]

def sampleArguments (script : String) : Arguments :=
  ⟨.filter, Utf8.encode script, "operators", "noting", true, none⟩

def sampleRun : Progress :=
  conclude (sampleArguments "setup.py") (.noting (.bool true)) [0x61, 0x0a, 0x62] .started

theorem run_accounted_noting :
    (Callable.noting (.bool true)).RaisesOrdinarily ∧ World.started.running = true ∧ Lines.Whole [0x61, 0x0a] ∧
    sampleRun.output = [0x61, 0x0a, 0x62, 0x0a] ∧ status sampleRun.outcome = 0 ∧
    sampleRun.world.interpreter.program.seen = [[.bytes [0x61]], [.bytes [0x62]]] ∧
    Arguments.ofLine (sampleLine "missing.py") = .run (sampleArguments "missing.py") ∧
    (invoke (withScript (.script [])) [] (sampleLine "missing.py") [0x61]).output = [] ∧
    (invoke (withScript (.script [])) [] (sampleLine "missing.py") [0x61]).status = 1 := by
  have ordinary := Callable.noting_raises (.bool true)
  obtain ⟨-, -, -, accounts, -⟩ := run_accounted (sampleArguments "setup.py") [0x61, 0x0a, 0x62]
  obtain ⟨⟨records, worked, ends⟩, continues⟩ := accounts (.noting (.bool true)) .started ordinary rfl
  obtain ⟨after, works, -⟩ := worked.works
  have passing := works.passing.resolve_right fun stopped => stopped.1 rfl
  obtain ⟨output, -⟩ := ((continues [0x61, 0x0a] [0x62] (.inr rfl)).1 rfl _ ⟨rfl, rfl⟩).2
  have read : Arguments.ofLine (sampleLine "missing.py") = .run (sampleArguments "missing.py") := rfl
  obtain ⟨-, unprepared, -, -, invoked⟩ := run_accounted (sampleArguments "missing.py") [0x61]
  obtain ⟨printed, -, -, status⟩ := unprepared (configure (sampleArguments "missing.py") [])
    (.initial (withScript (.script []))) nofun
  obtain ⟨whole, ended⟩ := invoked (withScript (.script [])) [] (sampleLine "missing.py") _ read rfl
  refine ⟨ordinary, rfl, .inr rfl, output, ?_, worked.noted (noting_notes true), read,
    whole.trans printed, ?_⟩
  · obtain regular | ⟨fewer, -⟩ := ends
    · exact regular.trans (if_pos passing.2)
    · exact absurd passing.2 (Nat.ne_of_lt fewer)
  · obtain same | ⟨raised, ⟨source, found, -⟩, -⟩ := status
    · exact ended.trans same
    · cases found

-- A number whose masking ends the process.
def endingNumber : Object := .masked 5 (some (.raise (.builtin "SystemExit") [.int 4]))

-- A script may end the process before anything is looked up, and a hash may end it with a line.
theorem status_of_exit :
    (Arguments.ofLine (sampleLine "setup.py") = .run (sampleArguments "setup.py") ∧
      (prepare (sampleArguments "setup.py") (configure (sampleArguments "setup.py") [])
        (.initial (withScript (.script [.raise (.builtin "SystemExit") [.int 3]])))).1 = .exited 3 ∧
      (invoke (withScript (.script [.raise (.builtin "SystemExit") [.int 3]])) []
        (sampleLine "setup.py") [0x61]).status = 3) ∧
    (Callable.noting endingNumber).RaisesOrdinarily ∧
      status (conclude { sampleArguments "setup.py" with operation := .hash } (.noting endingNumber) [0x61]
        .started).outcome = 4 := ⟨⟨rfl, rfl, rfl⟩, Callable.noting_raises endingNumber, rfl⟩

end Command.Run
end RecordBridge
