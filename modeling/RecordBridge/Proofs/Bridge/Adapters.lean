import RecordBridge.Bridge.Adapter
import RecordBridge.Proofs.Bridge.Attributes
import RecordBridge.Proofs.Bridge.Reporting

namespace RecordBridge

open Guest (Object Raised)

-- No call asks for the end of the process.
def Callable.RaisesOrdinarily (callable : Callable) : Prop :=
  ∀ arguments interpreter raised, (callable.call arguments interpreter).1 = .error raised → raised.Ordinary

namespace Adapter

open Bridge

variable {α β : Type} [Attribute α] [Attribute β]

-- What the adapters make of one attribute, each in the same world.
structure Uses (β : Type) where
  sink : Outcome Unit × World
  filter : Outcome Bool × World
  transform : Transformed β
  hash : Outcome Int32 × World

def uses (callable : Callable) (value : α) (destination : β) (world : World) : Uses β :=
  ⟨sink callable value world, filter callable value world, transform callable value destination world,
    hash callable value world⟩

def Transformed.map {γ : Type} (kind : β → γ) (done : Transformed β) : Transformed γ :=
  { done with destination := kind done.destination }

namespace Uses

-- All fail alike, in the same world, and the destination is not touched.
def refused (error : BridgeError) (destination : β) (after : World) : Uses β :=
  ⟨(.failed error, after), (.failed error, after), ⟨.failed error, destination, after⟩,
    (.failed error, after)⟩

end Uses

theorem withLock_bind {γ δ : Type} {world : World} (running : world.running = true) (first : Bridge γ)
    (next : γ → Bridge δ) : withLock (first >>= next) world =
      ((Bridge.bind first next (world.settle Ledger.enter)).1,
        (Bridge.bind first next (world.settle Ledger.enter)).2.settle Ledger.leave) := by
  rw [withLock, if_pos running]
  rfl

theorem uses_refused {callable : Callable} {value : α} {world after : World} {error : BridgeError}
    (running : world.running = true)
    (failed : callWith callable value (world.settle Ledger.enter) = (.failed error, after))
    (destination : β) :
    uses callable value destination world = .refused error destination (after.settle Ledger.leave) := by
  have scope : ∀ {γ : Type} (next : Object → Bridge γ),
      withLock (callWith callable value >>= next) world = (.failed error, after.settle Ledger.leave) := by
    intro γ next
    rw [withLock_bind running, Bridge.bind, failed]
  have transformed : transform callable value destination world =
      ⟨.failed error, destination, after.settle Ledger.leave⟩ := by
    rw [transform, if_pos running, failed]
    rfl
  rw [uses, sink, filter, hash, scope, scope, scope, transformed]
  rfl

variable {callable : Callable} {value : α} {argument : Object}

theorem callWith_refused {raised : Raised} (refused : Attribute.toObject value = .error raised) (world : World) :
    Told raised (.conversion callable.function) world (callWith callable value world) := by
  have converted : (convert callable value).Tells raised (.conversion callable.function) := by
    unfold convert
    rw [refused]
    exact (gives_log _).quiet.tells fun _ => tells_reported raised _
  exact (converted world).bind _

theorem callWith_called (made : Attribute.toObject value = .ok argument) (world : World) :
    callWith callable value world =
      (match (callable.call [argument] world.interpreter).1 with
        | .ok result => Pure.pure result
        | .error e => do
          log (.callFailed callable.module callable.function)
          let message ← report e
          fail (.invocation callable.function message) : Bridge Object)
        { world with interpreter := (callable.call [argument] world.interpreter).2 } := by
  have converted : convert callable value world = (.returned argument, world) := by
    unfold convert
    rw [made]
    rfl
  change Bridge.bind (convert callable value) _ world = _
  rw [Bridge.bind, converted]
  rfl

theorem callWith_raised (made : Attribute.toObject value = .ok argument) {world : World} {raised : Raised}
    (raises : (callable.call [argument] world.interpreter).1 = .error raised) :
    Told raised (.invocation callable.function)
      { world with interpreter := (callable.call [argument] world.interpreter).2 }
      (callWith callable value world) := by
  rw [callWith_called made, raises]
  exact (gives_log _).quiet.tells (fun _ => tells_reported raised _) _

theorem callWith_returned (made : Attribute.toObject value = .ok argument) {world : World} {v : Object}
    (returns : (callable.call [argument] world.interpreter).1 = .ok v) :
    callWith callable value world =
      (.returned v, { world with interpreter := (callable.call [argument] world.interpreter).2 }) := by
  rw [callWith_called made, returns]
  rfl

-- The attribute can be handed over, and the callable gives this when it gets it.
def Returns (callable : Callable) (value : α) (world : World) (v : Object) : Prop :=
  ∃ argument, Attribute.toObject value = .ok argument ∧
    (callable.call [argument] world.interpreter).1 = .ok v

-- The same, with the interpreter as that call leaves it.
def ReturnsLeaving (callable : Callable) (value : α) (world : World) (v : Object) (left : Guest.Interpreter) : Prop :=
  ∃ argument, Attribute.toObject value = .ok argument ∧ callable.call [argument] world.interpreter = (.ok v, left)

-- The scope of an adapter whose call has returned.
theorem withLock_returned {γ : Type} {world after : World} {v : Object} (running : world.running = true)
    (returned : callWith callable value (world.settle Ledger.enter) = (.returned v, after))
    (next : Object → Bridge γ) : withLock (callWith callable value >>= next) world =
      ((next v after).1, (next v after).2.settle Ledger.leave) := by
  rw [withLock_bind running, Bridge.bind, returned]

-- What is to become of a result, and what the adapters leave of the interpreter that the call left. It is
-- asked for its truth or its low bits, and whatever it does when it is asked is all that happens.
structure Interprets (callable : Callable) (v : Object) (interpreter : Guest.Interpreter) (destination : β)
    (used : Uses β) : Prop where
  sink : used.sink.1 = .returned ()
  sinkLeft : used.sink.2.interpreter.program = interpreter.program
  filter : Resolves v.truth interpreter id (.invocation callable.function) used.filter
  transformNone : v.isNone = true →
    used.transform.outcome = .returned false ∧ used.transform.destination = destination
  transformFills : v.isNone = false → (Attribute.assign destination v).1 = .ok () →
    used.transform.outcome = .returned true ∧
      used.transform.destination = (Attribute.assign destination v).2
  transformRefuses : v.isNone = false → ∀ e, (Attribute.assign destination v).1 = .error e →
    used.transform.outcome = .failed (.conversion callable.function e.summary) ∧
      used.transform.destination = destination
  transformLeft : used.transform.world.interpreter.program = interpreter.program
  hash : Resolves (lowWord v) interpreter UInt32.toInt32 (.notAnInteger callable.function) used.hash
  hashNumber : ∀ n, v.integer? = some n → ¬ v.MasksItself →
    used.hash.1 = .returned (UInt32.ofNat (Guest.Mask.common n wordMask)).toInt32
  hashOther : v.integer? = none →
    used.hash.1 = .failed (.notAnInteger callable.function (notInteger v).summary)

-- The rest of `filter` behind the call.
def weigh (callable : Callable) (v : Object) : Bridge Bool := do
  match ← onInterpreter v.truth with
  | .ok truth => return truth
  | .error e =>
    let message ← report e
    fail (.invocation callable.function message)

theorem weigh_resolves (callable : Callable) (v : Object) (world : World) :
    Resolves v.truth world.interpreter id (.invocation callable.function) (weigh callable v world) := by
  unfold weigh
  refine resolves_step ?_ ?_ world
  · exact fun _ => rfl
  · exact fun e => tells_reported e (.invocation callable.function)

theorem gives_fill (callable : Callable) (v : Object) (destination : Value) :
    (fill callable v destination).1.Gives
      (if v.isNone then .returned false
        else match (Attribute.assign destination v).1 with
          | .ok () => .returned true
          | .error e => .failed (.conversion callable.function e.summary)) := by
  unfold fill
  by_cases none : v.isNone = true
  · rw [if_pos none, if_pos none]
    exact gives_pure false
  · rw [if_neg none, if_neg none]
    dsimp only
    refine (quiet_describe v).bind fun text => (gives_log _).bind ?_
    cases assigned : (Attribute.assign destination v).1 with
    | ok done => exact gives_pure true
    | error e => exact gives_reported (Value.assign_ordinary assigned).1 (.conversion callable.function)

theorem word_common (n : Int) :
    word (Guest.Mask.common n wordMask) = .ok (UInt32.ofNat (Guest.Mask.common n wordMask)) := by
  have low := Guest.Mask.common_le n wordMask 32 (by simp [wordMask])
  have long : Object.isLong (Guest.Mask.common n wordMask) = true := by
    simp only [Object.isLong, Bool.and_eq_true, decide_eq_true_eq]
    unfold wordMask at low ⊢
    omega
  rw [word, long, if_neg (by decide), if_neg (by omega), if_neg (by omega), Int.toNat_natCast]

theorem lowWord_other {v : Object} (other : v.integer? = none) : lowWord v = .of (.error (notInteger v)) := by
  rw [lowWord, other]

theorem lowWord_number {v : Object} {n : Int} (number : v.integer? = some n) (plain : ¬ v.MasksItself) :
    lowWord v = .of (.ok (UInt32.ofNat (Guest.Mask.common n wordMask))) := by
  have indexed : (Object.int (Guest.Mask.common n wordMask)).index =
      .of (.ok (Guest.Mask.common n wordMask : Int)) := rfl
  rw [lowWord, number]
  dsimp only
  rw [Object.mask_plain number plain]
  funext interpreter
  change (Object.int (Guest.Mask.common n wordMask)).index.bind (fun n => .of (word n)) interpreter = _
  rw [indexed]
  change Guest.Step.of (word (Guest.Mask.common n wordMask)) interpreter = _
  rw [word_common]

-- The rest of `hash` behind the call.
def judge (callable : Callable) (v : Object) : Bridge Int32 := do
  match ← onInterpreter (lowWord v) with
  | .ok low => return low.toInt32
  | .error e =>
    log (.hashNotInteger callable.function (← describe v))
    let message ← report e
    fail (.notAnInteger callable.function message)

theorem judge_resolves (callable : Callable) (v : Object) (world : World) :
    Resolves (lowWord v) world.interpreter UInt32.toInt32 (.notAnInteger callable.function)
      (judge callable v world) := by
  unfold judge
  refine resolves_step ?_ ?_ world
  · exact fun _ => rfl
  · exact fun e => (quiet_describe v).tells fun text => (gives_log _).quiet.tells fun _ =>
      tells_reported e (.notAnInteger callable.function)

theorem judge_number (callable : Callable) {v : Object} {n : Int} (number : v.integer? = some n)
    (plain : ¬ v.MasksItself) (world : World) :
    (judge callable v world).1 = .returned (UInt32.ofNat (Guest.Mask.common n wordMask)).toInt32 := by
  have read := congrArg (·.1) (congrFun (lowWord_number number plain) world.interpreter)
  exact (judge_resolves callable v world).answered _ read

theorem judge_other (callable : Callable) {v : Object} (other : v.integer? = none) (world : World) :
    (judge callable v world).1 = .failed (.notAnInteger callable.function (notInteger v).summary) := by
  have refused := congrArg (·.1) (congrFun (lowWord_other other) world.interpreter)
  exact (judge_resolves callable v world).failed _ refused (Raised.builtin_ordinary (by decide) _ _ _)

theorem fill_destination (callable : Callable) (v : Object) (destination : β) :
    (fill callable v destination).2 =
      if v.isNone then destination else (Attribute.assign destination v).2 := by
  unfold fill
  by_cases none : v.isNone = true
  · rw [if_pos none, if_pos none]
  · rw [if_neg none, if_neg none]

-- A destination of a definite kind is filled as that kind is.
theorem transform_kind {γ : Type} [Attribute γ] (kind : β → γ)
    (alike : ∀ destination o, Attribute.assign (kind destination) o =
      ((Attribute.assign destination o).1, kind (Attribute.assign destination o).2))
    (callable : Callable) (value : α) (destination : β) (world : World) :
    transform callable value (kind destination) world =
      (transform callable value destination world).map kind := by
  unfold transform
  by_cases running : world.running = true
  · rw [if_pos running, if_pos running]
    rcases callWith callable value (world.settle Ledger.enter) with ⟨v | error | _ | status, after⟩
    · unfold fillFrom fill
      by_cases none : v.isNone = true
      · simp only [if_pos none]
        rfl
      · simp only [if_neg none, alike]
        rfl
    · rfl
    · rfl
    · rfl
  · rw [if_neg running, if_neg running]
    rfl

theorem uses_returned {world : World} (running : world.running = true)
    (made : Attribute.toObject value = .ok argument) {v : Object}
    (returns : (callable.call [argument] world.interpreter).1 = .ok v) (destination : Value) :
    Interprets callable v (callable.call [argument] world.interpreter).2 destination
      (uses callable value destination world) := by
  have called := @callWith_returned α _ callable value argument made (world.settle Ledger.enter) v returns
  change callWith callable value (world.settle Ledger.enter) = (.returned v,
    { world.settle Ledger.enter with interpreter := (callable.call [argument] world.interpreter).2 }) at called
  generalize reached : ({ world.settle Ledger.enter with
    interpreter := (callable.call [argument] world.interpreter).2 } : World) = after at called
  have interpreter : after.interpreter = (callable.call [argument] world.interpreter).2 := by
    rw [← reached]
  have sunk : sink callable value world = (.returned (), after.settle Ledger.leave) :=
    withLock_returned running called fun _ => Pure.pure ()
  have filtered : filter callable value world =
      ((weigh callable v after).1, (weigh callable v after).2.settle Ledger.leave) :=
    withLock_returned running called (weigh callable)
  have hashed : hash callable value world =
      ((judge callable v after).1, (judge callable v after).2.settle Ledger.leave) :=
    withLock_returned running called (judge callable)
  have transformed : transform callable value destination world =
      ⟨((fill callable v destination).1 after).1, (fill callable v destination).2,
        ((fill callable v destination).1 after).2.settle Ledger.leave⟩ := by
    rw [transform, if_pos running, called]
    rfl
  have weighed := weigh_resolves callable v after
  have filled := gives_fill callable v destination after
  have judged := judge_resolves callable v after
  have left := fill_destination callable v destination
  rw [uses, sunk, filtered, hashed, transformed, ← interpreter]
  constructor
  case sink => rfl
  case sinkLeft => rfl
  case filter => exact ⟨weighed.left, weighed.answered, weighed.failed, weighed.exited⟩
  case transformNone =>
    intro none
    rw [if_pos none] at filled left
    exact ⟨filled.1, left⟩
  case transformFills =>
    intro some assigned
    rw [if_neg (Bool.eq_false_iff.mp some)] at filled left
    rw [assigned] at filled
    exact ⟨filled.1, left⟩
  case transformRefuses =>
    intro some e assigned
    rw [if_neg (Bool.eq_false_iff.mp some)] at filled left
    rw [assigned] at filled
    exact ⟨filled.1, left.trans (Value.assign_ordinary assigned).2⟩
  case transformLeft => exact filled.2.program
  case hash => exact ⟨judged.left, judged.answered, judged.failed, judged.exited⟩
  case hashNumber => exact fun n number plain => judge_number callable number plain after
  case hashOther => exact fun other => judge_other callable other after

end Adapter

-- Whatever a call and the questions about its result do to the interpreter. What is shown on the error stream is
-- shown by the interpreter's own display, and a result in a log as its class shows it without code of its own.
theorem adapters_agree {callable : Callable} (ordinary : callable.RaisesOrdinarily) (value destination : Value)
    {world : World} (running : world.running = true) :
    let used := Adapter.uses callable value destination world
    (value.Undecodable → ∃ message after,
      used = .refused (.conversion callable.function message) destination after ∧
        after.interpreter.program = world.interpreter.program) ∧
    (¬ value.Undecodable → ∃ argument, value.Holds argument ∧
      let called := callable.call [argument] world.interpreter
      (∀ raised, called.1 = .error raised → ∃ after,
        used = .refused (.invocation callable.function raised.summary) destination after ∧
          after.interpreter.program = called.2.program) ∧
      ∀ v, called.1 = .ok v → Adapter.Interprets callable v called.2 destination used) ∧
    (∀ content : Blob, value = .blob content → used = Adapter.uses callable content destination world) ∧
    (∀ content : RString, value = .rstring content → used = Adapter.uses callable content destination world) ∧
    (∀ content : Blob, destination = .blob content →
      used.transform = (Adapter.transform callable value content world).map .blob) ∧
    ∀ content : RString, destination = .rstring content →
      used.transform = (Adapter.transform callable value content world).map .rstring := by
  intro used
  refine ⟨?_, ?_, ?_, ?_, ?_, ?_⟩
  · intro undecodable
    obtain ⟨argument, -, -, decodable⟩ | ⟨raised, refused, usual, -⟩ := value.toObject_decided
    · exact absurd undecodable decodable
    · have told := @Adapter.callWith_refused Value _ callable value raised refused (world.settle Ledger.enter)
      have failed := told.failed usual
      exact ⟨_, _, Adapter.uses_refused running (Prod.ext failed rfl) destination, told.same.program⟩
  · intro decodable
    obtain ⟨argument, made, holds, -⟩ | ⟨raised, -, -, undecodable⟩ := value.toObject_decided
    · refine ⟨argument, holds, ?_, ?_⟩
      · intro raised raises
        have usual := ordinary [argument] world.interpreter raised raises
        have told := @Adapter.callWith_raised Value _ callable value argument made
          (world.settle Ledger.enter) raised raises
        have failed := told.failed usual
        exact ⟨_, Adapter.uses_refused running (Prod.ext failed rfl) destination, told.same.program⟩
      · exact fun v returns => Adapter.uses_returned running made returns destination
    · exact absurd undecodable decodable
  · rintro content rfl
    rfl
  · rintro content rfl
    rfl
  · rintro content rfl
    exact Adapter.transform_kind Value.blob (fun _ _ => rfl) callable value content world
  · rintro content rfl
    exact Adapter.transform_kind Value.rstring (fun _ _ => rfl) callable value content world

-- Notes what it is called with, and always gives the same.
def Callable.noting (given : Object) : Callable where
  module := "operators"
  function := "noting"
  call arguments interpreter :=
    (.ok given, interpreter.update fun program => { program with seen := program.seen ++ [arguments] })

theorem Callable.noting_raises (given : Object) : (noting given).RaisesOrdinarily := by
  intro arguments interpreter raised raises
  cases raises

def World.started : World := { World.initial ⟨[], [], [], "", Guest.Interpreter.noCode⟩ with running := true }

theorem adapters_agree_noting : (Callable.noting (.int (-1))).RaisesOrdinarily ∧ World.started.running = true ∧
    ¬ (Value.blob ⟨[1]⟩).Undecodable ∧
    let used := Adapter.uses (.noting (.int (-1))) (Value.blob ⟨[1]⟩) (Value.blob ⟨[]⟩) .started
    let noted := { Guest.Program.initial with seen := [[.bytes [1]]] }
    used.filter.1 = .returned true ∧ used.filter.2.interpreter.program = noted ∧
      used.hash.1 = .returned (-1) ∧ used.hash.2.interpreter.program = noted := by
  have ordinary := Callable.noting_raises (.int (-1))
  have decodable : ¬ (Value.blob ⟨[1]⟩).Undecodable := id
  obtain ⟨-, called, -⟩ := @adapters_agree _ ordinary (.blob ⟨[1]⟩) (.blob ⟨[]⟩) .started rfl
  obtain ⟨argument, rfl, -, returned⟩ := called decodable
  have interprets := returned (.int (-1)) rfl
  exact ⟨ordinary, rfl, decodable, interprets.filter.answered true rfl, interprets.filter.left,
    interprets.hashNumber (-1) rfl id, interprets.hash.left⟩

-- A result of a class that ends the process when it is asked whether it is true.
example :
    let ending : Guest.Code := fun _ _ _ state => (.error (.plain (.builtin "SystemExit") [.int 3] false), state)
    let world := { World.initial ⟨[], [], [], "", ending⟩ with running := true }
    let callable := Callable.noting (.own ⟨"operators", "Ending", [.truth]⟩ .none)
    (Adapter.filter callable (Value.blob ⟨[1]⟩) world).1 = .exited 3 ∧
      (Adapter.sink callable (Value.blob ⟨[1]⟩) world).1 = .returned () := ⟨rfl, rfl⟩

-- A number of a class with a masking of its own, which gives a text there.
theorem hash_of_masked :
    (Callable.noting (.masked 5 (some (.value (.ofString "text"))))).RaisesOrdinarily ∧
    Object.integer? (.masked 5 (some (.value (.ofString "text")))) = some 5 ∧
    ¬ ∃ code, (Adapter.hash (.noting (.masked 5 (some (.value (.ofString "text"))))) (Value.blob ⟨[1]⟩)
      .started).1 = .returned code := by
  refine ⟨Callable.noting_raises _, rfl, ?_⟩
  rintro ⟨code, returned⟩
  cases returned

end RecordBridge
