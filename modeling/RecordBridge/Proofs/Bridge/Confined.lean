import RecordBridge.Bridge.Adapter
import RecordBridge.Proofs.Bridge.Reporting

namespace RecordBridge

open Guest (Object Raised Step)

-- Nothing that an adapter could go by is different.
structure World.Alike (one other : World) : Prop where
  running : one.running = other.running
  interpreter : one.interpreter = other.interpreter

namespace World

theorem Alike.symm {one other : World} (alike : one.Alike other) : other.Alike one :=
  ⟨alike.running.symm, alike.interpreter.symm⟩

theorem Alike.trans {one other third : World} (first : one.Alike other) (second : other.Alike third) :
    one.Alike third := ⟨first.running.trans second.running, first.interpreter.trans second.interpreter⟩

theorem Alike.settle {one other : World} (alike : one.Alike other) (change : Ledger → Ledger) :
    (one.settle change).Alike (other.settle change) := ⟨alike.running, alike.interpreter⟩

end World

-- Two endings that are the same but for what the bridge keeps.
structure Outcome.Alike {α : Type} (one other : Outcome α × World) : Prop where
  outcome : one.1 = other.1
  world : one.2.Alike other.2

namespace Bridge

variable {α β : Type}

structure Confined (body : Bridge α) : Prop where
  running : ∀ world, (body world).2.running = world.running
  alike : ∀ {one other : World}, one.Alike other → Outcome.Alike (body one) (body other)

theorem Confined.bind {first : Bridge α} {next : α → Bridge β} (one : first.Confined)
    (two : ∀ a, (next a).Confined) : (first >>= next).Confined := by
  constructor
  · exact bind_moves (fun before after => after.running = before.running)
      (fun early late => late.trans early) one.running fun a => (two a).running
  · intro left right alike
    have head := one.alike alike
    rcases ran : first left with ⟨ended, leftAfter⟩
    rcases again : first right with ⟨same, rightAfter⟩
    rw [ran, again] at head
    obtain ⟨outcome, after⟩ := head
    obtain rfl : ended = same := outcome
    cases ended with
    | returned a =>
      rw [bind_of_returned ran, bind_of_returned again]
      exact (two a).alike after
    | failed error =>
      rw [bind_of_failed ran, bind_of_failed again]
      exact ⟨rfl, after⟩
    | panicked =>
      rw [bind_of_panicked ran, bind_of_panicked again]
      exact ⟨rfl, after⟩
    | exited status =>
      rw [bind_of_exited ran, bind_of_exited again]
      exact ⟨rfl, after⟩

theorem confined_pure (a : α) : (Pure.pure a : Bridge α).Confined :=
  ⟨fun _ => rfl, fun alike => ⟨rfl, alike⟩⟩

theorem confined_fail (error : BridgeError) : (fail error : Bridge α).Confined :=
  ⟨fun _ => rfl, fun alike => ⟨rfl, alike⟩⟩

theorem confined_log (event : Event) : (log event).Confined :=
  ⟨fun _ => rfl, fun alike => ⟨rfl, alike.settle _⟩⟩

theorem confined_onInterpreter (step : Step α) : (onInterpreter step).Confined := by
  refine ⟨fun _ => rfl, ?_⟩
  rintro one other ⟨running, interpreter⟩
  rw [onInterpreter, interpreter]
  exact ⟨rfl, running, rfl⟩

theorem confined_describe (o : Object) : (describe o).Confined := by
  refine ⟨fun _ => rfl, ?_⟩
  rintro one other ⟨running, interpreter⟩
  refine ⟨?_, running, interpreter⟩
  change Outcome.returned (describeIn one.interpreter.program o) = _
  rw [interpreter]
  rfl

theorem confined_showRaised (raised : Raised) : (showRaised raised).Confined := by
  refine ⟨fun _ => rfl, ?_⟩
  rintro one other ⟨running, interpreter⟩
  exact ⟨rfl, running, congrArg (·.display raised) interpreter⟩

theorem confined_flushOne (name : String) (flushed : Except Raised Unit) :
    (flushOne name flushed).Confined := by
  cases flushed with
  | ok done => exact confined_pure ()
  | error e => exact confined_log _

theorem confined_flushStreams : flushStreams.Confined :=
  (confined_onInterpreter _).bind fun first => (confined_flushOne "stderr" first).bind fun _ =>
    (confined_onInterpreter _).bind fun second => confined_flushOne "stdout" second

theorem confined_report (raised : Raised) : (report raised).Confined := by
  unfold report
  cases raised.exitStatus? with
  | some status =>
    refine ⟨fun _ => rfl, ?_⟩
    rintro one other ⟨running, interpreter⟩
    refine ⟨?_, running, interpreter⟩
    change Outcome.exited (one.interpreter.endStatus status) = _
    rw [interpreter]
    rfl
  | none =>
    exact (confined_showRaised raised).bind fun _ => confined_flushStreams.bind fun _ =>
      confined_pure raised.summary

theorem confined_reported (raised : Raised) (cause : String → BridgeError) :
    (do let message ← report raised; fail (cause message) : Bridge α).Confined :=
  (confined_report raised).bind fun _ => confined_fail _

theorem Confined.withLock {body : Bridge α} (inner : body.Confined) : (withLock body).Confined := by
  constructor
  · intro world
    unfold Bridge.withLock
    split
    · exact inner.running (world.settle Ledger.enter)
    · rfl
  · intro one other alike
    unfold Bridge.withLock
    rw [alike.running]
    split
    · obtain ⟨outcome, after⟩ := inner.alike (alike.settle Ledger.enter)
      exact ⟨outcome, after.settle Ledger.leave⟩
    · exact ⟨rfl, alike⟩

end Bridge

namespace Adapter

open Bridge

variable {α β : Type} [Attribute α] [Attribute β]

theorem confined_callWith (callable : Callable) (value : α) : (callWith callable value).Confined := by
  have converted : (convert callable value).Confined := by
    unfold convert
    cases Attribute.toObject value with
    | ok argument => exact confined_pure argument
    | error e => exact (confined_log _).bind fun _ => confined_reported e _
  refine converted.bind fun argument => (confined_onInterpreter _).bind fun answered => ?_
  cases answered with
  | ok result => exact confined_pure result
  | error e => exact (confined_log _).bind fun _ => confined_reported e _

theorem confined_sink (callable : Callable) (value : α) : (sink callable value).Confined :=
  ((confined_callWith callable value).bind fun _ => confined_pure ()).withLock

theorem confined_filter (callable : Callable) (value : α) : (filter callable value).Confined := by
  refine ((confined_callWith callable value).bind fun result => ?_).withLock
  refine (confined_onInterpreter _).bind fun asked => ?_
  cases asked with
  | ok truth => exact confined_pure truth
  | error e => exact confined_reported e _

theorem confined_hash (callable : Callable) (value : α) : (hash callable value).Confined := by
  refine ((confined_callWith callable value).bind fun result => ?_).withLock
  refine (confined_onInterpreter _).bind fun read => ?_
  cases read with
  | ok low => exact confined_pure _
  | error e =>
    exact (confined_describe result).bind fun _ => (confined_log _).bind fun _ => confined_reported e _

theorem confined_fill (callable : Callable) (result : Object) (destination : β) :
    (fill callable result destination).1.Confined := by
  unfold fill
  by_cases none : result.isNone = true
  · rw [if_pos none]
    exact confined_pure false
  · rw [if_neg none]
    refine (confined_describe result).bind fun _ => (confined_log _).bind fun _ => ?_
    cases (Attribute.assign destination result).1 with
    | ok done => exact confined_pure true
    | error e => exact confined_reported e _

theorem running_transform (callable : Callable) (value : α) (destination : β) (world : World) :
    (transform callable value destination world).world.running = world.running := by
  unfold transform
  split
  · have called := (confined_callWith callable value).running (world.settle Ledger.enter)
    rcases ran : callWith callable value (world.settle Ledger.enter) with
      ⟨v | error | _ | status, after⟩ <;> rw [ran] at called
    · exact ((confined_fill callable v destination).running after).trans called
    · exact called
    · exact called
    · exact called
  · rfl

theorem confined_transform (callable : Callable) (value : α) (destination : β) {one other : World}
    (alike : one.Alike other) :
    let left := transform callable value destination one
    let right := transform callable value destination other
    left.outcome = right.outcome ∧ left.destination = right.destination ∧ left.world.Alike right.world := by
  intro left right
  dsimp only [left, right]
  unfold transform
  rw [alike.running]
  split
  · have called := (confined_callWith callable value).alike (alike.settle Ledger.enter)
    rcases ran : callWith callable value (one.settle Ledger.enter) with ⟨ended, leftAfter⟩
    rcases again : callWith callable value (other.settle Ledger.enter) with ⟨same, rightAfter⟩
    rw [ran, again] at called
    obtain ⟨outcome, after⟩ := called
    obtain rfl : ended = same := outcome
    cases ended with
    | returned v =>
      obtain ⟨filled, later⟩ := (confined_fill callable v destination).alike after
      exact ⟨filled, rfl, later.settle Ledger.leave⟩
    | failed error => exact ⟨rfl, rfl, World.Alike.settle after Ledger.leave⟩
    | panicked => exact ⟨rfl, rfl, World.Alike.settle after Ledger.leave⟩
    | exited status => exact ⟨rfl, rfl, World.Alike.settle after Ledger.leave⟩
  · exact ⟨rfl, rfl, alike⟩

end Adapter
end RecordBridge
