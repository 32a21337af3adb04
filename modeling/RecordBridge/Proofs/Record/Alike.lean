import RecordBridge.Proofs.Record.Accepting

namespace RecordBridge

open Reader

variable {κ σ α β : Type}

namespace Reader

theorem bind_answered {first : Reader σ α} {s t : σ} {a : α} (ran : first s = (.ok a, t))
    (next : α → Reader σ β) : (first >>= next) s = next a t := by
  change Reader.bind first next s = next a t
  rw [Reader.bind, ran]

theorem bind_failed {first : Reader σ α} {s t : σ} {e : HostError} (ran : first s = (.error e, t))
    (next : α → Reader σ β) : (first >>= next) s = (.error e, t) := by
  change Reader.bind first next s = (.error e, t)
  rw [Reader.bind, ran]

section Repeats

variable [Buffered σ] {order : ByteOrder}

-- A step that gives an answer gives it again wherever the bytes come next that it took.
def Repeats (step : Reader σ α) (order : ByteOrder) : Prop :=
  step.Accepts order fun wire answer => step.Reads order wire answer

theorem Accepts.repeats {step : Reader σ α} {form : Bytes → α → Prop} (accepts : step.Accepts order form)
    (reads : ∀ wire answer, form wire answer → step.Reads order wire answer) : step.Repeats order := by
  intro state consumed unread same answer answered
  obtain ⟨wire, tail, taken, split, after⟩ := accepts state consumed unread same answer answered
  exact ⟨wire, tail, reads wire answer taken, split, after⟩

theorem Repeats.onBuffer {step : Reader Buffer α} (repeats : step.Repeats order) :
    (Decoding.onBuffer step : Reader (Decoding κ) α).Repeats order :=
  (Accepts.onBuffer repeats).repeats fun _ _ reads => reads.onBuffer

-- On the way from one state to another certain bytes are taken, and wherever the same bytes come next the
-- same way can be gone.
structure Retraced (order : ByteOrder) (way : σ → σ → Prop) (before after : σ) (wire : Bytes) : Prop where
  taken : ∃ consumed tail, Buffered.buffer before = ⟨order, consumed, wire ++ tail⟩ ∧
    Buffered.buffer after = ⟨order, wire.reverse ++ consumed, tail⟩
  again : ∀ (other : σ) (consumed tail : Bytes), Buffered.buffer other = ⟨order, consumed, wire ++ tail⟩ →
    ∃ there, way other there ∧ Buffered.buffer there = ⟨order, wire.reverse ++ consumed, tail⟩

theorem Retraced.still {way : σ → σ → Prop} {before after : σ} {wire : Bytes}
    (retraced : Retraced order way before after wire) : (Buffered.buffer after).order = order := by
  obtain ⟨consumed, tail, -, stands⟩ := retraced.taken
  rw [stands]

theorem Retraced.trans {one two : σ → σ → Prop} {before middle after : σ} {front rear : Bytes}
    (first : Retraced order one before middle front) (second : Retraced order two middle after rear) :
    Retraced order (fun s t => ∃ between, one s between ∧ two between t) before after (front ++ rear) where
  taken := by
    obtain ⟨consumed, rest, start, between⟩ := first.taken
    obtain ⟨behind, tail, same, stop⟩ := second.taken
    obtain ⟨-, rfl, rfl⟩ := Buffer.mk.inj (between.symm.trans same)
    refine ⟨consumed, tail, ?_, ?_⟩
    · rw [start, List.append_assoc]
    · rw [stop, List.reverse_append, List.append_assoc]
  again other consumed tail same := by
    rw [List.append_assoc] at same
    obtain ⟨between, gone, stands⟩ := first.again other consumed (rear ++ tail) same
    obtain ⟨there, goneThen, reached⟩ := second.again between _ tail stands
    refine ⟨there, ⟨between, gone, goneThen⟩, ?_⟩
    rw [reached, List.reverse_append, List.append_assoc]

theorem Retraced.imp {one two : σ → σ → Prop} {before after : σ} {wire : Bytes}
    (retraced : Retraced order one before after wire) (weaker : ∀ s t, one s t → two s t) :
    Retraced order two before after wire where
  taken := retraced.taken
  again other consumed tail same := by
    obtain ⟨there, gone, reached⟩ := retraced.again other consumed tail same
    exact ⟨there, weaker other there gone, reached⟩

theorem Repeats.retraced {step : Reader σ α} (repeats : step.Repeats order) {state after : σ} {answer : α}
    (stands : (Buffered.buffer state).order = order) (ran : step state = (.ok answer, after)) :
    ∃ wire, Retraced order (fun s t => step s = (.ok answer, t)) state after wire := by
  obtain ⟨consumed, unread, same⟩ : ∃ consumed unread, Buffered.buffer state = ⟨order, consumed, unread⟩ :=
    ⟨_, _, by rw [← stands]⟩
  obtain ⟨wire, tail, reads, rfl, stopped⟩ := repeats state consumed unread same answer (congrArg (·.1) ran)
  rw [ran] at stopped
  refine ⟨wire, ⟨consumed, tail, same, stopped⟩, fun other before ahead there => ?_⟩
  obtain ⟨answered, stop⟩ := reads other before ahead there
  exact ⟨(step other).2, Prod.ext answered rfl, stop⟩

end Repeats

section Alike

variable [Buffered σ]

-- In front of the same bytes, whatever came before them.
def Abreast (one other : σ) : Prop :=
  (Buffered.buffer one).order = (Buffered.buffer other).order ∧
    (Buffered.buffer one).unread = (Buffered.buffer other).unread

-- How two readings end that go on alike: with answers that fit together, or with one and the same error.
inductive Agree (fit : α → β → Prop) : Except HostError α × σ → Except HostError β × σ → Prop where
  | answered {a : α} {b : β} {one other : σ} (fits : fit a b) (level : Abreast one other) :
      Agree fit (.ok a, one) (.ok b, other)
  | failed {e : HostError} {one other : σ} (level : Abreast one other) :
      Agree fit (.error e, one) (.error e, other)

def Alike (fit : α → β → Prop) (one : Reader σ α) (other : Reader σ β) : Prop :=
  ∀ s t : σ, Abreast s t → Agree fit (one s) (other t)

theorem Alike.bind {γ δ : Type} {fit : α → β → Prop} {later : γ → δ → Prop} {first : Reader σ α}
    {second : Reader σ β} {next : α → Reader σ γ} {after : β → Reader σ δ} (heads : Alike fit first second)
    (tails : ∀ a b, fit a b → Alike later (next a) (after b)) :
    Alike later (first >>= next) (second >>= after) := by
  intro s t level
  change Agree later (Reader.bind first next s) (Reader.bind second after t)
  unfold Reader.bind
  have head := heads s t level
  generalize first s = one at head
  generalize second t = other at head
  cases head with
  | answered fits level => exact tails _ _ fits _ _ level
  | failed level => exact .failed level

theorem alike_pure {fit : α → β → Prop} {a : α} {b : β} (fits : fit a b) :
    Alike fit (Pure.pure a : Reader σ α) (Pure.pure b) := fun _ _ level => .answered fits level

theorem alike_fail (fit : α → β → Prop) (e : HostError) :
    Alike fit (Reader.fail e : Reader σ α) (Reader.fail e) := fun _ _ level => .failed level

theorem Alike.onBuffer {fit : α → β → Prop} {one : Reader Buffer α} {other : Reader Buffer β}
    (alike : Alike fit one other) :
    Alike fit (Decoding.onBuffer one : Reader (Decoding κ) α) (Decoding.onBuffer other) := by
  intro s t level
  have done := alike s.buffer t.buffer level
  unfold Decoding.onBuffer
  generalize one s.buffer = first at done
  generalize other t.buffer = second at done
  cases done with
  | answered fits level => exact .answered fits level
  | failed level => exact .failed level

end Alike

end Reader

namespace Buffer

variable (order : ByteOrder)

theorem repeats_getU32 : getU32.Repeats order := by
  refine (accepts_getU32 order).repeats ?_
  rintro wire n rfl
  exact reads_getU32 order n

theorem repeats_getString : getString.Repeats order := by
  refine (accepts_getString order).repeats ?_
  rintro wire text ⟨short, rfl⟩
  exact reads_getString order short

theorem alike_take (count : Nat) : Alike Eq (take count) (take count) := by
  rintro ⟨order, consumed, unread⟩ ⟨other, before, ahead⟩ ⟨sameOrder, sameBytes⟩
  obtain rfl : order = other := sameOrder
  obtain rfl : unread = ahead := sameBytes
  rcases Nat.lt_or_ge unread.length count with short | there
  · rw [take_short short, take_short short]
    exact .failed ⟨rfl, rfl⟩
  · rw [take_enough there, take_enough there]
    exact .answered rfl ⟨rfl, rfl⟩

theorem alike_getU32 : Alike Eq getU32 getU32 := by
  intro s t level
  have taken := alike_take 4 s t level
  have order : s.order = t.order := level.1
  unfold getU32
  generalize take 4 s = one at taken
  generalize take 4 t = other at taken
  cases taken with
  | answered fits level => exact .answered (by rw [fits, order]) level
  | failed level => exact .failed level

theorem alike_getBytes : Alike Eq getBytes getBytes := by
  refine alike_getU32.bind ?_
  rintro length _ rfl
  exact alike_take length.toNat

theorem alike_getString : Alike Eq getString getString := by
  refine alike_getBytes.bind ?_
  rintro data _ rfl
  cases Utf8.text? data with
  | none => exact alike_fail Eq _
  | some text => exact alike_pure rfl

end Buffer

end RecordBridge
