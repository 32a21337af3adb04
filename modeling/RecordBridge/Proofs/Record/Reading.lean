import Mathlib.Algebra.Group.Nat.Defs
import RecordBridge.Proofs.Record.Format
import RecordBridge.Proofs.Text.Utf8

namespace RecordBridge

variable {κ σ α β : Type}

-- What a step reads from: a buffer by itself, or one with a history of payloads beside it.
class Buffered (σ : Type) where
  buffer : σ → Buffer
  extend : σ → Bytes → σ

instance : Buffered Buffer := ⟨fun buffer => buffer, Buffer.append⟩

instance : Buffered (Decoding κ) :=
  ⟨Decoding.buffer, fun decoding tail => { decoding with buffer := decoding.buffer.append tail }⟩

def HostError.RunsOut : HostError → Prop
  | .underrun _ _ => True
  | _ => False

namespace Reader

section Reads

variable [Buffered σ] {order : ByteOrder}

def Reads (step : Reader σ α) (order : ByteOrder) (wire : Bytes) (answer : α) : Prop :=
  ∀ (state : σ) (consumed tail : Bytes), Buffered.buffer state = ⟨order, consumed, wire ++ tail⟩ →
    (step state).1 = .ok answer ∧
      Buffered.buffer (step state).2 = ⟨order, wire.reverse ++ consumed, tail⟩

theorem Reads.bind {first : Reader σ α} {next : α → Reader σ β} {front back : Bytes} {a : α} {b : β}
    (one : first.Reads order front a) (two : (next a).Reads order back b) :
    (first >>= next).Reads order (front ++ back) b := by
  intro state consumed tail same
  have head := one state consumed (back ++ tail) (by rw [same, List.append_assoc])
  change (Reader.bind first next state).1 = .ok b ∧
    Buffered.buffer (Reader.bind first next state).2 = ⟨order, (front ++ back).reverse ++ consumed, tail⟩
  unfold Reader.bind
  rcases ran : first state with ⟨outcome, middle⟩
  rw [ran] at head
  obtain ⟨answered, after⟩ := head
  dsimp only at answered after
  subst answered
  have rest := two middle (front.reverse ++ consumed) tail after
  simpa only [List.reverse_append, List.append_assoc] using rest

-- On a buffer by itself nothing is left open.
theorem Reads.exact {step : Reader Buffer α} {wire : Bytes} {a : α} (read : step.Reads order wire a)
    (consumed tail : Bytes) :
    step ⟨order, consumed, wire ++ tail⟩ = (.ok a, ⟨order, wire.reverse ++ consumed, tail⟩) :=
  have done := read ⟨order, consumed, wire ++ tail⟩ consumed tail rfl
  Prod.ext done.1 done.2

theorem reads_pure (a : α) : (Pure.pure a : Reader σ α).Reads order [] a :=
  fun _ _ _ same => ⟨rfl, same⟩

-- The rest needs no more bytes.
theorem Reads.finish {first : Reader σ α} {next : α → Reader σ β} {wire : Bytes} {a : α} {b : β}
    (one : first.Reads order wire a) (two : (next a).Reads order [] b) :
    (first >>= next).Reads order wire b := by
  have whole := one.bind two
  rwa [List.append_nil] at whole

theorem Reads.map {step : Reader σ α} {wire : Bytes} {a : α} (read : step.Reads order wire a)
    (change : α → β) : (step >>= fun a => Pure.pure (change a)).Reads order wire (change a) :=
  read.finish (reads_pure (change a))

theorem Reads.onBuffer {step : Reader Buffer α} {wire : Bytes} {a : α}
    (read : step.Reads order wire a) :
    (Decoding.onBuffer step : Reader (Decoding κ) α).Reads order wire a :=
  fun state consumed tail same => read state.buffer consumed tail same

end Reads

section Steady

variable [Buffered σ]

def RanOut : Except HostError α → Prop
  | .ok _ => False
  | .error e => e.RunsOut

def Steady (step : Reader σ α) : Prop :=
  ∀ (state : σ) (tail : Bytes), ¬ RanOut (step state).1 →
    step (Buffered.extend state tail) = ((step state).1, Buffered.extend (step state).2 tail)

theorem Steady.bind {first : Reader σ α} {next : α → Reader σ β} (one : first.Steady)
    (two : ∀ a, (next a).Steady) : (first >>= next).Steady := by
  intro state tail enough
  have head := one state tail
  change Reader.bind first next (Buffered.extend state tail) =
    ((Reader.bind first next state).1, Buffered.extend (Reader.bind first next state).2 tail)
  change ¬ RanOut (Reader.bind first next state).1 at enough
  unfold Reader.bind at enough ⊢
  rcases ran : first state with ⟨e | a, middle⟩
  · simp only [ran] at head enough ⊢
    rw [head enough]
  · simp only [ran] at head enough ⊢
    rw [head id]
    exact two a middle tail enough

theorem steady_pure (a : α) : (Pure.pure a : Reader σ α).Steady := fun _ _ _ => rfl

theorem steady_fail (e : HostError) : (Reader.fail e : Reader σ α).Steady := fun _ _ _ => rfl

theorem Steady.onBuffer {step : Reader Buffer α} (steady : step.Steady) :
    (Decoding.onBuffer step : Reader (Decoding κ) α).Steady := by
  intro state tail enough
  have done := steady state.buffer tail enough
  change step (state.buffer.append tail) = ((step state.buffer).1, (step state.buffer).2.append tail) at done
  change ((step (state.buffer.append tail)).1,
    ({ state with buffer := (step (state.buffer.append tail)).2 } : Decoding κ)) = _
  rw [done]
  rfl

end Steady

end Reader

namespace Buffer

open Reader

variable {order : ByteOrder}

theorem take_enough {count : Nat} {unread : Bytes} (enough : count ≤ unread.length)
    (order : ByteOrder) (consumed : Bytes) : take count ⟨order, consumed, unread⟩ =
      (.ok (unread.take count), ⟨order, (unread.take count).reverse ++ consumed, unread.drop count⟩) := by
  simp [take, Nat.min_eq_left enough]

theorem take_short {count : Nat} {unread : Bytes} (short : unread.length < count)
    (order : ByteOrder) (consumed : Bytes) : take count ⟨order, consumed, unread⟩ =
      (.error (.underrun count unread.length), ⟨order, consumed, unread⟩) := by
  simp [take, short, Nat.min_eq_right (Nat.le_of_lt short)]

theorem reads_take (order : ByteOrder) (data : Bytes) : (take data.length).Reads order data data := by
  rintro state consumed tail rfl
  rw [take_enough (by simp), List.take_left, List.drop_left]
  exact ⟨rfl, rfl⟩

theorem reads_getU32 (order : ByteOrder) (n : UInt32) : getU32.Reads order (order.encode n) n := by
  rintro state consumed tail rfl
  have taken := (reads_take order (order.encode n)).exact consumed tail
  rw [order.length_encode n] at taken
  change (getU32 ⟨order, consumed, order.encode n ++ tail⟩).1 = _ ∧
    (getU32 ⟨order, consumed, order.encode n ++ tail⟩).2 = _
  simp only [getU32, taken, order.decode_encode n, and_self]

theorem reads_getBytes (order : ByteOrder) {data : Bytes} (short : data.length < 2 ^ 32) :
    getBytes.Reads order (order.counted data) data := by
  have length : (UInt32.ofNat data.length).toNat = data.length := UInt32.toNat_ofNat_of_lt' short
  refine (reads_getU32 order (UInt32.ofNat data.length)).bind ?_
  rw [length]
  exact reads_take order data

theorem reads_getString (order : ByteOrder) {text : String}
    (short : (Utf8.encode text).length < 2 ^ 32) :
    getString.Reads order (order.counted (Utf8.encode text)) text := by
  refine (reads_getBytes order short).finish ?_
  rw [Utf8.text?_encode]
  exact reads_pure text

theorem steady_take (count : Nat) : (take count).Steady := by
  rintro ⟨order, consumed, unread⟩ tail enough
  rcases Nat.lt_or_ge unread.length count with short | there
  · rw [take_short short] at enough
    exact (enough trivial).elim
  · have longer : count ≤ (unread ++ tail).length := by
      rw [List.length_append]
      omega
    change take count ⟨order, consumed, unread ++ tail⟩ = _
    rw [take_enough there, take_enough longer, List.take_append_of_le_length there,
      List.drop_append_of_le_length there]
    rfl

theorem steady_getU32 : getU32.Steady := by
  intro state tail enough
  have done := steady_take 4 state tail
  unfold getU32 at enough ⊢
  rcases ran : take 4 state with ⟨e | bytes, rest⟩
  · simp only [ran] at done enough ⊢
    rw [done enough]
  · simp only [ran] at done ⊢
    rw [done id]
    rfl

theorem steady_getBytes : getBytes.Steady :=
  steady_getU32.bind fun length => steady_take length.toNat

theorem steady_getString : getString.Steady := by
  refine steady_getBytes.bind fun bytes => ?_
  cases Utf8.text? bytes with
  | none => exact steady_fail _
  | some text => exact steady_pure text

end Buffer
end RecordBridge
