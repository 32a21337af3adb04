import RecordBridge.Proofs.Record.Alike

namespace RecordBridge

-- All bytes held, read or not, and the place up to which they are read. Nothing here keeps that place within
-- the bytes: where a length would be negative or a cut would leave them, there is no outcome.
structure Tape where
  order : ByteOrder
  data : Bytes
  cursor : Nat
  deriving DecidableEq

namespace Tape

variable {α β : Type}

def Read (α : Type) : Type := Tape → Option (Except HostError α × Tape)

def Read.pure (a : α) : Read α := fun tape => some (.ok a, tape)

def Read.bind (first : Read α) (next : α → Read β) : Read β := fun tape =>
  match first tape with
  | some (.ok a, after) => next a after
  | some (.error e, after) => some (.error e, after)
  | none => none

def Read.fail (e : HostError) : Read α := fun tape => some (.error e, tape)

instance : Monad Read where
  pure := Read.pure
  bind := Read.bind

def ofBytes (order : ByteOrder) (bytes : Bytes) : Tape := ⟨order, bytes, 0⟩

def Within (tape : Tape) : Prop := tape.cursor ≤ tape.data.length

instance (tape : Tape) : Decidable tape.Within := inferInstanceAs (Decidable (_ ≤ _))

def remaining? (tape : Tape) : Option Nat :=
  if tape.Within then some (tape.data.length - tape.cursor) else none

def cut? (tape : Tape) (start stop : Nat) : Option Bytes :=
  if start ≤ stop ∧ stop ≤ tape.data.length then some ((tape.data.take stop).drop start) else none

def append (tape : Tape) (bytes : Bytes) : Tape := { tape with data := tape.data ++ bytes }

def putU32 (tape : Tape) (n : UInt32) : Tape := tape.append (tape.order.encode n)

def putBytes (tape : Tape) (bytes : Bytes) : Tape :=
  (tape.putU32 (UInt32.ofNat bytes.length)).append bytes

def putString (tape : Tape) (text : String) : Tape := tape.putBytes (Utf8.encode text)

def take (count : Nat) : Read Bytes := fun tape => do
  let left ← tape.remaining?
  if left < count then some (.error (.underrun count left), tape)
  else
    let taken ← tape.cut? tape.cursor (tape.cursor + count)
    some (.ok taken, { tape with cursor := tape.cursor + count })

def getU32 : Read UInt32 := fun tape =>
  (take 4).bind (fun bytes => .pure (tape.order.decode bytes)) tape

def getBytes : Read Bytes := do
  let length ← getU32
  take length.toNat

def getString : Read String := do
  let bytes ← getBytes
  match Utf8.text? bytes with
  | some text => return text
  | none => .fail .invalidName

theorem take_outside {tape : Tape} (outside : ¬ tape.Within) (count : Nat) : take count tape = none := by
  rw [take, remaining?, if_neg outside]
  rfl

end Tape

namespace Buffer

-- The tape that a queue stands for.
def tape (buffer : Buffer) : Tape := ⟨buffer.order, buffer.bytes, buffer.cursor⟩

theorem cursor_remaining (buffer : Buffer) : buffer.cursor + buffer.remaining = buffer.bytes.length := by
  rw [bytes, List.length_append, List.length_reverse]
  rfl

theorem tape_within (buffer : Buffer) : buffer.tape.Within := by
  have split := buffer.cursor_remaining
  exact Nat.le.intro split

theorem tape_remaining (buffer : Buffer) : buffer.tape.remaining? = some buffer.remaining := by
  have split := buffer.cursor_remaining
  rw [Tape.remaining?, if_pos buffer.tape_within]
  change some (buffer.bytes.length - buffer.cursor) = _
  rw [← split, Nat.add_sub_cancel_left]

theorem tape_cut {count : Nat} {buffer : Buffer} (enough : count ≤ buffer.remaining) :
    buffer.tape.cut? buffer.cursor (buffer.cursor + count) = some (buffer.unread.take count) := by
  have split := buffer.cursor_remaining
  have inside : buffer.cursor ≤ buffer.cursor + count ∧ buffer.cursor + count ≤ buffer.tape.data.length :=
    ⟨Nat.le_add_right _ _, split ▸ Nat.add_le_add_left enough _⟩
  rw [Tape.cut?, if_pos inside]
  congr 1
  change ((buffer.consumed.reverse ++ buffer.unread).take _).drop _ = _
  rw [cursor, ← List.length_reverse, List.take_length_add_append, List.drop_left]

theorem tape_append (buffer : Buffer) (bytes : Bytes) : (buffer.append bytes).tape = buffer.tape.append bytes := by
  change Tape.mk _ (buffer.consumed.reverse ++ (buffer.unread ++ bytes)) _ = _
  rw [← List.append_assoc]
  rfl

theorem tape_putBytes (buffer : Buffer) (bytes : Bytes) :
    (buffer.putBytes bytes).tape = buffer.tape.putBytes bytes := by
  rw [putBytes, tape_append, putU32, tape_append]
  rfl

end Buffer

namespace Tape

-- Every place within the bytes splits them into a queue.
theorem within_iff {tape : Tape} : tape.Within ↔ ∃ buffer : Buffer, buffer.tape = tape := by
  constructor
  · intro within
    refine ⟨⟨tape.order, (tape.data.take tape.cursor).reverse, tape.data.drop tape.cursor⟩, ?_⟩
    simp only [Buffer.tape, Buffer.bytes, Buffer.cursor, List.reverse_reverse, List.take_append_drop,
      List.length_reverse, List.length_take_of_le within]
  · rintro ⟨buffer, rfl⟩
    exact buffer.tape_within

-- Where a queue answers, the tape it stands for answers the same, and the tapes go on alike.
def Read.Follows (read : Read α) (reader : Reader Buffer α) : Prop :=
  ∀ buffer : Buffer, read buffer.tape = some ((reader buffer).1, (reader buffer).2.tape)

variable {α β : Type}

theorem Read.Follows.pure (a : α) : (Read.pure a).Follows (Reader.pure a) := fun _ => rfl

theorem Read.Follows.fail (e : HostError) : (Read.fail e : Read α).Follows (Reader.fail e) := fun _ => rfl

theorem Read.Follows.bind {read : Read α} {reader : Reader Buffer α} {rest : α → Read β}
    {next : α → Reader Buffer β} (first : read.Follows reader) (later : ∀ a, (rest a).Follows (next a)) :
    (read.bind rest).Follows (reader.bind next) := by
  intro buffer
  rw [Read.bind, Reader.bind, first buffer]
  obtain ⟨answer, after⟩ := reader buffer
  cases answer with
  | ok a => exact later a after
  | error e => rfl

theorem take_follows (count : Nat) : (take count).Follows (Buffer.take count) := by
  intro buffer
  rw [take, buffer.tape_remaining]
  change (if buffer.remaining < count then _ else _) = _
  rcases Nat.lt_or_ge buffer.remaining count with few | enough
  · rw [if_pos few, Buffer.take_short few buffer.order buffer.consumed]
    rfl
  · have moved : buffer.cursor + count = ((buffer.unread.take count).reverse ++ buffer.consumed).length := by
      rw [List.length_append, List.length_reverse, List.length_take_of_le enough, Nat.add_comm]
      rfl
    have kept : buffer.bytes =
        ((buffer.unread.take count).reverse ++ buffer.consumed).reverse ++ buffer.unread.drop count := by
      rw [List.reverse_append, List.reverse_reverse, List.append_assoc, List.take_append_drop]
      rfl
    rw [if_neg (Nat.not_lt.mpr enough), Buffer.take_enough enough buffer.order buffer.consumed]
    change (buffer.tape.cut? buffer.cursor (buffer.cursor + count)).bind _ = _
    rw [Buffer.tape_cut enough]
    change some (Except.ok _, Tape.mk _ buffer.bytes (buffer.cursor + count)) = some (Except.ok _, Tape.mk _ _ _)
    rw [moved, kept]
    rfl

theorem getU32_follows : getU32.Follows Buffer.getU32 := by
  intro buffer
  rw [getU32, Read.bind, take_follows 4 buffer, Buffer.getU32]
  obtain ⟨answer, after⟩ := Buffer.take 4 buffer
  cases answer <;> rfl

theorem getBytes_follows : getBytes.Follows Buffer.getBytes :=
  getU32_follows.bind fun length => take_follows length.toNat

theorem getString_follows : getString.Follows Buffer.getString := by
  refine getBytes_follows.bind fun bytes => ?_
  cases Utf8.text? bytes with
  | some text => exact .pure text
  | none => exact .fail .invalidName

end Tape
end RecordBridge
