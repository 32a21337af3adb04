import Mathlib.Data.List.Forall2
import RecordBridge.Proofs.Record.Accepting

namespace RecordBridge.Field

-- The same kind of field, whatever it holds.
inductive Alike : Field → Field → Prop where
  | number {blank n : UInt32} : Alike (.number blank) (.number n)
  | bytes {blank data : Bytes} : Alike (.bytes blank) (.bytes data)

def Short : Field → Prop
  | .number _ => True
  | .bytes data => data.length < 2 ^ 32

def wire (order : ByteOrder) : Field → Bytes
  | .number n => order.encode n
  | .bytes data => order.counted data

theorem write_exact (buffer : Buffer) (field : Field) :
    field.write buffer = buffer.append (field.wire buffer.order) := by
  cases field with
  | number n => rfl
  | bytes data => exact buffer.putBytes_exact data

theorem writeAll_exact (buffer : Buffer) (fields : Fields) :
    writeAll buffer fields = buffer.append (fields.flatMap (wire buffer.order)) := by
  have each : ∀ buffer field, write buffer field = buffer.append (wire buffer.order field) := write_exact
  exact Buffer.foldl_append each fields buffer

theorem reads_field (order : ByteOrder) {blank field : Field} (alike : Alike blank field)
    (short : field.Short) : blank.read.Reads order (field.wire order) field := by
  cases alike with
  | number => exact (Buffer.reads_getU32 order _).map Field.number
  | bytes => exact (Buffer.reads_getBytes order short).map Field.bytes

theorem readAll_wire {order : ByteOrder} {blanks fields : Fields}
    (alike : List.Forall₂ Alike blanks fields) (short : ∀ field ∈ fields, field.Short)
    (consumed tail : Bytes) : readAll blanks ⟨order, consumed, fields.flatMap (wire order) ++ tail⟩ =
      ⟨.ok (), fields, ⟨order, (fields.flatMap (wire order)).reverse ++ consumed, tail⟩⟩ := by
  induction alike generalizing consumed with
  | nil => rfl
  | @cons blank field blanks fields one others ih =>
    have head := (reads_field order one (short field List.mem_cons_self)).exact consumed
      (fields.flatMap (wire order) ++ tail)
    have done := ih (fun field member => short field (List.mem_cons_of_mem _ member))
      ((field.wire order).reverse ++ consumed)
    rw [List.flatMap_cons, List.append_assoc, List.reverse_append, List.append_assoc, readAll, head]
    simp only [done]

theorem accepts_field (order : ByteOrder) (blank : Field) : blank.read.Accepts order
    fun data field => Alike blank field ∧ field.Short ∧ data = field.wire order := by
  cases blank with
  | number blank =>
    refine (Buffer.accepts_getU32 order).map Field.number ?_
    rintro n data rfl
    exact ⟨.number, trivial, rfl⟩
  | bytes blank =>
    exact (Buffer.accepts_getBytes order).map Field.bytes fun content data form => ⟨.bytes, form⟩

-- What was read without a failure is what was written, up to where the reading stopped.
theorem readAll_accepted {order : ByteOrder} (blanks : Fields) (consumed unread : Bytes)
    (filled : (readAll blanks ⟨order, consumed, unread⟩).outcome = .ok ()) :
    ∃ (fields : Fields) (tail : Bytes), List.Forall₂ Alike blanks fields ∧
      (∀ field ∈ fields, field.Short) ∧ unread = fields.flatMap (wire order) ++ tail := by
  induction blanks generalizing consumed unread with
  | nil => exact ⟨[], unread, .nil, by simp, rfl⟩
  | cons blank blanks ih =>
    have head := accepts_field order blank ⟨order, consumed, unread⟩ consumed unread rfl
    rcases ran : blank.read ⟨order, consumed, unread⟩ with ⟨e | field, left⟩
    · rw [readAll] at filled
      simp only [ran] at filled
      cases filled
    · rw [readAll] at filled
      simp only [ran] at head filled
      obtain ⟨front, rest, ⟨alike, short, rfl⟩, rfl, rfl⟩ := head field rfl
      obtain ⟨fields, tail, others, shorts, rfl⟩ := ih _ rest filled
      exact ⟨field :: fields, tail, .cons alike others, List.forall_mem_cons.mpr ⟨short, shorts⟩,
        (List.append_assoc _ _ _).symm⟩

end RecordBridge.Field
