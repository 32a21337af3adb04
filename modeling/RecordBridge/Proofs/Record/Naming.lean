import Mathlib.Data.List.Nodup
import RecordBridge.Proofs.Record.Putting
import RecordBridge.Proofs.Record.Sent

namespace RecordBridge

variable {κ : Type}

namespace Record

def names (record : Record κ) : List String := Named.names record.attributes

-- Every value that the record carries under a name.
def values (record : Record κ) (name : String) : List Value := Named.values name record.attributes

-- How a record comes about that begins with certain names: it is made new or read, then set and copied any
-- number of times.
inductive Begun [Cargo κ] : List String → Record κ → Prop where
  | new : Begun [] .empty
  | read {order : ByteOrder} {registry : Registry κ} {bs : Bytes} {ledger : Ledger} {record : Record κ}
      {rest : Buffer} (accepted : (deserialize registry (.ofBytes order bs) ledger).1 = (.ok record, rest)) :
      Begun record.names record
  | set {first : List String} {record : Record κ} (before : Begun first record) (name : String) (value : Value) :
      Begun first (record.setAttribute name value)
  | clone {first : List String} {record : Record κ} (before : Begun first record) (ledger : Ledger) :
      Begun first (record.clone ledger).1

theorem names_setAttribute (record : Record κ) (name : String) (value : Value) :
    (record.setAttribute name value).names =
      if name ∈ record.names then record.names else record.names ++ [name] :=
  Named.names_put name value record.attributes

-- What stands under a name after it was set, and under any other.
structure Sets (record : Record κ) (name : String) (value : Value) : Prop where
  found : (record.setAttribute name value).attribute? name = some value
  here : (record.setAttribute name value).values name = value :: (record.values name).tail
  others : ∀ other ≠ name, (record.setAttribute name value).values other = record.values other

theorem sets (record : Record κ) (name : String) (value : Value) : record.Sets name value where
  found := Named.find?_put_self name value record.attributes
  here := Named.values_put_self value
  others _ different := Named.values_put_other different value

theorem values_short {record : Record κ} (distinct : record.names.Nodup) (name : String) :
    (record.values name).length ≤ 1 := by
  rw [values, ← Named.count_values]
  exact List.nodup_iff_count_le_one.mp distinct name

-- One value is left of any number exactly if there was at most one.
theorem single_iff (record : Record κ) (name : String) (value : Value) :
    (record.setAttribute name value).values name = [value] ↔ (record.values name).length ≤ 1 := by
  rw [(record.sets name value).here]
  cases record.values name with
  | nil => simp
  | cons first rest => simp

variable [Cargo κ] {first : List String} {record : Record κ}

-- Nothing is added but names that are not there yet. By induction on how the record came about.
theorem Begun.names (begun : Begun first record) :
    ∃ added, record.names = first ++ added ∧ added.Nodup ∧ ∀ name ∈ added, name ∉ first := by
  induction begun with
  | new => exact ⟨[], rfl, List.nodup_nil, by simp⟩
  | read accepted => exact ⟨[], (List.append_nil _).symm, List.nodup_nil, by simp⟩
  | clone before ledger ih => exact ih
  | @set first record before name value ih =>
    obtain ⟨added, whole, distinct, new⟩ := ih
    rw [names_setAttribute]
    by_cases known : name ∈ record.names
    · exact ⟨added, by rw [if_pos known, whole], distinct, new⟩
    · rw [whole, List.mem_append, not_or] at known
      refine ⟨added ++ [name], ?_, ?_, ?_⟩
      · rw [whole, if_neg (by simpa using known), List.append_assoc]
      · rw [List.nodup_append]
        refine ⟨distinct, List.nodup_singleton name, ?_⟩
        intro old member again here same
        rw [List.mem_singleton.mp here] at same
        exact known.2 (same ▸ member)
      · intro other member
        cases List.mem_append.mp member with
        | inl old => exact new other old
        | inr here => exact List.mem_singleton.mp here ▸ known.1

theorem Begun.distinct_iff (begun : Begun first record) : record.names.Nodup ↔ first.Nodup := by
  obtain ⟨added, whole, distinct, new⟩ := begun.names
  rw [whole, List.nodup_append]
  constructor
  · exact fun all => all.1
  · intro start
    refine ⟨start, distinct, ?_⟩
    intro old before name after same
    exact new name after (same ▸ before)

end Record

variable [Cargo κ]

theorem names_inherited :
    (∀ (first : List String) (record : Record κ), record.Begun first →
      (∃ added, record.names = first ++ added ∧ added.Nodup ∧ ∀ name ∈ added, name ∉ first) ∧
      (record.names.Nodup ↔ first.Nodup) ∧
      ∀ name value, record.Sets name value ∧
        (first.Nodup → (record.setAttribute name value).values name = [value])) ∧
    (∀ (record : Record κ) (name : String) (value : Value),
      (record.setAttribute name value).values name = [value] ↔ (record.values name).length ≤ 1) ∧
    ∀ (order : ByteOrder) (registry : Registry κ) (bs : Bytes) (ledger : Ledger) (received : Record κ)
      (rest : Buffer), (Record.deserialize registry (.ofBytes order bs) ledger).1 = (.ok received, rest) →
      (∃ sent : SentRecord κ, sent.Restorable order registry ∧ bs = sent.wire order ++ rest.unread) ∧
      ∀ sent : SentRecord κ, sent.Restorable order registry → bs = sent.wire order ++ rest.unread →
        received.names = Named.names sent.attributes := by
  refine ⟨?_, Record.single_iff, ?_⟩
  · intro first record begun
    refine ⟨begun.names, begun.distinct_iff, fun name value => ⟨record.sets name value, fun start => ?_⟩⟩
    have distinct := begun.distinct_iff.mpr start
    exact (record.single_iff name value).mpr (Record.values_short distinct name)
  · intro order registry bs ledger received rest read
    obtain ⟨one, restorable, -, split, -⟩ := Record.deserialize_accepted read
    refine ⟨⟨one, restorable, split⟩, ?_⟩
    intro sent accepted whole
    rw [Record.received_unique read accepted whole]
    rfl

-- Two attributes that are read, of which the second is set and then a third, before it is all copied.
def SentRecord.ofTwo : SentRecord Fields := ⟨[("text", .rstring ⟨[0xFF, 0x41]⟩), ("code", .blob ⟨[1]⟩)], ⟨0, []⟩⟩

def Record.ofThree : Record :=
  (SentRecord.ofTwo.received.setAttribute "code" (.blob ⟨[2]⟩)).setAttribute "new" (.blob ⟨[3]⟩)

theorem names_of_three :
    SentRecord.ofTwo.Restorable .network (.empty : Registry) ∧
    (Record.deserialize (.empty : Registry) (.ofBytes .network (SentRecord.ofTwo.wire .network ++ [7])) .initial).1 =
      (.ok SentRecord.ofTwo.received, ⟨.network, (SentRecord.ofTwo.wire .network).reverse, [7]⟩) ∧
    Record.ofThree.Begun ["text", "code"] ∧ ["text", "code"].Nodup ∧ "new" ≠ "code" ∧
    (Record.ofThree.values "code").length ≤ 1 ∧ Record.ofThree.names.Nodup ∧
    (Record.ofThree.setAttribute "code" (.blob ⟨[4]⟩)).values "code" = [.blob ⟨[4]⟩] ∧
    (Record.ofThree.setAttribute "code" (.blob ⟨[4]⟩)).values "new" = [.blob ⟨[3]⟩] := by
  have restorable : SentRecord.ofTwo.Restorable .network (.empty : Registry) :=
    ⟨by decide, by decide, by decide, by simp [SentRecord.ofTwo]⟩
  have read := Record.deserialize_sent restorable [] [7] .initial
  rw [List.append_nil] at read
  obtain ⟨reached, single, wire⟩ := @names_inherited Fields _
  have names : SentRecord.ofTwo.received.names = ["text", "code"] := (wire _ _ _ _ _ _ read).2 _ restorable rfl
  have first := Record.Begun.read read
  rw [names] at first
  have begun : Record.ofThree.Begun ["text", "code"] := ((first.set "code" _).set "new" _).clone .initial
  have start : ["text", "code"].Nodup := by decide
  obtain ⟨-, distinct, each⟩ := reached _ _ begun
  obtain ⟨sets, one⟩ := each "code" (.blob ⟨[4]⟩)
  have other : "new" ≠ "code" := by decide
  have few := (single Record.ofThree "code" (.blob ⟨[4]⟩)).mp (one start)
  exact ⟨restorable, read, begun, start, other, few, distinct.mpr start, one start, sets.others "new" other⟩

-- Two attributes come under one name and both are kept; setting it changes the first.
theorem repeated_name_kept :
    (Record.deserialize (.empty : Registry) (.ofBytes .network [0, 0, 0, 2,
        0, 0, 0, 1, 0x61, 0, 0, 0, 1, 0, 0, 0, 1, 1,
        0, 0, 0, 1, 0x61, 0, 0, 0, 1, 0, 0, 0, 1, 2,
        0, 0, 0, 0]) .initial).1.1 = .ok ⟨[("a", .blob ⟨[1]⟩), ("a", .blob ⟨[2]⟩)], none⟩ ∧
    ¬ (⟨[("a", .blob ⟨[1]⟩), ("a", .blob ⟨[2]⟩)], none⟩ : Record).names.Nodup ∧
    ((⟨[("a", .blob ⟨[1]⟩), ("a", .blob ⟨[2]⟩)], none⟩ : Record).setAttribute "a" (.blob ⟨[3]⟩)).values "a" =
      [.blob ⟨[3]⟩, .blob ⟨[2]⟩] :=
  ⟨by decide +kernel, by decide, by decide⟩

end RecordBridge
