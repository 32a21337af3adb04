import RecordBridge.Proofs.Record.NormalForm

namespace RecordBridge

variable {κ : Type}

namespace ByteOrder

-- Where the number is not the true one, what is read as the data are the first of them.
theorem counted_cut {order : ByteOrder} {data cut front back : Bytes} (short : cut.length < 2 ^ 32)
    (same : order.counted data ++ front = order.counted cut ++ back) : cut = data.take (data.length % 2 ^ 32) := by
  rw [counted, counted, List.append_assoc, List.append_assoc] at same
  obtain ⟨numbers, rest⟩ := encode_append_inj same
  have length := ofNat_wraps short numbers
  calc cut
    _ = (cut ++ back).take cut.length := List.take_left.symm
    _ = (data ++ front).take (data.length % 2 ^ 32) := by rw [← rest, length]
    _ = data.take (data.length % 2 ^ 32) := List.take_append_of_le_length (Nat.mod_le _ _)

end ByteOrder

theorem Value.same_of_parts {value other : Value} (kind : value.tag = other.tag) (bytes : value.bytes = other.bytes) :
    value = other := by
  cases value with
  | blob content =>
    cases other with
    | blob more => exact congrArg (fun data => Value.blob ⟨data⟩) bytes
    | rstring more => cases kind
  | rstring content =>
    cases other with
    | blob more => cases kind
    | rstring more => exact congrArg (fun data => Value.rstring ⟨data⟩) bytes

namespace Record

-- Every number that goes before attributes, or before their bytes, is the true one.
structure Told (attributes : List (String × Value)) : Prop where
  few : attributes.length < 2 ^ 32
  short : ∀ entry ∈ attributes, ShortAttribute entry

theorem Told.later {entry : String × Value} {rest : List (String × Value)} (told : Told (entry :: rest)) :
    Told rest where
  few := Nat.lt_of_succ_lt told.few
  short later member := told.short later (List.mem_cons_of_mem _ member)

-- What the reader may take one attribute for. Its name or its value is too long and is cut; behind a cut name
-- nothing is said of the value that is read.
inductive Cut : String × Value → String × Value → Prop where
  | name {label cut : String} {value other : Value} (long : 2 ^ 32 ≤ (Utf8.encode label).length)
      (first : Utf8.encode cut = (Utf8.encode label).take ((Utf8.encode label).length % 2 ^ 32)) :
      Cut (label, value) (cut, other)
  | value {label : String} {value cut : Value} (long : 2 ^ 32 ≤ value.bytes.length) (kind : cut.tag = value.tag)
      (first : cut.bytes = value.bytes.take (value.bytes.length % 2 ^ 32)) : Cut (label, value) (label, cut)

-- What the reader may take the attributes that were sent for. Both go on alike until one is cut, or until some are
-- left over whose number is lost. Nothing is said of what is read behind that.
inductive Misread : List (String × Value) → List (String × Value) → Prop where
  | count {sent : List (String × Value)} (lost : 2 ^ 32 ∣ sent.length) (some : sent ≠ []) : Misread sent []
  | here {entry other : String × Value} {back later : List (String × Value)} (cut : Cut entry other) :
      Misread (entry :: back) (other :: later)
  | later {entry : String × Value} {back later : List (String × Value)} (behind : Misread back later) :
      Misread (entry :: back) (entry :: later)

theorem Cut.long {entry other : String × Value} (cut : Cut entry other) : ¬ ShortAttribute entry := by
  intro short
  cases cut with
  | name long first => exact Nat.not_lt.mpr long short.1
  | value long kind first => exact Nat.not_lt.mpr long short.2

theorem Misread.untold {sent received : List (String × Value)} (misread : Misread sent received) : ¬ Told sent := by
  intro told
  induction misread with
  | count lost some =>
    have most := Nat.le_of_dvd (List.length_pos_of_ne_nil some) lost
    exact Nat.not_lt.mpr most told.few
  | here cut => exact cut.long (told.short _ List.mem_cons_self)
  | later behind ih => exact ih told.later

theorem cut_of_wire {order : ByteOrder} {sent received : String × Value} {front back : Bytes}
    (short : ShortAttribute received)
    (same : attributeWire order sent ++ front = attributeWire order received ++ back) :
    (sent = received ∧ front = back) ∨ Cut sent received := by
  obtain ⟨label, value⟩ := sent
  obtain ⟨cut, other⟩ := received
  obtain ⟨shortName, shortValue⟩ := short
  simp only [attributeWire, Value.wire, List.append_assoc] at same
  rcases Nat.lt_or_ge (Utf8.encode label).length (2 ^ 32) with trueName | long
  · obtain ⟨names, behindName⟩ := ByteOrder.counted_append_inj trueName shortName same
    obtain rfl : label = cut := by
      rw [← Option.some_inj, ← Utf8.text?_encode label, names, Utf8.text?_encode]
    obtain ⟨kinds, behindKind⟩ := ByteOrder.encode_append_inj behindName
    rcases Nat.lt_or_ge value.bytes.length (2 ^ 32) with trueValue | long
    · obtain ⟨values, behindValue⟩ := ByteOrder.counted_append_inj trueValue shortValue behindKind
      exact .inl ⟨congrArg (Prod.mk label) (Value.same_of_parts kinds values), behindValue⟩
    · exact .inr (.value long kinds.symm (ByteOrder.counted_cut shortValue behindKind))
  · exact .inr (.name long (ByteOrder.counted_cut shortName same))

-- By induction on what was read. The numbers of attributes agree modulo 2^32, and so do those of what is left.
theorem misread_of_wire {order : ByteOrder} {sent received : List (String × Value)} {k : Nat} {front back : Bytes}
    (short : ∀ entry ∈ received, ShortAttribute entry) (count : sent.length = received.length + 2 ^ 32 * k)
    (same : sent.flatMap (attributeWire order) ++ front = received.flatMap (attributeWire order) ++ back) :
    sent = received ∨ Misread sent received := by
  induction received generalizing sent with
  | nil =>
    by_cases none : sent = []
    · exact .inl none
    · refine .inr (.count ⟨k, ?_⟩ none)
      rw [count, List.length_nil, Nat.zero_add]
  | cons entry later ih =>
    cases sent with
    | nil =>
      rw [List.length_nil, List.length_cons] at count
      omega
    | cons first rest =>
      rw [List.flatMap_cons, List.flatMap_cons, List.append_assoc, List.append_assoc] at same
      cases cut_of_wire (short entry List.mem_cons_self) same with
      | inr cut => exact .inr (.here cut)
      | inl alike =>
        obtain ⟨rfl, behind⟩ := alike
        have others : rest.length = later.length + 2 ^ 32 * k := by
          rw [List.length_cons, List.length_cons] at count
          omega
        cases ih (fun entry member => short entry (List.mem_cons_of_mem _ member)) others behind with
        | inl whole => exact .inl (congrArg _ whole)
        | inr misread => exact .inr misread.later

theorem misread_of_attributes {order : ByteOrder} {sent received : List (String × Value)} {front back : Bytes}
    (told : Told received) (same : attributesWire order sent ++ front = attributesWire order received ++ back) :
    sent = received ∨ Misread sent received := by
  simp only [attributesWire, List.append_assoc] at same
  obtain ⟨counts, behind⟩ := ByteOrder.encode_append_inj same
  have count : sent.length = received.length + 2 ^ 32 * (sent.length / 2 ^ 32) := by
    rw [← ByteOrder.ofNat_wraps told.few counts, Nat.mod_add_div]
  exact misread_of_wire told.short count behind

variable [Cargo κ] {order : ByteOrder} {registry : Registry κ}

-- Of a record that was sent, whatever its payloads and whatever comes behind it.
theorem returned_or_misread {record received : Record κ} {tail : Bytes} {ledger : Ledger} {rest : Buffer}
    (read : (deserialize registry (.ofBytes order (record.serialize order ++ tail)) ledger).1 = (.ok received, rest)) :
    (received.attributes = record.attributes ∧ Told record.attributes) ∨
      (received.attributes ≠ record.attributes ∧ Misread record.attributes received.attributes) := by
  obtain ⟨sent, restorable, rfl, split, -⟩ := deserialize_accepted read
  have told : Told sent.attributes := ⟨restorable.fewAttributes, restorable.shortAttributes⟩
  rw [serialize_exact, wire, SentRecord.wire, List.append_assoc, List.append_assoc] at split
  change (sent.attributes = _ ∧ _) ∨ (sent.attributes ≠ _ ∧ Misread _ sent.attributes)
  cases misread_of_attributes told split with
  | inl same => exact .inl ⟨same.symm, same ▸ told⟩
  | inr misread => exact .inr ⟨fun same => misread.untold (same ▸ told), misread⟩

theorem returned_whole {record : Record κ} (bare : record.container.entries = []) (told : Told record.attributes)
    (tail : Bytes) (ledger : Ledger) :
    (deserialize registry (.ofBytes order (record.serialize order ++ tail)) ledger).1 =
      (.ok record, ⟨order, (record.serialize order).reverse, tail⟩) := by
  have sound : record.Transportable order registry :=
    ⟨told.few, told.short, by simp [Container.size, bare], by simp [bare], by simp [bare]⟩
  have same : record.rebuilt registry order = record := by
    obtain ⟨attributes, payloads⟩ := record
    cases payloads with
    | none => rfl
    | some container =>
      obtain ⟨entries⟩ := container
      obtain rfl : entries = [] := bare
      rfl
  have done := deserialize_wire sound [] tail ledger
  rwa [same, List.append_nil, ← serialize_exact] at done

end Record

-- What makes the length of some bytes a multiple of 2^32.
def Bytes.filler (hidden : Bytes) : Bytes :=
  List.replicate (2 ^ 32 * (hidden.length / 2 ^ 32 + 1) - hidden.length) 0

-- Data with other bytes behind them, and so many that their number is that of the data.
def Bytes.concealing (data hidden : Bytes) : Bytes := data ++ (hidden ++ hidden.filler)

theorem Bytes.length_concealing (data hidden : Bytes) :
    (data.concealing hidden).length = data.length + 2 ^ 32 * (hidden.length / 2 ^ 32 + 1) := by
  have enough : hidden.length ≤ 2 ^ 32 * (hidden.length / 2 ^ 32 + 1) := by omega
  simp only [concealing, filler, List.length_append, List.length_replicate]
  omega

namespace ByteOrder

theorem ofNat_add_wraps (n k : Nat) : UInt32.ofNat (n + 2 ^ 32 * k) = UInt32.ofNat n := by
  apply UInt32.toNat_inj.mp
  simp only [UInt32.toNat_ofNat']
  omega

theorem counted_concealing (order : ByteOrder) (data hidden : Bytes) :
    order.counted (data.concealing hidden) = order.counted data ++ (hidden ++ hidden.filler) := by
  rw [counted, Bytes.length_concealing, ofNat_add_wraps, Bytes.concealing, counted, List.append_assoc]

end ByteOrder

-- A value of the same kind with other bytes behind its own.
def Value.concealing (value : Value) (hidden : Bytes) : Value :=
  match value with
  | .blob content => .blob ⟨content.data.concealing hidden⟩
  | .rstring content => .rstring ⟨content.bytes.concealing hidden⟩

theorem Value.wire_concealing (order : ByteOrder) (value : Value) (hidden : Bytes) :
    (value.concealing hidden).wire order = value.wire order ++ (hidden ++ hidden.filler) := by
  cases value <;> simp only [concealing, wire, tag, bytes, order.counted_concealing, List.append_assoc]

namespace Record

-- What is to be read behind an attribute: those that come after it, and that there are no payloads.
def behind (order : ByteOrder) (later : List (String × Value)) : Bytes :=
  later.flatMap (attributeWire order) ++ order.encode 0

-- Attributes of which one value, wherever it stands, has in it all that is to be read behind it.
def disguised (order : ByteOrder) (front : List (String × Value)) (name : String) (value : Value)
    (later : List (String × Value)) : List (String × Value) :=
  front ++ (name, value.concealing (behind order later)) :: later

theorem disguised_wire (order : ByteOrder) (front : List (String × Value)) (name : String) (value : Value)
    (later : List (String × Value)) (tail : Bytes) :
    ∃ slack, attributesWire order (disguised order front name value later) ++ tail =
      attributesWire order (front ++ (name, value) :: later) ++ (order.encode 0 ++ slack) := by
  refine ⟨Bytes.filler (behind order later) ++ (later.flatMap (attributeWire order) ++ tail), ?_⟩
  simp only [attributesWire, disguised, behind, List.length_append, List.length_cons, List.flatMap_append,
    List.flatMap_cons, attributeWire, Value.wire_concealing, List.append_assoc]

theorem disguised_untold (order : ByteOrder) (front : List (String × Value)) (name : String) (value : Value)
    (later : List (String × Value)) : ¬ Told (disguised order front name value later) := by
  intro told
  have short := (told.short _ (List.mem_append_right front List.mem_cons_self)).2
  have long : 2 ^ 32 ≤ (value.concealing (behind order later)).bytes.length := by
    cases value <;> simp only [Value.concealing, Value.bytes, Bytes.length_concealing] <;> omega
  exact Nat.not_lt.mpr long short

-- Attributes behind which come so many more that their number is lost, the first of them without a name.
theorem surplus_wire (order : ByteOrder) (attributes : List (String × Value)) (value : Value)
    {rest : List (String × Value)} (lost : 2 ^ 32 ∣ rest.length + 1) (tail : Bytes) :
    ∃ slack, attributesWire order (attributes ++ ("", value) :: rest) ++ tail =
      attributesWire order attributes ++ (order.encode 0 ++ slack) := by
  obtain ⟨k, count⟩ := lost
  have unnamed : order.counted (Utf8.encode "") = order.encode 0 := List.append_nil _
  refine ⟨value.wire order ++ (rest.flatMap (attributeWire order) ++ tail), ?_⟩
  simp only [attributesWire, List.length_append, List.length_cons, count, ByteOrder.ofNat_add_wraps,
    List.flatMap_append, List.flatMap_cons, attributeWire, unnamed, List.append_assoc]

variable [Cargo κ] {order : ByteOrder} {registry : Registry κ}

-- Whatever begins with the bytes of a record without payloads is read as that record.
theorem deserialize_front {attributes : List (String × Value)} (told : Told attributes) {bs slack : Bytes}
    (same : bs = attributesWire order attributes ++ (order.encode 0 ++ slack)) (ledger : Ledger) :
    ∃ rest, (deserialize registry (.ofBytes order bs) ledger).1 = (.ok ⟨attributes, none⟩, rest) := by
  have whole := @returned_whole κ _ order registry ⟨attributes, none⟩ rfl told slack ledger
  rw [serialize_exact, wire, List.append_assoc] at whole
  rw [same]
  exact ⟨_, whole⟩

theorem serialize_append (record : Record κ) (tail : Bytes) : record.serialize order ++ tail =
    attributesWire order record.attributes ++ (payloadsWire order record.payloads ++ tail) := by
  rw [serialize_exact, wire, List.append_assoc]

end Record

variable [Cargo κ]

theorem long_records_misread (order : ByteOrder) (registry : Registry κ) (ledger : Ledger) (tail : Bytes) :
    (∀ record : Record κ, record.container.entries = [] → Record.Told record.attributes →
      (Record.deserialize registry (.ofBytes order (record.serialize order ++ tail)) ledger).1 =
        (.ok record, ⟨order, (record.serialize order).reverse, tail⟩)) ∧
    (∀ (record received : Record κ) (rest : Buffer),
      (Record.deserialize registry (.ofBytes order (record.serialize order ++ tail)) ledger).1 = (.ok received, rest) →
      (received.attributes = record.attributes ↔ Record.Told record.attributes) ∧
      (¬ Record.Told record.attributes → Record.Misread record.attributes received.attributes)) ∧
    (∀ (front : List (String × Value)) (name : String) (value : Value) (later : List (String × Value))
      (record : Record κ), record.attributes = Record.disguised order front name value later →
      Record.Told (front ++ (name, value) :: later) → ¬ Record.Told record.attributes ∧
      ∃ rest, (Record.deserialize registry (.ofBytes order (record.serialize order ++ tail)) ledger).1 =
        (.ok ⟨front ++ (name, value) :: later, none⟩, rest)) ∧
    ∀ (attributes : List (String × Value)) (value : Value) (surplus : List (String × Value)) (record : Record κ),
      record.attributes = attributes ++ ("", value) :: surplus → 2 ^ 32 ∣ surplus.length + 1 → Record.Told attributes →
      ∃ rest, (Record.deserialize registry (.ofBytes order (record.serialize order ++ tail)) ledger).1 =
        (.ok ⟨attributes, none⟩, rest) := by
  refine ⟨?_, ?_, ?_, ?_⟩
  · intro record bare told
    exact Record.returned_whole bare told tail ledger
  · intro record received rest read
    cases Record.returned_or_misread read with
    | inl whole => exact ⟨⟨fun _ => whole.2, fun _ => whole.1⟩, fun untold => absurd whole.2 untold⟩
    | inr misread =>
      obtain ⟨other, misread⟩ := misread
      exact ⟨⟨fun same => absurd same other, fun told => absurd told misread.untold⟩, fun _ => misread⟩
  · intro front name value later record hides told
    obtain ⟨slack, same⟩ := Record.disguised_wire order front name value later
      (Record.payloadsWire order record.payloads ++ tail)
    rw [← hides, ← record.serialize_append] at same
    exact ⟨hides ▸ Record.disguised_untold order front name value later, Record.deserialize_front told same ledger⟩
  · intro attributes value surplus record more lost told
    obtain ⟨slack, same⟩ := Record.surplus_wire order attributes value lost
      (Record.payloadsWire order record.payloads ++ tail)
    rw [← more, ← record.serialize_append] at same
    exact Record.deserialize_front told same ledger

-- Two attributes, and the record that is read as these because its second value has four bytes of zero behind
-- the one byte, and then zeros up to a length of 2^32 + 1.
def Record.ofShort : Record := ⟨[("a", .blob ⟨[1]⟩), ("b", .rstring ⟨[0xFF]⟩)], none⟩

def Record.ofLong : Record := ⟨disguised .native [("a", .blob ⟨[1]⟩)] "b" (.rstring ⟨[0xFF]⟩) [], none⟩

-- Attributes without a name. With 2^32 of them their number is zero.
def Record.ofUnnamed (count : Nat) : Record := ⟨List.replicate count ("", .blob ⟨[]⟩), none⟩

theorem long_records_misread_of_short :
    Record.ofShort.container.entries = [] ∧ Record.Told Record.ofShort.attributes ∧
    (Record.deserialize (.empty : Registry) (.ofBytes .native (Record.ofShort.serialize .native ++ [7])) .initial).1 =
      (.ok .ofShort, ⟨.native, (Record.ofShort.serialize .native).reverse, [7]⟩) ∧
    Record.ofLong.attributes =
      Record.disguised .native [("a", .blob ⟨[1]⟩)] "b" (.rstring ⟨[0xFF]⟩) [] ∧
    ¬ Record.Told Record.ofLong.attributes ∧
    (∃ rest, (Record.deserialize (.empty : Registry) (.ofBytes .native (Record.ofLong.serialize .native ++ [7]))
      .initial).1 = (.ok .ofShort, rest)) ∧
    Record.Misread Record.ofLong.attributes Record.ofShort.attributes ∧
    2 ^ 32 - 1 + 1 = 2 ^ 32 ∧ Record.Told [] ∧
    ∃ rest, (Record.deserialize (.empty : Registry)
      (.ofBytes .native ((Record.ofUnnamed (2 ^ 32)).serialize .native ++ [7])) .initial).1 = (.ok .empty, rest) := by
  obtain ⟨whole, returned, hidden, surplus⟩ := long_records_misread .native (.empty : Registry) .initial [7]
  have told : Record.Told Record.ofShort.attributes := ⟨by decide, by decide⟩
  have none : Record.Told [] := ⟨by decide, by simp⟩
  -- For any number of attributes, so that these are never counted out.
  have unnamed : ∀ n count, n + 1 = count → 2 ^ 32 ∣ count → ∃ rest, (Record.deserialize (.empty : Registry)
      (.ofBytes .native ((Record.ofUnnamed count).serialize .native ++ [7])) .initial).1 = (.ok .empty, rest) := by
    rintro n _ rfl lost
    refine surplus [] (.blob ⟨[]⟩) (List.replicate n ("", .blob ⟨[]⟩)) (.ofUnnamed (n + 1)) rfl ?_ none
    rwa [List.length_replicate]
  have more : 2 ^ 32 - 1 + 1 = 2 ^ 32 := by decide
  obtain ⟨untold, rest, read⟩ := hidden [("a", .blob ⟨[1]⟩)] "b" (.rstring ⟨[0xFF]⟩) [] .ofLong rfl told
  obtain ⟨-, misread⟩ := returned .ofLong .ofShort rest read
  exact ⟨rfl, told, whole .ofShort rfl told, rfl, untold, ⟨rest, read⟩, misread untold, more, none,
    unnamed (2 ^ 32 - 1) (2 ^ 32) more (Nat.dvd_refl _)⟩

namespace Record

-- A value of so many zeros that it is said to have none. The reader takes the first four of them for the flag of
-- the payloads and does not look at the others.
theorem zeros_wire (order : ByteOrder) (name : String) {count : Nat} (lost : 2 ^ 32 ∣ count) :
    (⟨[(name, .blob ⟨List.replicate count 0⟩)], none⟩ : Record κ).serialize order =
      attributesWire order [(name, .blob ⟨[]⟩)] ++ (List.replicate count 0 ++ order.encode 0) := by
  obtain ⟨k, rfl⟩ := lost
  have number := ByteOrder.ofNat_add_wraps 0 k
  rw [Nat.zero_add] at number
  simp only [serialize_exact, wire, payloadsWire, attributesWire, List.flatMap_cons, List.flatMap_nil, attributeWire,
    Value.wire, Value.tag, Value.bytes, ByteOrder.counted, List.length_replicate, number, List.length_cons,
    List.length_nil, List.append_assoc, List.append_nil]

theorem zeros_split {few count : Nat} (enough : few ≤ count) :
    List.replicate count (0 : UInt8) = List.replicate few 0 ++ List.replicate (count - few) 0 := by
  rw [List.replicate_append_replicate, Nat.add_sub_of_le enough]

theorem zeros_emptied {order : ByteOrder} {registry : Registry κ} {name : String} {count : Nat}
    (short : (Utf8.encode name).length < 2 ^ 32) (lost : 2 ^ 32 ∣ count) (some : 0 < count) (ledger : Ledger) :
    ∃ rest, (deserialize registry (.ofBytes order
      ((⟨[(name, .blob ⟨List.replicate count 0⟩)], none⟩ : Record κ).serialize order)) ledger).1 =
        (.ok ⟨[(name, .blob ⟨[]⟩)], none⟩, rest) := by
  have told : Told [(name, Value.blob ⟨[]⟩)] := by
    refine ⟨Nat.one_lt_two_pow (by decide), fun entry member => ?_⟩
    rw [List.mem_singleton.mp member]
    exact ⟨short, Nat.two_pow_pos 32⟩
  have four : 4 ≤ count := Nat.le_trans (by decide) (Nat.le_of_dvd some lost)
  have zero : order.encode 0 = List.replicate 4 0 := by cases order <;> rfl
  have flag : List.replicate count 0 ++ order.encode 0 =
      order.encode 0 ++ (List.replicate (count - 4) 0 ++ order.encode 0) := by
    rw [zeros_split four, List.append_assoc, zero]
  rw [zeros_wire order name lost, flag]
  exact deserialize_front told rfl ledger

end Record

-- Four GiB of zeros come back as nothing. The reader has seen enough in the beginning that is written out here.
theorem long_value_emptied :
    (∃ rest, (Record.deserialize (.empty : Registry) (.ofBytes .network
      ((⟨[("a", .blob ⟨List.replicate (2 ^ 32) 0⟩)], none⟩ : Record).serialize .network)) .initial).1 =
        (.ok ⟨[("a", .blob ⟨[]⟩)], none⟩, rest)) ∧
    [("a", Value.blob ⟨[]⟩)] ≠ [("a", .blob ⟨List.replicate (2 ^ 32) 0⟩)] ∧
    [0, 0, 0, 1, 0, 0, 0, 1, 0x61, 0, 0, 0, 1, 0, 0, 0, 0, 0, 0, 0, 0, 0, 0, 0, 0] <+:
      (⟨[("a", .blob ⟨List.replicate (2 ^ 32) 0⟩)], none⟩ : Record).serialize .network := by
  refine ⟨Record.zeros_emptied (by decide) (Nat.dvd_refl _) (by decide) .initial, ?_, ?_⟩
  · intro same
    have lengths := congrArg (List.map fun entry => entry.2.bytes.length) same
    simp only [List.map_cons, Value.bytes, List.length_replicate] at lengths
    cases lengths
  · have beginning : [0, 0, 0, 1, 0, 0, 0, 1, 0x61, 0, 0, 0, 1, 0, 0, 0, 0, 0, 0, 0, 0, 0, 0, 0, 0] =
        Record.attributesWire .network [("a", .blob ⟨[]⟩)] ++ List.replicate 8 0 := by decide
    have eight : 8 ≤ 2 ^ 32 := by decide
    rw [beginning, Record.zeros_wire .network "a" (Nat.dvd_refl _), Record.zeros_split eight, List.append_assoc,
      ← List.append_assoc]
    exact List.prefix_append _ _

end RecordBridge
