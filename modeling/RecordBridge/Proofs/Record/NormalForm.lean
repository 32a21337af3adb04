import Mathlib.Data.List.Nodup
import RecordBridge.Proofs.Custody.Rebuilding
import RecordBridge.Proofs.Record.Transport

namespace RecordBridge

variable {κ : Type}

namespace ByteOrder

theorem encode_append_inj {order : ByteOrder} {a b : UInt32} {front back : Bytes}
    (same : order.encode a ++ front = order.encode b ++ back) : a = b ∧ front = back := by
  have lengths : (order.encode a).length = (order.encode b).length := by
    rw [order.length_encode, order.length_encode]
  obtain ⟨numbers, rest⟩ := List.append_inj same lengths
  refine ⟨?_, rest⟩
  rw [← order.decode_encode a, numbers, order.decode_encode]

theorem ofNat_wraps {a b : Nat} (short : b < 2 ^ 32) (same : UInt32.ofNat a = UInt32.ofNat b) : a % 2 ^ 32 = b := by
  have numbers := congrArg UInt32.toNat same
  rwa [UInt32.toNat_ofNat', UInt32.toNat_ofNat_of_lt' short] at numbers

theorem ofNat_inj_short {a b : Nat} (shortA : a < 2 ^ 32) (shortB : b < 2 ^ 32)
    (same : UInt32.ofNat a = UInt32.ofNat b) : a = b :=
  (Nat.mod_eq_of_lt shortA).symm.trans (ofNat_wraps shortB same)

theorem counted_append_inj {order : ByteOrder} {a b front back : Bytes} (shortA : a.length < 2 ^ 32)
    (shortB : b.length < 2 ^ 32) (same : order.counted a ++ front = order.counted b ++ back) :
    a = b ∧ front = back := by
  rw [counted, counted, List.append_assoc, List.append_assoc] at same
  obtain ⟨numbers, rest⟩ := encode_append_inj same
  exact List.append_inj rest (ofNat_inj_short shortA shortB numbers)

theorem length_counted (order : ByteOrder) (data : Bytes) : (order.counted data).length = 4 + data.length := by
  rw [counted, List.length_append, order.length_encode]

end ByteOrder

namespace Named

variable {α : Type} {name : String} {items : List (String × α)}

theorem nodup_put (before : (names items).Nodup) (item : α) : (names (put name item items)).Nodup := by
  by_cases known : name ∈ names items
  · rw [names_put_known known]
    exact before
  · rw [names_put_fresh known]
    refine List.nodup_append.mpr ⟨before, List.nodup_singleton name, ?_⟩
    rintro old member new here rfl
    exact known (List.mem_singleton.mp here ▸ member)

end Named

namespace Container

theorem collect_nodup {entries : List (SentEntry κ)} {container : Container κ}
    (before : container.names.Nodup) : (container.collect entries).names.Nodup := by
  induction entries generalizing container with
  | nil => exact before
  | cons entry rest ih => exact ih (Named.nodup_put before entry.payload)

theorem size_names (container : Container κ) : container.names.length = container.size := List.length_map _

-- Every entry takes one place at most, and all take one only if no name comes again.
theorem collect_size {entries : List (SentEntry κ)} {container : Container κ} :
    (container.collect entries).size ≤ container.size + entries.length ∧
    ((container.collect entries).size = container.size + entries.length → container.names.Nodup →
      (container.names ++ entries.map (·.name)).Nodup) := by
  induction entries generalizing container with
  | nil => exact ⟨Nat.le_refl _, fun _ before => by simpa using before⟩
  | cons entry rest ih =>
    obtain ⟨most, full⟩ := @ih (container.add entry.name entry.payload).1
    change ((container.add entry.name entry.payload).1.collect rest).size ≤ _ ∧
      (((container.add entry.name entry.payload).1.collect rest).size = _ → _)
    rw [List.length_cons, List.map_cons]
    by_cases known : entry.name ∈ container.names
    · have size : (container.add entry.name entry.payload).1.size = container.size := by
        rw [← size_names, names_add, if_pos known, size_names]
      rw [size] at most
      exact ⟨by omega, fun filled => by omega⟩
    · have size : (container.add entry.name entry.payload).1.size = container.size + 1 := by
        rw [← size_names, names_add, if_neg known, List.length_append, size_names]
        rfl
      rw [size] at most full
      refine ⟨by omega, fun filled before => ?_⟩
      have distinct := full (by omega) (Named.nodup_put before entry.payload)
      rwa [names_add, if_neg known, List.append_assoc] at distinct

end Container

variable [Cargo κ] {order : ByteOrder} {registry : Registry κ}

namespace Payload

-- A kind that writes back the bytes it was filled from: those before the place where its reading stopped. The
-- bytes behind that place have no part in what comes out. Both are what a kind of payload has to see to, whose
-- reading is to restore a state from the bytes that its writing made, and from nothing else.
structure WritesBack (order : ByteOrder) (blank : Payload κ) : Prop where
  written : ∀ data, (blank.read (.ofBytes order data)).outcome = .ok () → ∃ slack,
    data = (blank.read (.ofBytes order data)).value.wire order ++ slack ∧
    (blank.read (.ofBytes order data)).buffer =
      ⟨order, ((blank.read (.ofBytes order data)).value.wire order).reverse, slack⟩
  alone : ∀ (front slack : Bytes) (payload : Payload κ),
    blank.read (.ofBytes order (front ++ slack)) = ⟨.ok (), payload, ⟨order, front.reverse, slack⟩⟩ →
    blank.read (.ofBytes order front) = ⟨.ok (), payload, ⟨order, front.reverse, []⟩⟩

theorem writesBack_reference (order : ByteOrder) (held : Option ObjectId) :
    WritesBack order (.reference held : Payload κ) where
  written data _ := ⟨data, rfl, rfl⟩
  alone front slack payload read := by
    have before : front.reverse = [] := (congrArg (·.buffer.consumed) read).symm
    have kept : .reference none = payload := congrArg (·.value) read
    rw [List.reverse_eq_nil_iff.mp before, ← kept]
    rfl

theorem writesBack_fields (order : ByteOrder) (blanks : Fields) : WritesBack order (.fields blanks) where
  written data filled := by
    obtain ⟨fields, slack, alike, short, rfl⟩ := Field.readAll_accepted blanks [] data filled
    rw [← wire_fields, read_fields alike short slack]
    exact ⟨slack, rfl, rfl⟩
  alone front slack payload read := by
    have filled : (Field.readAll blanks (.ofBytes order (front ++ slack))).outcome = .ok () :=
      congrArg (·.outcome) read
    obtain ⟨fields, tail, alike, short, split⟩ := Field.readAll_accepted blanks [] _ filled
    rw [← wire_fields] at split
    rw [split, read_fields alike short tail] at read
    have fronts : (Payload.wire order (.fields fields)).reverse = front.reverse :=
      congrArg (·.buffer.consumed) read
    have whole := @read_fields order _ _ alike short []
    rw [List.append_nil, List.reverse_inj.mp fronts] at whole
    have values : Payload.fields fields = payload := congrArg (·.value) read
    rw [whole, values]

-- What such a kind was filled from contains what it writes, and that fills it again.
theorem WritesBack.settles {blank : Payload κ} (faithful : blank.WritesBack order) {inner : Bytes}
    (filled : (blank.read (.ofBytes order inner)).outcome = .ok ()) :
    ((blank.read (.ofBytes order inner)).value.wire order).length ≤ inner.length ∧
      Takes order blank (blank.read (.ofBytes order inner)).value ∧
      Undoes order blank (blank.read (.ofBytes order inner)).value := by
  have kind := blank.read_kind (.ofBytes order inner)
  obtain ⟨slack, split, stopped⟩ := faithful.written inner filled
  generalize ran : blank.read (.ofBytes order inner) = done at kind filled split stopped ⊢
  obtain ⟨outcome, payload, rest⟩ := done
  dsimp only at kind filled split stopped ⊢
  subst filled stopped
  rw [split] at ran
  have again := faithful.alone _ slack payload ran
  refine ⟨?_, ⟨kind.symm, ?_⟩, ?_⟩
  · rw [split, List.length_append]
    omega
  · rw [again]
  · rw [Undoes, again]

end Payload

def Registry.WritesBack (order : ByteOrder) (registry : Registry κ) : Prop :=
  ∀ name content, registry.create name = .ok (.own content) → Payload.WritesBack order (.own content)

-- An entry that a further transport leaves as it is.
structure Container.Settled (order : ByteOrder) (registry : Registry κ) (entry : String × Payload κ) :
    Prop where
  short : ShortEntry order entry
  known : Known order registry entry
  same : registry.rebuild order entry = entry.2

theorem SentEntry.Restorable.settles {entry : SentEntry κ} (restorable : entry.Restorable order registry)
    (faithful : registry.WritesBack order) : (entry.payload.wire order).length ≤ entry.inner.length ∧
      Container.Settled order registry (entry.name, entry.payload) := by
  obtain ⟨blank, made, filled, restored⟩ := restorable.restored
  have writesBack : blank.WritesBack order := by
    cases blank with
    | reference held => exact Payload.writesBack_reference order held
    | own content => exact faithful entry.name content made
  obtain ⟨shorter, takes, undoes⟩ := writesBack.settles filled
  rw [restored] at shorter takes undoes
  refine ⟨shorter, ⟨restorable.shortName, Nat.lt_of_le_of_lt shorter restorable.shortInner⟩,
    ⟨blank, made, takes⟩, ?_⟩
  simp only [Registry.rebuild, made]
  exact undoes

namespace Container

theorem rebuildOnto_settled {container : Container κ}
    (settled : ∀ entry ∈ container.entries, Settled order registry entry)
    (distinct : container.names.Nodup) :
    rebuildOnto registry order container.entries .empty = container := by
  have rebuilt := @rebuildOnto_distinct κ _ registry order container.entries .empty distinct
  have same : (container.entries.map fun entry => (entry.1, registry.rebuild order entry)) =
      container.entries.map id :=
    List.map_congr_left fun entry member => Prod.ext rfl (settled entry member).same
  rw [same, List.map_id] at rebuilt
  exact congrArg Container.mk rebuilt

theorem put_wire_length (order : ByteOrder) (name : String) (payload : Payload κ)
    (items : List (String × Payload κ)) :
    ((Named.put name payload items).flatMap (entryWire order)).length ≤
      (items.flatMap (entryWire order)).length + (entryWire order (name, payload)).length := by
  induction items with
  | nil => simp [Named.put]
  | cons head rest ih =>
    obtain ⟨key, old⟩ := head
    by_cases same : key = name
    · rw [Named.put, if_pos same, same, List.flatMap_cons, List.flatMap_cons]
      simp only [List.length_append]
      omega
    · rw [Named.put, if_neg same, List.flatMap_cons, List.flatMap_cons]
      simp only [List.length_append]
      omega

theorem sent_entry_shorter {entry : SentEntry κ}
    (shorter : (entry.payload.wire order).length ≤ entry.inner.length) :
    (entryWire order (entry.name, entry.payload)).length ≤ (entry.wire order).length := by
  rw [entryWire, SentEntry.wire, List.length_append, List.length_append, order.length_counted,
    order.length_counted (entry.payload.wire order), order.length_counted entry.inner]
  omega

theorem collect_shorter {entries : List (SentEntry κ)} {container : Container κ}
    (shorter : ∀ entry ∈ entries, (entry.payload.wire order).length ≤ entry.inner.length) :
    ((container.collect entries).entries.flatMap (entryWire order)).length ≤
      (container.entries.flatMap (entryWire order)).length +
        (entries.flatMap (SentEntry.wire order)).length := by
  induction entries generalizing container with
  | nil => exact Nat.le_refl _
  | cons entry rest ih =>
    obtain ⟨one, others⟩ := List.forall_mem_cons.mp shorter
    have later := @ih (container.add entry.name entry.payload).1 others
    have added := put_wire_length order entry.name entry.payload container.entries
    have entryShorter := sent_entry_shorter one
    change (((container.add entry.name entry.payload).1.collect rest).entries.flatMap
      (entryWire order)).length ≤ _
    change _ ≤ ((Named.put entry.name entry.payload container.entries).flatMap (entryWire order)).length + _
      at later
    rw [List.flatMap_cons, List.length_append]
    omega

end Container

-- Nothing to straighten out.
def SentPayloads.Canonical (order : ByteOrder) (payloads : SentPayloads κ) : Prop :=
  payloads.flag = 0 ∨ (payloads.flag = 1 ∧ (payloads.entries.map (·.name)).Nodup ∧
    ∀ entry ∈ payloads.entries, entry.inner = entry.payload.wire order)

namespace SentPayloads

theorem received_shorter {payloads : SentPayloads κ} (restorable : payloads.Restorable order registry)
    (faithful : registry.WritesBack order) :
    (Record.payloadsWire order payloads.received).length ≤ (payloads.wire order).length := by
  rw [received, wire, List.length_append, order.length_encode]
  by_cases absent : payloads.flag = 0
  · rw [if_pos absent, if_pos absent, Record.payloadsWire, order.length_encode]
    omega
  · have shorter : ∀ entry ∈ payloads.entries, (entry.payload.wire order).length ≤ entry.inner.length :=
      fun entry member => ((restorable.each entry member).settles faithful).1
    have entries := @Container.collect_shorter κ _ order _ .empty shorter
    rw [if_neg absent, if_neg absent, Record.payloadsWire, Container.wire]
    simp only [List.length_append, order.length_encode]
    change _ ≤ 0 + _ at entries
    omega

-- The entries are told apart one by one, because all their lengths are true ones.
theorem inner_of_wire {entries : List (SentEntry κ)}
    (restorable : ∀ entry ∈ entries, entry.Restorable order registry) (faithful : registry.WritesBack order)
    (same : (entries.map fun entry => (entry.name, entry.payload)).flatMap (Container.entryWire order) =
      entries.flatMap (SentEntry.wire order)) :
    ∀ entry ∈ entries, entry.inner = entry.payload.wire order := by
  induction entries with
  | nil => simp
  | cons entry rest ih =>
    obtain ⟨one, others⟩ := List.forall_mem_cons.mp restorable
    rw [List.map_cons, List.flatMap_cons, List.flatMap_cons, Container.entryWire, SentEntry.wire,
      List.append_assoc, List.append_assoc] at same
    obtain ⟨-, behind⟩ := ByteOrder.counted_append_inj one.shortName one.shortName same
    obtain ⟨inner, later⟩ := ByteOrder.counted_append_inj (one.settles faithful).2.short.2 one.shortInner behind
    exact List.forall_mem_cons.mpr ⟨inner.symm, ih others later⟩

theorem received_same {payloads : SentPayloads κ} (restorable : payloads.Restorable order registry)
    (faithful : registry.WritesBack order) :
    Record.payloadsWire order payloads.received = payloads.wire order ↔ payloads.Canonical order := by
  obtain ⟨flag, entries⟩ := payloads
  rw [received, wire, Canonical]
  dsimp only
  by_cases absent : flag = 0
  · rw [if_pos absent, if_pos absent, List.append_nil, absent]
    exact ⟨fun _ => .inl rfl, fun _ => rfl⟩
  rw [if_neg absent, if_neg absent, Record.payloadsWire, Container.wire]
  constructor
  · intro same
    obtain ⟨flagged, counts⟩ := ByteOrder.encode_append_inj same
    obtain ⟨sizes, bodies⟩ := ByteOrder.encode_append_inj counts
    obtain ⟨most, full⟩ := @Container.collect_size κ entries .empty
    have few : entries.length < 2 ^ 32 := restorable.few
    have none : (Container.empty : Container κ).size = 0 := rfl
    have size := ByteOrder.ofNat_inj_short (by omega) few sizes
    have distinct : (entries.map (·.name)).Nodup := full (by omega) List.nodup_nil
    have kept := @Container.collect_distinct κ entries .empty distinct
    rw [kept] at bodies
    exact .inr ⟨flagged.symm, distinct, inner_of_wire restorable.each faithful bodies⟩
  · rintro (zero | ⟨rfl, distinct, exactly⟩)
    · exact absurd zero absent
    · have kept := @Container.collect_distinct κ entries .empty distinct
      have bodies : (entries.map fun entry => (entry.name, entry.payload)).flatMap
          (Container.entryWire order) = entries.flatMap (SentEntry.wire order) := by
        rw [List.flatMap_map]
        refine List.flatMap_congr fun entry member => ?_
        rw [Container.entryWire, SentEntry.wire, exactly entry member]
      rw [Container.size, kept]
      change order.encode 1 ++ (order.encode (UInt32.ofNat (entries.map _).length) ++
        (entries.map _).flatMap _) = _
      rw [bodies, List.length_map]

end SentPayloads

namespace SentRecord

theorem received_transportable {record : SentRecord κ} (restorable : record.Restorable order registry)
    (faithful : registry.WritesBack order) : record.received.Transportable order registry ∧
      record.received.rebuilt registry order = record.received := by
  obtain ⟨attributes, flag, entries⟩ := record
  have fewAttributes := restorable.fewAttributes
  have shortAttributes := restorable.shortAttributes
  have few : entries.length < 2 ^ 32 := restorable.payloads.few
  have settled : ∀ entry ∈ (Container.empty.collect entries).entries, Container.Settled order registry entry :=
    Container.collect_forall (by simp [Container.empty]) fun entry member =>
      ((restorable.payloads.each entry member).settles faithful).2
  have distinct : (Container.empty.collect entries).names.Nodup := Container.collect_nodup List.nodup_nil
  have most := (@Container.collect_size κ entries .empty).1
  by_cases absent : flag = 0
  · have nothing : (⟨attributes, flag, entries⟩ : SentRecord κ).received = ⟨attributes, none⟩ := by
      rw [received, SentPayloads.received, if_pos absent]
    rw [nothing]
    exact ⟨⟨fewAttributes, shortAttributes, by simp [Record.container, Container.empty, Container.size],
      by simp [Record.container, Container.empty], by simp [Record.container, Container.empty]⟩, rfl⟩
  · have collected : (⟨attributes, flag, entries⟩ : SentRecord κ).received =
        ⟨attributes, some (Container.empty.collect entries)⟩ := by
      rw [received, SentPayloads.received, if_neg absent]
    rw [collected]
    refine ⟨⟨fewAttributes, shortAttributes, ?_, fun entry member => (settled entry member).short,
      fun entry member => (settled entry member).known⟩, ?_⟩
    · change (Container.empty.collect entries).size < 2 ^ 32
      have none : (Container.empty : Container κ).size = 0 := rfl
      omega
    · rw [Record.rebuilt, Option.map_some, Container.rebuildOnto_settled settled distinct]

theorem received_shorter {record : SentRecord κ} (restorable : record.Restorable order registry)
    (faithful : registry.WritesBack order) :
    (record.received.serialize order).length ≤ (record.wire order).length := by
  have payloads := SentPayloads.received_shorter restorable.payloads faithful
  rw [Record.serialize_exact, Record.wire, wire, List.length_append, List.length_append]
  exact Nat.add_le_add_left payloads _

theorem received_same {record : SentRecord κ} (restorable : record.Restorable order registry)
    (faithful : registry.WritesBack order) :
    record.received.serialize order = record.wire order ↔ record.payloads.Canonical order := by
  rw [Record.serialize_exact, Record.wire, wire, ← SentPayloads.received_same restorable.payloads faithful]
  exact List.append_right_inj _

end SentRecord

theorem normal_form_reached (faithful : registry.WritesBack order) {bs : Bytes} {ledger : Ledger}
    {record : Record κ} {rest : Buffer}
    (read : (Record.deserialize registry (.ofBytes order bs) ledger).1 = (.ok record, rest)) :
    ∃ consumed : Bytes, bs = consumed ++ rest.unread ∧ rest = ⟨order, consumed.reverse, rest.unread⟩ ∧
      (record.serialize order).length ≤ consumed.length ∧
      (∀ later, (Record.deserialize registry (.ofBytes order (record.serialize order)) later).1 =
        (.ok record, ⟨order, (record.serialize order).reverse, []⟩)) ∧
      (∃ sent : SentRecord κ, sent.Restorable order registry ∧ sent.wire order = consumed) ∧
      ∀ sent : SentRecord κ, sent.Restorable order registry → sent.wire order = consumed →
        sent.received = record ∧
        (record.serialize order = consumed ↔ sent.payloads.Canonical order) := by
  obtain ⟨first, restorable, rfl, split, stopped⟩ := Record.deserialize_accepted read
  obtain ⟨sound, same⟩ := first.received_transportable restorable faithful
  refine ⟨first.wire order, split, stopped, first.received_shorter restorable faithful, ?_,
    ⟨first, restorable, rfl⟩, ?_⟩
  · intro later
    have again := Record.deserialize_wire sound [] [] later
    rw [same, List.append_nil, List.append_nil, ← Record.serialize_exact] at again
    exact again
  · intro sent accepted wire
    have once := Record.deserialize_sent restorable [] [] ledger
    have twice := Record.deserialize_sent accepted [] [] ledger
    rw [wire, once] at twice
    have received : first.received = sent.received := Except.ok.inj (congrArg Prod.fst twice)
    rw [received, ← wire]
    exact ⟨rfl, sent.received_same accepted faithful⟩

-- An attribute name that comes again, an unusual flag, bytes for a reference, bytes behind a pair, and a
-- second pair under the name of the first.
def SentRecord.ofRepeats : SentRecord Fields :=
  ⟨[("text", .rstring ⟨[0xFF, 0x41]⟩), ("text", .blob ⟨[]⟩)],
    5,
    [⟨slotName, [9, 9], .reference none⟩,
      ⟨"pair", [0, 0, 0, 1, 7, 0, 0, 0, 5, 9], .fields [.bytes [7], .number 5]⟩,
      ⟨"pair", [0, 0, 0, 0, 0, 0, 0, 6], .fields [.bytes [], .number 6]⟩]⟩

theorem SentRecord.ofRepeats_restorable : SentRecord.ofRepeats.Restorable .network .ofPairs where
  fewAttributes := by decide
  shortAttributes := by decide
  payloads := by
    refine ⟨by decide, ?_⟩
    intro entry member
    simp only [ofRepeats, List.mem_cons, List.not_mem_nil, or_false] at member
    rcases member with rfl | rfl | rfl
    · exact ⟨by decide, by decide, .reference none, rfl, rfl, rfl⟩
    · exact ⟨by decide, by decide, .fields [.bytes [], .number 0], rfl, rfl, rfl⟩
    · exact ⟨by decide, by decide, .fields [.bytes [], .number 0], rfl, rfl, rfl⟩

theorem normal_form_of_repeats :
    Registry.WritesBack .network .ofPairs ∧
    (Record.deserialize .ofPairs (.ofBytes .network (SentRecord.ofRepeats.wire .network ++ [7])) .initial).1 =
      (.ok SentRecord.ofRepeats.received,
        ⟨.network, (SentRecord.ofRepeats.wire .network).reverse, [7]⟩) ∧
    (SentRecord.ofRepeats.received.serialize .network).length ≤ (SentRecord.ofRepeats.wire .network).length ∧
    SentRecord.ofRepeats.received.serialize .network ≠ SentRecord.ofRepeats.wire .network := by
  have faithful : Registry.WritesBack .network .ofPairs :=
    fun _ content _ => Payload.writesBack_fields .network content
  have read := Record.deserialize_sent SentRecord.ofRepeats_restorable [] [7] .initial
  rw [List.append_nil] at read
  obtain ⟨consumed, split, -, shorter, -, -, exactly⟩ := normal_form_reached faithful read
  obtain rfl := List.append_cancel_right split
  refine ⟨faithful, read, shorter, fun same => ?_⟩
  have canonical := (exactly _ SentRecord.ofRepeats_restorable rfl).2.mp same
  rcases canonical with zero | ⟨one, -⟩
  · exact absurd zero (by decide)
  · exact absurd one (by decide)

end RecordBridge
