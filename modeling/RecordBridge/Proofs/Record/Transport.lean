import RecordBridge.Proofs.Record.Fields
import RecordBridge.Proofs.Record.Sent

namespace RecordBridge

variable {κ : Type}

variable [Cargo κ]

namespace Payload

-- A blank of the payload's own kind, which takes what the payload wrote. This is what every kind of payload has
-- to see to: its reading restores a state from the bytes that its writing made.
def Takes (order : ByteOrder) (blank payload : Payload κ) : Prop :=
  blank.kind = payload.kind ∧ (blank.read (.ofBytes order (payload.wire order))).outcome = .ok ()

-- And ends up as the payload was.
def Undoes (order : ByteOrder) (blank payload : Payload κ) : Prop :=
  (blank.read (.ofBytes order (payload.wire order))).value = payload

theorem wire_fields (order : ByteOrder) (fields : Fields) :
    Payload.wire order (.fields fields) = fields.flatMap (Field.wire order) := by
  change (Field.writeAll (.empty order) fields).bytes = _
  rw [Field.writeAll_exact, Buffer.bytes_append]
  rfl

theorem read_fields {order : ByteOrder} {blanks fields : Fields}
    (alike : List.Forall₂ Field.Alike blanks fields) (short : ∀ field ∈ fields, field.Short)
    (tail : Bytes) :
    Payload.read (.ofBytes order (Payload.wire order (.fields fields) ++ tail)) (.fields blanks) =
      ⟨.ok (), .fields fields, ⟨order, (Payload.wire order (.fields fields)).reverse, tail⟩⟩ := by
  have done := @Field.readAll_wire order _ _ alike short [] tail
  rw [← wire_fields, List.append_nil] at done
  exact congrArg (fun filled : Restored Fields =>
    (⟨filled.outcome, .own filled.value, filled.buffer⟩ : Restored Payload)) done

theorem takes_fields {order : ByteOrder} {blanks fields : Fields}
    (alike : List.Forall₂ Field.Alike blanks fields) (short : ∀ field ∈ fields, field.Short) :
    Takes order (.fields blanks) (.fields fields) ∧ Undoes order (.fields blanks) (.fields fields) := by
  have read := @read_fields order _ _ alike short []
  rw [List.append_nil] at read
  refine ⟨⟨rfl, ?_⟩, ?_⟩
  · rw [read]
  · rw [Undoes, read]

end Payload

-- What the registry makes of an entry's own bytes.
def Registry.rebuild (registry : Registry κ) (order : ByteOrder) (entry : String × Payload κ) :
    Payload κ :=
  match registry.create entry.1 with
  | .ok blank => (blank.read (.ofBytes order (entry.2.wire order))).value
  | .error _ => entry.2

namespace Container

variable {order : ByteOrder} {registry : Registry κ}

def ShortEntry (order : ByteOrder) (entry : String × Payload κ) : Prop :=
  (Utf8.encode entry.1).length < 2 ^ 32 ∧ (entry.2.wire order).length < 2 ^ 32

instance (order : ByteOrder) : DecidablePred (@ShortEntry κ _ order) :=
  fun _ => inferInstanceAs (Decidable (_ ∧ _))

def Known (order : ByteOrder) (registry : Registry κ) (entry : String × Payload κ) : Prop :=
  ∃ blank, registry.create entry.1 = .ok blank ∧ Payload.Takes order blank entry.2

-- The entries of a container put into another one, rebuilt.
def rebuildOnto (registry : Registry κ) (order : ByteOrder) (entries : List (String × Payload κ))
    (container : Container κ) : Container κ :=
  entries.foldl (fun container entry => (container.add entry.1 (registry.rebuild order entry)).1) container

-- An entry as its own payload sends it.
def sent (registry : Registry κ) (order : ByteOrder) (entry : String × Payload κ) : SentEntry κ :=
  ⟨entry.1, entry.2.wire order, registry.rebuild order entry⟩

theorem sent_restorable {entry : String × Payload κ} (short : ShortEntry order entry)
    (known : Known order registry entry) : (sent registry order entry).Restorable order registry := by
  obtain ⟨blank, made, -, taken⟩ := known
  have rebuilt : registry.rebuild order entry =
      (blank.read (.ofBytes order (entry.2.wire order))).value := by
    simp only [Registry.rebuild, made]
  exact ⟨short.1, short.2, blank, made, taken, rebuilt.symm⟩

theorem collect_sent (entries : List (String × Payload κ)) (container : Container κ) :
    container.collect (entries.map (sent registry order)) = rebuildOnto registry order entries container :=
  List.foldl_map

theorem rebuildOnto_distinct (registry : Registry κ) (order : ByteOrder)
    {entries : List (String × Payload κ)} {container : Container κ}
    (distinct : (container.names ++ Named.names entries).Nodup) :
    (rebuildOnto registry order entries container).entries =
      container.entries ++ entries.map fun entry => (entry.1, registry.rebuild order entry) := by
  have sentNames : (container.names ++ (entries.map (sent registry order)).map (·.name)).Nodup := by
    rw [List.map_map]
    exact distinct
  rw [← collect_sent, collect_distinct sentNames, List.map_map]
  rfl

end Container

namespace Record

variable {order : ByteOrder} {registry : Registry κ}

-- Every number on the wire is a true one, below 2^32, and the registry knows the kinds of the payloads, whose
-- blanks take what they wrote.
structure Transportable (order : ByteOrder) (registry : Registry κ) (record : Record κ) : Prop where
  fewAttributes : record.attributes.length < 2 ^ 32
  shortAttributes : ∀ entry ∈ record.attributes, ShortAttribute entry
  fewPayloads : record.container.size < 2 ^ 32
  shortPayloads : ∀ entry ∈ record.container.entries, Container.ShortEntry order entry
  known : ∀ entry ∈ record.container.entries, Container.Known order registry entry

-- The record as it comes out on the other side.
def rebuilt (registry : Registry κ) (order : ByteOrder) (record : Record κ) : Record κ :=
  ⟨record.attributes,
    record.payloads.map fun container => Container.rebuildOnto registry order container.entries .empty⟩

-- The record as its own payloads send it.
def sent (registry : Registry κ) (order : ByteOrder) (record : Record κ) : SentRecord κ :=
  ⟨record.attributes, match record.payloads with
    | none => ⟨0, []⟩
    | some container => ⟨1, container.entries.map (Container.sent registry order)⟩⟩

theorem sent_wire (registry : Registry κ) (order : ByteOrder) (record : Record κ) :
    (record.sent registry order).wire order = record.wire order := by
  obtain ⟨attributes, payloads⟩ := record
  cases payloads with
  | none => simp [sent, SentRecord.wire, SentPayloads.wire, wire, payloadsWire]
  | some container =>
    have flagged : (1 : UInt32) ≠ 0 := by decide
    simp only [sent, SentRecord.wire, SentPayloads.wire, if_neg flagged, List.length_map, List.flatMap_map]
    rfl

theorem sent_received (registry : Registry κ) (order : ByteOrder) (record : Record κ) :
    (record.sent registry order).received = record.rebuilt registry order := by
  obtain ⟨attributes, payloads⟩ := record
  cases payloads with
  | none => rfl
  | some container =>
    rw [rebuilt, Option.map_some, ← Container.collect_sent]
    rfl

theorem sent_restorable {record : Record κ} (sound : record.Transportable order registry) :
    (record.sent registry order).Restorable order registry := by
  refine ⟨sound.fewAttributes, sound.shortAttributes, ?_⟩
  obtain ⟨attributes, payloads⟩ := record
  cases payloads with
  | none => exact ⟨by simp [sent], by simp [sent]⟩
  | some container =>
    refine ⟨?_, ?_⟩
    · simp only [sent, List.length_map]
      exact sound.fewPayloads
    · intro entry member
      obtain ⟨own, among, rfl⟩ := List.mem_map.mp member
      exact Container.sent_restorable (sound.shortPayloads own among) (sound.known own among)

theorem deserialize_wire {record : Record κ} (sound : record.Transportable order registry)
    (consumed tail : Bytes) (ledger : Ledger) :
    (Record.deserialize registry ⟨order, consumed, record.wire order ++ tail⟩ ledger).1 =
      (.ok (record.rebuilt registry order), ⟨order, (record.wire order).reverse ++ consumed, tail⟩) := by
  have done := deserialize_sent (sent_restorable sound) consumed tail ledger
  rwa [sent_wire, sent_received] at done

-- What transport keeps of a record: all of it, except that a payload is what its own reader makes of
-- it, and a reference is gone.
structure Survives (order : ByteOrder) (registry : Registry κ) (sent received : Record κ) : Prop where
  attributes : received.attributes = sent.attributes
  container : received.payloads.isSome = sent.payloads.isSome
  payloads : List.Forall₂ (fun sent received : String × Payload κ =>
    received.1 = sent.1 ∧
    ((∀ blank, registry.create sent.1 = .ok blank → Payload.Undoes order blank sent.2) →
      received.2 = sent.2) ∧
    (sent.2.kind = .reference → received.2 = .reference none))
    sent.container.entries received.container.entries

theorem rebuilt_entry {entry : String × Payload κ} (known : Container.Known order registry entry) :
    ((∀ blank, registry.create entry.1 = .ok blank → Payload.Undoes order blank entry.2) →
      registry.rebuild order entry = entry.2) ∧
    (entry.2.kind = .reference → registry.rebuild order entry = .reference none) := by
  obtain ⟨blank, made, sameKind, -⟩ := known
  simp only [Registry.rebuild, made]
  refine ⟨fun undone => undone blank rfl, fun reference => ?_⟩
  rw [reference] at sameKind
  cases blank with
  | reference held => rfl
  | own content => cases sameKind

theorem survives_rebuilt {record : Record κ} (sound : record.Transportable order registry)
    (distinct : record.container.names.Nodup) :
    record.Survives order registry (record.rebuilt registry order) := by
  have entries : (record.rebuilt registry order).container.entries =
      record.container.entries.map fun entry => (entry.1, registry.rebuild order entry) := by
    obtain ⟨attributes, payloads⟩ := record
    cases payloads with
    | none => rfl
    | some container => exact Container.rebuildOnto_distinct registry order distinct
  refine ⟨rfl, Option.isSome_map, ?_⟩
  rw [entries, List.forall₂_map_right_iff]
  exact List.forall₂_same.mpr fun entry member => ⟨rfl, rebuilt_entry (sound.known entry member)⟩

-- Records read one after the other from one buffer, each by a reading of its own.
inductive ReadInTurn (registry : Registry κ) : Buffer → List (Record κ) → Buffer → Prop where
  | nil {buffer : Buffer} : ReadInTurn registry buffer [] buffer
  | cons {before middle after : Buffer} {record : Record κ} {rest : List (Record κ)}
      (first : ∀ ledger, (Record.deserialize registry before ledger).1 = (.ok record, middle))
      (others : ReadInTurn registry middle rest after) :
      ReadInTurn registry before (record :: rest) after

theorem readInTurn_wire {records : List (Record κ)}
    (sound : ∀ record ∈ records, record.Transportable order registry) (consumed tail : Bytes) :
    ReadInTurn registry ⟨order, consumed, records.flatMap (wire order) ++ tail⟩
      (records.map (rebuilt registry order))
      ⟨order, (records.flatMap (wire order)).reverse ++ consumed, tail⟩ := by
  induction records generalizing consumed with
  | nil => exact .nil
  | cons record rest ih =>
    have others := ih (fun record member => sound record (List.mem_cons_of_mem _ member))
      ((record.wire order).reverse ++ consumed)
    rw [List.flatMap_cons, List.append_assoc, List.reverse_append, List.append_assoc, List.map_cons]
    exact .cons (fun ledger => deserialize_wire (sound record List.mem_cons_self) consumed _ ledger) others

end Record

theorem transport_round_trip {order : ByteOrder} {registry : Registry κ} {records : List (Record κ)}
    (sound : ∀ record ∈ records, record.Transportable order registry)
    (distinct : ∀ record ∈ records, record.container.names.Nodup)
    (output : Buffer) (same : output.order = order) (tail : Bytes) :
    records.foldl Record.write output = output.append (records.flatMap (·.serialize order)) ∧
    ∃ received rest,
      Record.ReadInTurn registry (.ofBytes order (records.flatMap (·.serialize order) ++ tail))
        received rest ∧
      rest.unread = tail ∧ rest.remaining = tail.length ∧
      List.Forall₂ (Record.Survives order registry) records received := by
  simp only [Record.serialize_exact]
  refine ⟨?_, records.map (Record.rebuilt registry order), _, Record.readInTurn_wire sound [] tail, rfl,
    rfl, ?_⟩
  · have each : ∀ buffer (record : Record κ),
        record.write buffer = buffer.append (Record.wire buffer.order record) := Record.write_exact
    rw [← same]
    exact Buffer.foldl_append each records output
  · rw [List.forall₂_map_right_iff]
    exact List.forall₂_same.mpr fun record member =>
      Record.survives_rebuilt (sound record member) (distinct record member)

-- A record with text that is not UTF-8, an attached object and a payload of the host's own.
def Registry.ofPairs : Registry := slotRegistry.register "pair" (.fields [.bytes [], .number 0])

def Record.ofPair : Record :=
  ⟨[("text", .rstring ⟨[0xFF, 0x41]⟩), ("data", .blob ⟨[0]⟩)],
    some ⟨[(slotName, .reference (some 7)), ("pair", .fields [.bytes [1, 2], .number 5])]⟩⟩

theorem Record.ofPair_transportable : Record.ofPair.Transportable .network .ofPairs where
  fewAttributes := by decide
  shortAttributes := by decide
  fewPayloads := by decide
  shortPayloads := by decide
  known := by
    intro entry member
    simp only [ofPair, Record.container, Option.getD_some, List.mem_cons, List.not_mem_nil,
      or_false] at member
    rcases member with rfl | rfl
    · exact ⟨.reference none, rfl, rfl, rfl⟩
    · have alike : List.Forall₂ Field.Alike [.bytes [], .number 0] [.bytes [1, 2], .number 5] :=
        .cons .bytes (.cons .number .nil)
      have short : ∀ field ∈ [Field.bytes [1, 2], .number 5], field.Short := by simp [Field.Short]
      exact ⟨.fields [.bytes [], .number 0], rfl, (Payload.takes_fields alike short).1⟩

theorem transport_of_pairs :
    (∀ record ∈ [Record.ofPair, .ofPair], record.Transportable .network .ofPairs) ∧
    (∀ record ∈ [Record.ofPair, .ofPair], record.container.names.Nodup) ∧
    [Record.ofPair, .ofPair].foldl Record.write ⟨.network, [3], [4]⟩ =
      Buffer.append ⟨.network, [3], [4]⟩ ([Record.ofPair, .ofPair].flatMap (·.serialize .network)) ∧
    ∃ received rest, Record.ReadInTurn .ofPairs
        (.ofBytes .network ([Record.ofPair, .ofPair].flatMap (·.serialize .network) ++ [9]))
        received rest ∧
      rest.unread = [9] ∧ rest.remaining = 1 ∧
      List.Forall₂ (Record.Survives .network .ofPairs) [Record.ofPair, .ofPair] received := by
  have sound : ∀ record ∈ [Record.ofPair, .ofPair], record.Transportable .network .ofPairs := by
    intro record member
    simp only [List.mem_cons, List.not_mem_nil, or_false, or_self] at member
    exact member ▸ Record.ofPair_transportable
  have distinct : ∀ record ∈ [Record.ofPair, .ofPair], record.container.names.Nodup := by decide
  exact ⟨sound, distinct, transport_round_trip sound distinct ⟨.network, [3], [4]⟩ rfl [9]⟩

end RecordBridge
