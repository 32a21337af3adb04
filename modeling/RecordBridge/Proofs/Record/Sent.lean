import RecordBridge.Proofs.Record.Entries

namespace RecordBridge

open Reader

variable {κ : Type}

namespace Record

theorem reads_value (order : ByteOrder) {value : Value} (short : value.bytes.length < 2 ^ 32) :
    Value.read.Reads order (value.wire order) value := by
  cases value with
  | blob content =>
    refine (Buffer.reads_getU32 order 1).bind ?_
    rw [if_pos rfl]
    exact (Buffer.reads_getBytes order short).map fun data => Value.blob ⟨data⟩
  | rstring content =>
    refine (Buffer.reads_getU32 order 2).bind ?_
    rw [if_neg (by decide), if_pos rfl]
    exact (Buffer.reads_getBytes order short).map fun data => Value.rstring ⟨data⟩

-- Every length that goes before the bytes of an attribute is its true length.
def ShortAttribute (entry : String × Value) : Prop :=
  (Utf8.encode entry.1).length < 2 ^ 32 ∧ entry.2.bytes.length < 2 ^ 32

instance : DecidablePred ShortAttribute := fun _ => inferInstanceAs (Decidable (_ ∧ _))

theorem reads_attribute (order : ByteOrder) {entry : String × Value} (short : ShortAttribute entry) :
    readAttribute.Reads order (attributeWire order entry) entry :=
  (Buffer.reads_getString order short.1).bind ((reads_value order short.2).map (Prod.mk entry.1))

theorem reads_attributes (order : ByteOrder) {attributes : List (String × Value)}
    (short : ∀ entry ∈ attributes, ShortAttribute entry) :
    (readAttributes attributes.length).Reads order (attributes.flatMap (attributeWire order))
      attributes := by
  induction attributes with
  | nil => exact reads_pure []
  | cons entry rest ih =>
    rw [List.flatMap_cons, List.length_cons]
    refine (reads_attribute order (short entry List.mem_cons_self)).bind ?_
    exact (ih fun entry member => short entry (List.mem_cons_of_mem _ member)).map (entry :: ·)

theorem reads_counted (order : ByteOrder) {attributes : List (String × Value)}
    (few : attributes.length < 2 ^ 32) (short : ∀ entry ∈ attributes, ShortAttribute entry) :
    readCounted.Reads order (attributesWire order attributes) attributes := by
  have count : (UInt32.ofNat attributes.length).toNat = attributes.length := UInt32.toNat_ofNat_of_lt' few
  refine (Buffer.reads_getU32 order (UInt32.ofNat attributes.length)).bind ?_
  rw [count]
  exact reads_attributes order short

theorem accepts_value (order : ByteOrder) : Value.read.Accepts order fun wire value =>
    value.bytes.length < 2 ^ 32 ∧ wire = value.wire order := by
  have behind : ∀ tag : UInt32, (if tag = 1 then do
        let data ← Buffer.getBytes
        return .blob ⟨data⟩
      else if tag = 2 then do
        let data ← Buffer.getBytes
        return .rstring ⟨data⟩
      else .fail (.unknownAttributeTag tag) : Reader Buffer Value).Accepts order
      fun wire value => value.tag = tag ∧ value.bytes.length < 2 ^ 32 ∧ wire = order.counted value.bytes := by
    intro tag
    split
    · rename_i blob
      refine (Buffer.accepts_getBytes order).map (fun data => Value.blob ⟨data⟩) ?_
      exact fun data wire form => ⟨blob.symm, form⟩
    · split
      · rename_i rstring
        refine (Buffer.accepts_getBytes order).map (fun data => Value.rstring ⟨data⟩) ?_
        exact fun data wire form => ⟨rstring.symm, form⟩
      · exact accepts_fail _ _
  refine (Buffer.accepts_getU32 order).bind behind ?_
  rintro tag value front back rfl ⟨rfl, short, rfl⟩
  exact ⟨short, rfl⟩

theorem accepts_attribute (order : ByteOrder) : readAttribute.Accepts order fun wire entry =>
    ShortAttribute entry ∧ wire = attributeWire order entry := by
  have behind : ∀ name, (do
      let value ← Value.read
      return (name, value) : Reader Buffer (String × Value)).Accepts order fun wire entry =>
        entry.1 = name ∧ entry.2.bytes.length < 2 ^ 32 ∧ wire = entry.2.wire order :=
    fun name => (accepts_value order).map (Prod.mk name) fun value wire form => ⟨rfl, form⟩
  refine (Buffer.accepts_getString order).bind behind ?_
  rintro name entry front back ⟨shortName, rfl⟩ ⟨rfl, shortValue, rfl⟩
  exact ⟨⟨shortName, shortValue⟩, rfl⟩

theorem accepts_attributes (order : ByteOrder) (count : Nat) :
    (readAttributes count).Accepts order fun wire attributes => attributes.length = count ∧
      (∀ entry ∈ attributes, ShortAttribute entry) ∧ wire = attributes.flatMap (attributeWire order) := by
  induction count with
  | zero =>
    intro state consumed unread same attributes answered
    cases answered
    exact ⟨[], unread, ⟨rfl, by simp, rfl⟩, rfl, same⟩
  | succ count ih =>
    have behind : ∀ entry, (do
        let rest ← readAttributes count
        return entry :: rest : Reader Buffer (List (String × Value))).Accepts order
        fun wire attributes => ∃ rest, attributes = entry :: rest ∧ rest.length = count ∧
          (∀ entry ∈ rest, ShortAttribute entry) ∧ wire = rest.flatMap (attributeWire order) :=
      fun entry => ih.map (entry :: ·) fun rest wire form => ⟨rest, rfl, form⟩
    refine (accepts_attribute order).bind behind ?_
    rintro entry attributes front back ⟨short, rfl⟩ ⟨rest, rfl, counted, others, rfl⟩
    exact ⟨congrArg Nat.succ counted, List.forall_mem_cons.mpr ⟨short, others⟩, rfl⟩

theorem accepts_counted (order : ByteOrder) : readCounted.Accepts order fun wire attributes =>
    attributes.length < 2 ^ 32 ∧ (∀ entry ∈ attributes, ShortAttribute entry) ∧
      wire = attributesWire order attributes := by
  refine (Buffer.accepts_getU32 order).bind (fun count => accepts_attributes order count.toNat) ?_
  rintro count attributes front back rfl ⟨counted, short, rfl⟩
  have number : UInt32.ofNat attributes.length = count := by rw [counted, UInt32.ofNat_toNat]
  refine ⟨?_, short, ?_⟩
  · rw [counted]
    exact count.toNat_lt
  · rw [attributesWire, number]

end Record

-- The payloads of a record as they were sent. Behind a flag of zero nothing is sent.
structure SentPayloads (κ : Type) where
  flag : UInt32
  entries : List (SentEntry κ)

structure SentRecord (κ : Type) where
  attributes : List (String × Value)
  payloads : SentPayloads κ

namespace SentPayloads

def wire (order : ByteOrder) (payloads : SentPayloads κ) : Bytes :=
  order.encode payloads.flag ++ if payloads.flag = 0 then []
    else order.encode (UInt32.ofNat payloads.entries.length) ++
      payloads.entries.flatMap (SentEntry.wire order)

def received (payloads : SentPayloads κ) : Option (Container κ) :=
  if payloads.flag = 0 then none else some (Container.empty.collect payloads.entries)

end SentPayloads

namespace SentRecord

def wire (order : ByteOrder) (record : SentRecord κ) : Bytes :=
  Record.attributesWire order record.attributes ++ record.payloads.wire order

def received (record : SentRecord κ) : Record κ := ⟨record.attributes, record.payloads.received⟩

end SentRecord

variable [Cargo κ] {order : ByteOrder} {registry : Registry κ}

structure SentPayloads.Restorable (order : ByteOrder) (registry : Registry κ)
    (payloads : SentPayloads κ) : Prop where
  few : payloads.entries.length < 2 ^ 32
  each : ∀ entry ∈ payloads.entries, entry.Restorable order registry

structure SentRecord.Restorable (order : ByteOrder) (registry : Registry κ) (record : SentRecord κ) :
    Prop where
  fewAttributes : record.attributes.length < 2 ^ 32
  shortAttributes : ∀ entry ∈ record.attributes, Record.ShortAttribute entry
  payloads : record.payloads.Restorable order registry

namespace Record

theorem reads_payloads {payloads : SentPayloads κ} (restorable : payloads.Restorable order registry) :
    (readPayloads registry).Reads order (payloads.wire order) payloads.received := by
  obtain ⟨flag, entries⟩ := payloads
  refine (Buffer.reads_getU32 order flag).onBuffer.bind ?_
  dsimp only [SentPayloads.received]
  by_cases absent : flag = 0
  · simp only [if_pos absent]
    exact reads_pure none
  · have few : entries.length < 2 ^ 32 := restorable.few
    have count : (UInt32.ofNat entries.length).toNat = entries.length := UInt32.toNat_ofNat_of_lt' few
    have whole : (Container.read registry).Reads order
        (order.encode (UInt32.ofNat entries.length) ++ entries.flatMap (SentEntry.wire order))
        (Container.empty.collect entries) := by
      refine (Buffer.reads_getU32 order (UInt32.ofNat entries.length)).onBuffer.bind ?_
      rw [count]
      exact Container.reads_entries restorable.each .empty
    simp only [if_neg absent]
    exact whole.map some

theorem reads_record {record : SentRecord κ} (restorable : record.Restorable order registry) :
    (Record.read registry).Reads order (record.wire order) record.received :=
  (reads_counted order restorable.fewAttributes restorable.shortAttributes).onBuffer.bind
    ((reads_payloads restorable.payloads).map (Record.mk record.attributes))

theorem deserialize_sent {record : SentRecord κ} (restorable : record.Restorable order registry)
    (consumed tail : Bytes) (ledger : Ledger) :
    (deserialize registry ⟨order, consumed, record.wire order ++ tail⟩ ledger).1 =
      (.ok record.received, ⟨order, (record.wire order).reverse ++ consumed, tail⟩) :=
  have done := reads_record restorable (.start ⟨order, consumed, record.wire order ++ tail⟩) consumed tail rfl
  Prod.ext done.1 done.2

theorem accepts_container (order : ByteOrder) (registry : Registry κ) :
    (Container.read registry).Accepts order fun wire container =>
      ∃ entries : List (SentEntry κ), entries.length < 2 ^ 32 ∧
        (∀ entry ∈ entries, entry.Restorable order registry) ∧
        wire = order.encode (UInt32.ofNat entries.length) ++ entries.flatMap (SentEntry.wire order) ∧
        container = Container.empty.collect entries := by
  refine (Buffer.accepts_getU32 order).onBuffer.bind
    (fun count => Container.accepts_entries order registry count.toNat .empty) ?_
  rintro count container front back rfl ⟨entries, counted, each, rfl, rfl⟩
  have number : UInt32.ofNat entries.length = count := by rw [counted, UInt32.ofNat_toNat]
  refine ⟨entries, ?_, each, ?_, rfl⟩
  · rw [counted]
    exact count.toNat_lt
  · rw [number]

theorem accepts_payloads (order : ByteOrder) (registry : Registry κ) :
    (readPayloads registry).Accepts order fun wire received => ∃ payloads : SentPayloads κ,
      payloads.Restorable order registry ∧ wire = payloads.wire order ∧ received = payloads.received := by
  have behind : ∀ flag : UInt32, (if flag = 0 then return none
      else do
        let container ← Container.read registry
        return some container : Reader (Decoding κ) (Option (Container κ))).Accepts order
      fun wire received => ∃ payloads : SentPayloads κ, payloads.flag = flag ∧
        payloads.Restorable order registry ∧ order.encode flag ++ wire = payloads.wire order ∧
        received = payloads.received := by
    intro flag
    by_cases absent : flag = 0
    · rw [if_pos absent]
      intro state consumed unread same received answered
      cases answered
      refine ⟨[], unread, ⟨⟨flag, []⟩, rfl, ⟨by simp, by simp⟩, ?_, ?_⟩, rfl, same⟩
      · rw [SentPayloads.wire, if_pos absent]
      · rw [SentPayloads.received, if_pos absent]
    · rw [if_neg absent]
      refine (accepts_container order registry).map some ?_
      rintro container wire ⟨entries, few, each, rfl, rfl⟩
      refine ⟨⟨flag, entries⟩, rfl, ⟨few, each⟩, ?_, ?_⟩
      · rw [SentPayloads.wire, if_neg absent]
      · rw [SentPayloads.received, if_neg absent]
  refine (Buffer.accepts_getU32 order).onBuffer.bind behind ?_
  rintro flag received front back rfl ⟨payloads, -, restorable, same, rfl⟩
  exact ⟨payloads, restorable, same, rfl⟩

theorem accepts_record (order : ByteOrder) (registry : Registry κ) :
    (Record.read registry).Accepts order fun wire received => ∃ record : SentRecord κ,
      record.Restorable order registry ∧ wire = record.wire order ∧ received = record.received := by
  have behind : ∀ attributes, (do
      let payloads ← readPayloads registry
      return ⟨attributes, payloads⟩ : Reader (Decoding κ) (Record κ)).Accepts order
      fun wire received => ∃ payloads : SentPayloads κ, payloads.Restorable order registry ∧
        wire = payloads.wire order ∧ received = ⟨attributes, payloads.received⟩ := by
    intro attributes
    refine (accepts_payloads order registry).map (Record.mk attributes) ?_
    rintro container wire ⟨payloads, restorable, rfl, rfl⟩
    exact ⟨payloads, restorable, rfl, rfl⟩
  refine (accepts_counted order).onBuffer.bind behind ?_
  rintro attributes received front back ⟨few, short, rfl⟩ ⟨payloads, restorable, rfl, rfl⟩
  exact ⟨⟨attributes, payloads⟩, ⟨few, short, restorable⟩, rfl, rfl⟩

theorem deserialize_accepted {bs : Bytes} {ledger : Ledger} {received : Record κ} {rest : Buffer}
    (read : (deserialize registry (.ofBytes order bs) ledger).1 = (.ok received, rest)) :
    ∃ record : SentRecord κ, record.Restorable order registry ∧ received = record.received ∧
      bs = record.wire order ++ rest.unread ∧ rest = ⟨order, (record.wire order).reverse, rest.unread⟩ := by
  obtain ⟨answered, rfl⟩ := Prod.mk.inj read
  obtain ⟨wire, tail, ⟨record, restorable, rfl, rfl⟩, split, after⟩ :=
    accepts_record order registry (.start (.ofBytes order bs)) [] bs rfl received answered
  change (Record.read registry (.start (.ofBytes order bs))).2.buffer = _ at after
  refine ⟨record, restorable, rfl, ?_, ?_⟩
  · rw [after]
    exact split
  · rw [after, List.append_nil]

-- However the bytes are taken to have been sent, the record is the same.
theorem received_unique {bs : Bytes} {ledger : Ledger} {received : Record κ} {rest : Buffer}
    (read : (deserialize registry (.ofBytes order bs) ledger).1 = (.ok received, rest))
    {sent : SentRecord κ} (restorable : sent.Restorable order registry)
    (whole : bs = sent.wire order ++ rest.unread) : received = sent.received := by
  have again := deserialize_sent restorable [] rest.unread ledger
  rw [← whole] at again
  exact Except.ok.inj (congrArg Prod.fst (read.symm.trans again))

end Record
end RecordBridge
