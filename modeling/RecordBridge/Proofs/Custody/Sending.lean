import RecordBridge.Proofs.Custody.Acquiring
import RecordBridge.Proofs.Custody.Objectless
import RecordBridge.Proofs.Record.Format

namespace RecordBridge

open Ledger

variable {κ : Type}

-- Without the objects, and as it was in everything else.
def Payload.emptied : Payload κ → Payload κ
  | .reference _ => .reference none
  | .own content => .own content

def Container.emptied (container : Container κ) : Container κ :=
  ⟨container.entries.map fun entry => (entry.1, entry.2.emptied)⟩

def Record.emptied (record : Record κ) : Record κ :=
  { record with payloads := record.payloads.map Container.emptied }

-- Nothing to look up, here or under any other name.
structure Record.Hollow (record : Record κ) : Prop where
  entries : ∀ entry ∈ record.container.entries, entry.2.held? = none
  slot : record.slotState ≠ .attached
  lookup : ∀ ledger, record.lookup ledger = (none, ledger)

theorem Record.Objectless.hollow {record : Record κ} (objectless : record.Objectless) : record.Hollow where
  entries := objectless
  slot attached := by
    have found := (record.attached_iff .initial).mp attached
    rw [objectless.lookup] at found
    cases found
  lookup := objectless.lookup

namespace Ledger

theorem scopes_objectless {event : PayloadEvent κ} (nothing : event.payload.Objectless) :
    scopes (Move.course event) = [] := by
  cases event with
  | created payload => rfl
  | cloned payload | reset payload | dropped payload =>
    have none : payload.held? = none := nothing
    rw [Move.course, none]
    rfl

theorem applyAll_unlocked {events : List (PayloadEvent κ)}
    (nothing : ∀ event ∈ events, event.payload.Objectless) : Acquires (·.applyAll events) [] := by
  have none : scopes (events.flatMap Move.course) = [] := by
    induction events with
    | nil => rfl
    | cons event rest ih =>
      obtain ⟨one, others⟩ := List.forall_mem_cons.mp nothing
      rw [List.flatMap_cons, scopes_append, scopes_objectless one, ih others]
      rfl
  have acquires := (consists_applyAll events).acquires
  rwa [none] at acquires

end Ledger

namespace Store

-- A record that was sent to a name. A record that stood there with an object in it is dropped for it, which
-- takes the lock; all else that the store has is as it was.
structure Forwards (target : String) (before after : Store κ) : Prop where
  records : ∀ name ≠ target, after.record? name = before.record? name
  payloads : after.payloads = before.payloads
  handles : after.handles = before.handles
  received : after.record? target = before.record? target ∨
    ∃ record, after.record? target = some record ∧ record.Hollow
  untouched : (∀ displaced ∈ before.record? target, displaced.Objectless) →
    before.ledger.Untouched after.ledger

theorem forwards_ledger {store : Store κ} {ledger : Ledger} (untouched : store.ledger.Untouched ledger)
    (target : String) : store.Forwards target { store with ledger } where
  records _ _ := rfl
  payloads := rfl
  handles := rfl
  received := .inl rfl
  untouched _ := untouched

theorem discardRecord_kept (gone : Option (Record κ)) (store : Store κ) : store.discardRecord gone =
    { store with ledger := gone.elim store.ledger fun old => old.drop store.ledger } := by
  cases gone <;> rfl

theorem forwards_keepRecord {store : Store κ} {ledger : Ledger} (untouched : store.ledger.Untouched ledger)
    (target : String) {record : Record κ} (hollow : record.Hollow) :
    store.Forwards target (keepRecord target record { store with ledger }) := by
  rw [keepRecord, discardRecord_kept]
  refine ⟨fun name other => Named.find?_put_other record store.records other, rfl, rfl,
    .inr ⟨record, Named.find?_put_self target record store.records, hollow⟩, fun displaced => ?_⟩
  change store.ledger.Untouched ((store.record? target).elim ledger fun old => old.drop ledger)
  cases found : store.record? target with
  | none => exact untouched
  | some old => exact untouched.trans ((displaced old found).drop ledger)

end Store

variable [Cargo κ]

theorem Payload.emptied_wire (order : ByteOrder) (payload : Payload κ) :
    payload.emptied.wire order = payload.wire order := by
  cases payload <;> rfl

theorem Container.emptied_wire (order : ByteOrder) (container : Container κ) :
    container.emptied.wire order = container.wire order := by
  have entries : ∀ entry : String × Payload κ,
      entryWire order (entry.1, entry.2.emptied) = entryWire order entry := by
    intro entry
    rw [entryWire, Payload.emptied_wire]
    rfl
  simp only [wire, emptied, size, List.length_map, List.flatMap_map, entries]

namespace Record

theorem emptied_write (record : Record κ) (buffer : Buffer) :
    record.emptied.write buffer = record.write buffer := by
  have payloads : payloadsWire buffer.order record.emptied.payloads =
      payloadsWire buffer.order record.payloads := by
    unfold emptied
    cases record.payloads with
    | none => rfl
    | some container => exact congrArg (buffer.order.encode 1 ++ ·) (container.emptied_wire buffer.order)
  rw [write_exact, write_exact, wire, payloads]
  rfl

-- What is written depends on nothing but the record without its objects.
theorem write_emptied {one other : Record κ} (same : one.emptied = other.emptied) (buffer : Buffer) :
    one.write buffer = other.write buffer := by
  rw [← one.emptied_write, same, other.emptied_write]

-- A record read from these bytes, or one that could not be. Of the payloads that are made, filled, displaced
-- and dropped for it, none ever has an object.
structure Receives (registry : Registry κ) (buffer : Buffer) : Prop where
  unlocked : Acquires (fun ledger => (deserialize registry buffer ledger).2) []
  untouched : ∀ ledger : Ledger, ledger.Untouched (deserialize registry buffer ledger).2
  noted : ∀ event ∈ (read registry (.start buffer)).2.events, event.payload.held? = none
  hollow : ∀ ledger received rest, (deserialize registry buffer ledger).1 = (.ok received, rest) →
    received.Hollow

theorem receives {registry : Registry κ} (nothing : registry.HoldsNothing) (buffer : Buffer) :
    Receives registry buffer := by
  obtain ⟨noted, given⟩ := Decoding.harmless_read nothing (.start buffer) (List.forall_mem_nil _)
  refine ⟨applyAll_unlocked noted, untouched_applyAll noted, noted, fun ledger received rest done => ?_⟩
  exact (given received (congrArg Prod.fst done)).hollow

end Record

theorem Store.forwards_receive (store : Store κ) (target : String) {registry : Registry κ}
    (nothing : registry.HoldsNothing) (buffer : Buffer) :
    store.Forwards target (store.receive target registry buffer).2 := by
  have receives := Record.receives nothing buffer
  have untouched := receives.untouched store.ledger
  unfold Store.receive
  dsimp only
  split
  · exact forwards_keepRecord untouched target (receives.hollow store.ledger _ _ (Prod.ext ‹_› rfl))
  · exact forwards_ledger untouched target

theorem sent_unlocked {registry : Registry κ} (nothing : registry.HoldsNothing) :
    (∀ buffer, Record.Receives registry buffer) ∧
    (∀ one other : Record κ, one.emptied = other.emptied → ∀ buffer, one.write buffer = other.write buffer) ∧
    ∀ (store : Store κ) (name target : String) (order readOrder : ByteOrder), store.Forwards target
      ((Operation.transport name target order readOrder registry nothing).perform store) := by
  refine ⟨Record.receives nothing, fun one other => Record.write_emptied, ?_⟩
  intro store name target order readOrder
  rw [Operation.perform]
  cases store.record? name with
  | none => exact Store.forwards_ledger (.refl store.ledger) target
  | some record => exact store.forwards_receive target nothing _

-- Slots, and a payload of the host's own.
def Registry.ofSlots : Registry := slotRegistry.register "k" (.fields [.number 0])

def Record.withSlot (held : Option ObjectId) : Record :=
  ⟨[], some ⟨[("k", .fields [.number 1]), (slotName, .reference held)]⟩⟩

-- Its two payloads and the first of them again, announced as so many.
def Record.announced (count : UInt32) : Buffer :=
  let entries := (withSlot (some 7)).container.entries
  .ofBytes .network (ByteOrder.network.encode 0 ++ ByteOrder.network.encode 1 ++ ByteOrder.network.encode count ++
    (entries ++ entries.take 1).flatMap (Container.entryWire .network))

-- A payload is displaced, or the bytes end where another should begin.
theorem sent_unlocked_announced :
    Registry.ofSlots.HoldsNothing ∧
    (Record.read .ofSlots (.start (Record.announced 3))).1 = .ok (Record.withSlot none) ∧
    (Record.read .ofSlots (.start (Record.announced 3))).2.events.length = 7 ∧
    (Record.read .ofSlots (.start (Record.announced 4))).1 = .error (.underrun 4 0) ∧
    (∀ count, Record.Receives .ofSlots (Record.announced count)) ∧
    ∀ buffer, (Record.withSlot (some 7)).write buffer = (Record.withSlot none).write buffer := by
  have nothing : Registry.ofSlots.HoldsNothing := Registry.slot_holds_nothing.register rfl "k"
  obtain ⟨receives, alike, -⟩ := sent_unlocked nothing
  exact ⟨nothing, by decide +kernel, by decide +kernel, by decide +kernel, fun _ => receives _, alike _ _ rfl⟩

end RecordBridge
