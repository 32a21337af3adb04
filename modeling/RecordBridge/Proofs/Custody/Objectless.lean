import RecordBridge.Proofs.Custody.Stepping

namespace RecordBridge

variable {κ : Type}

namespace Named

variable {α : Type} {holds : α → Prop} {items : List (String × α)} {item : α}

theorem mem_erase {name : String} {entry : String × α} (member : entry ∈ erase name items) : entry ∈ items := by
  induction items with
  | nil => cases member
  | cons head rest ih =>
    by_cases same : head.1 = name
    · rw [erase, if_pos same] at member
      exact List.mem_cons_of_mem _ member
    · rw [erase, if_neg same] at member
      rcases List.mem_cons.mp member with rfl | later
      · exact List.mem_cons_self
      · exact List.mem_cons_of_mem _ (ih later)

def Each (holds : α → Prop) (items : List (String × α)) : Prop := ∀ entry ∈ items, holds entry.2

theorem Each.put (each : Each holds items) (one : holds item) (name : String) :
    Each holds (Named.put name item items) := by
  intro entry member
  rcases mem_put member with rfl | old
  · exact one
  · exact each entry old

theorem Each.erase (each : Each holds items) (name : String) : Each holds (Named.erase name items) :=
  fun entry member => each entry (mem_erase member)

theorem Each.find {name : String} (each : Each holds items) (found : find? name items = some item) :
    holds item := each _ (find?_member found)

end Named

def Payload.Objectless (payload : Payload κ) : Prop := payload.held? = none

def Container.Objectless (container : Container κ) : Prop := Named.Each Payload.Objectless container.entries

def Record.Objectless (record : Record κ) : Prop := record.container.Objectless

structure Store.Objectless (store : Store κ) : Prop where
  records : Named.Each Record.Objectless store.records
  payloads : Named.Each Payload.Objectless store.payloads
  handles : store.handles = []

theorem Store.objectless_initial : (initial : Store κ).Objectless :=
  ⟨List.forall_mem_nil _, List.forall_mem_nil _, rfl⟩

theorem Store.Objectless.stored {store : Store κ} (objectless : store.Objectless) :
    ∀ payload ∈ store.stored, payload.held? = none := by
  intro payload member
  rcases List.mem_append.mp member with inRecord | alone
  · obtain ⟨entry, kept, inside⟩ := List.mem_flatMap.mp inRecord
    obtain ⟨own, among, rfl⟩ := List.mem_map.mp inside
    exact objectless.records entry kept own among
  · obtain ⟨entry, kept, rfl⟩ := List.mem_map.mp alone
    exact objectless.payloads entry kept

def PayloadEvent.payload : PayloadEvent κ → Payload κ
  | .created payload | .cloned payload | .reset payload | .dropped payload => payload

namespace Ledger

-- The lock was not taken, no reference was touched and nothing reported. Payloads may have been counted.
structure Untouched (before after : Ledger) : Prop where
  depth : after.depth = before.depth
  references : after.references = before.references
  reported : after.reported = before.reported

theorem Untouched.refl (ledger : Ledger) : ledger.Untouched ledger := ⟨rfl, rfl, rfl⟩

theorem Untouched.trans {before between after : Ledger} (early : before.Untouched between)
    (late : between.Untouched after) : before.Untouched after :=
  ⟨late.depth.trans early.depth, late.references.trans early.references, late.reported.trans early.reported⟩

theorem untouched_count (ledger : Ledger) (kind : PayloadKind) (change : Int) :
    ledger.Untouched (ledger.count kind change) := ⟨rfl, rfl, rfl⟩

theorem touch_nothing {payload : Payload κ} (nothing : payload.Objectless) (ledger : Ledger)
    (change : ObjectId → Ledger → Ledger) : ledger.touch payload change = ledger := by
  rw [Payload.Objectless] at nothing
  rw [touch, nothing]

theorem untouched_apply (ledger : Ledger) (event : PayloadEvent κ) (nothing : event.payload.Objectless) :
    ledger.Untouched (ledger.apply event) := by
  cases event with
  | created payload => exact ledger.untouched_count _ _
  | cloned payload =>
    rw [apply, @touch_nothing κ payload nothing]
    exact ledger.untouched_count _ _
  | reset payload =>
    rw [apply, @touch_nothing κ payload nothing]
    exact .refl ledger
  | dropped payload =>
    rw [apply, @touch_nothing κ payload nothing]
    exact ledger.untouched_count _ _

theorem untouched_applyAll {events : List (PayloadEvent κ)}
    (nothing : ∀ event ∈ events, event.payload.Objectless) (ledger : Ledger) : ledger.Untouched (ledger.applyAll events) := by
  induction events generalizing ledger with
  | nil => exact .refl ledger
  | cons event rest ih =>
    obtain ⟨one, others⟩ := List.forall_mem_cons.mp nothing
    exact (ledger.untouched_apply event one).trans (ih others _)

theorem untouched_make {payload : Payload κ} (nothing : payload.Objectless) (ledger : Ledger) :
    ledger.Untouched (Store.make payload ledger) := by
  have made := ledger.untouched_apply (.created payload) nothing
  rw [Payload.Objectless] at nothing
  rw [Store.make, nothing]
  exact made

end Ledger

namespace Record

variable {record : Record κ}

theorem objectless_empty : (empty : Record κ).Objectless := List.forall_mem_nil _

theorem Objectless.owned (objectless : record.Objectless) {payload : Payload κ}
    (inside : payload ∈ record.owned) : payload.Objectless := by
  obtain ⟨entry, among, rfl⟩ := List.mem_map.mp inside
  exact objectless entry among

theorem Objectless.untouched (objectless : record.Objectless) {event : Payload κ → PayloadEvent κ}
    (own : ∀ payload, (event payload).payload = payload) (ledger : Ledger) :
    ledger.Untouched (ledger.applyAll (record.owned.map event)) := by
  refine Ledger.untouched_applyAll (fun noted member => ?_) ledger
  obtain ⟨payload, inside, rfl⟩ := List.mem_map.mp member
  rw [own]
  exact objectless.owned inside

theorem Objectless.drop (objectless : record.Objectless) (ledger : Ledger) :
    ledger.Untouched (record.drop ledger) := objectless.untouched (fun _ => rfl) ledger

theorem Objectless.clone [Cargo κ] (objectless : record.Objectless) (ledger : Ledger) :
    ledger.Untouched (record.clone ledger).2 := objectless.untouched (fun _ => rfl) ledger

theorem Objectless.add (objectless : record.Objectless) {payload : Payload κ} (nothing : payload.Objectless)
    (name : String) : (record.add name payload).1.Objectless := Named.Each.put objectless nothing name

theorem Objectless.displaced (objectless : record.Objectless) (name : String) (payload : Payload κ) :
    ∀ old ∈ (record.add name payload).2, old.Objectless := fun _ found => Named.Each.find objectless found

-- What is found in it has no object to be looked up.
theorem Objectless.lookup (objectless : record.Objectless) (ledger : Ledger) :
    record.lookup ledger = (none, ledger) := by
  unfold Record.lookup
  rcases slot : record.slot? with _ | _ | object
  · rfl
  · rfl
  · obtain ⟨payload, inside, held⟩ := attached_held slot
    have nothing : payload.held? = none := objectless.owned inside
    rw [nothing] at held
    cases held

end Record

namespace Store

-- The store has no object in the end, and none was touched on the way.
structure Harmless (before after : Store κ) : Prop where
  objectless : after.Objectless
  untouched : before.ledger.Untouched after.ledger

theorem Harmless.trans {before between after : Store κ} (early : before.Harmless between)
    (late : between.Harmless after) : before.Harmless after :=
  ⟨late.objectless, early.untouched.trans late.untouched⟩

namespace Objectless

variable {store : Store κ}

theorem stays (objectless : store.Objectless) : store.Harmless store := ⟨objectless, .refl store.ledger⟩

theorem settle (objectless : store.Objectless) {ledger : Ledger} (untouched : store.ledger.Untouched ledger) :
    store.Harmless { store with ledger } :=
  ⟨⟨objectless.records, objectless.payloads, objectless.handles⟩, untouched⟩

theorem putRecord (objectless : store.Objectless) {record : Record κ} (nothing : record.Objectless)
    (name : String) : store.Harmless { store with records := Named.put name record store.records } :=
  ⟨⟨objectless.records.put nothing name, objectless.payloads, objectless.handles⟩, .refl store.ledger⟩

theorem putPayload (objectless : store.Objectless) {payload : Payload κ} (nothing : payload.Objectless)
    (name : String) : store.Harmless { store with payloads := Named.put name payload store.payloads } :=
  ⟨⟨objectless.records, objectless.payloads.put nothing name, objectless.handles⟩, .refl store.ledger⟩

theorem eraseRecord (objectless : store.Objectless) (name : String) :
    store.Harmless { store with records := Named.erase name store.records } :=
  ⟨⟨objectless.records.erase name, objectless.payloads, objectless.handles⟩, .refl store.ledger⟩

theorem erasePayload (objectless : store.Objectless) (name : String) :
    store.Harmless { store with payloads := Named.erase name store.payloads } :=
  ⟨⟨objectless.records, objectless.payloads.erase name, objectless.handles⟩, .refl store.ledger⟩

theorem discardRecord (objectless : store.Objectless) {gone : Option (Record κ)}
    (nothing : ∀ record ∈ gone, record.Objectless) : store.Harmless (store.discardRecord gone) := by
  cases gone with
  | none => exact objectless.stays
  | some record => exact objectless.settle ((nothing record rfl).drop store.ledger)

theorem discardPayload (objectless : store.Objectless) {gone : Option (Payload κ)}
    (nothing : ∀ payload ∈ gone, payload.Objectless) : store.Harmless (store.discardPayload gone) := by
  cases gone with
  | none => exact objectless.stays
  | some payload =>
    exact objectless.settle (store.ledger.untouched_apply (.dropped payload) (nothing payload rfl))

theorem keepRecord (objectless : store.Objectless) {record : Record κ} (nothing : record.Objectless)
    (name : String) : store.Harmless (store.keepRecord name record) := by
  have put := objectless.putRecord nothing name
  exact put.trans (put.objectless.discardRecord fun _ found => objectless.records.find found)

theorem keepPayload (objectless : store.Objectless) {payload : Payload κ} (nothing : payload.Objectless)
    (name : String) : store.Harmless (store.keepPayload name payload) := by
  have put := objectless.putPayload nothing name
  exact put.trans (put.objectless.discardPayload fun _ found => objectless.payloads.find found)

theorem dropRecord (objectless : store.Objectless) (name : String) :
    store.Harmless (store.dropRecord name) := by
  have erased := objectless.eraseRecord name
  exact erased.trans (erased.objectless.discardRecord fun _ found => objectless.records.find found)

theorem dropPayload (objectless : store.Objectless) (name : String) :
    store.Harmless (store.dropPayload name) := by
  have erased := objectless.erasePayload name
  exact erased.trans (erased.objectless.discardPayload fun _ found => objectless.payloads.find found)

theorem release (objectless : store.Objectless) (handle : String) : store.release handle = store := by
  obtain ⟨ledger, records, payloads, handles⟩ := store
  obtain rfl : handles = [] := objectless.handles
  rfl

theorem update (objectless : store.Objectless) {change : Record κ → Record κ}
    (keeps : ∀ record, record.Objectless → (change record).Objectless) (name : String) :
    store.Harmless (store.update name change) := by
  unfold Store.update
  cases found : store.record? name with
  | none => exact objectless.stays
  | some record => exact objectless.putRecord (keeps record (objectless.records.find found)) name

theorem cloneRecord [Cargo κ] (objectless : store.Objectless) (name target : String) :
    store.Harmless (store.cloneRecord name target) := by
  unfold Store.cloneRecord copyRecord
  cases found : store.record? name with
  | none => exact objectless.stays
  | some record =>
    have nothing : record.Objectless := objectless.records.find found
    have alike : (record.clone store.ledger).1.Objectless := by rwa [Record.clone_same]
    have copied := objectless.settle (nothing.clone store.ledger)
    exact copied.trans (copied.objectless.keepRecord alike target)

theorem clonePayload [Cargo κ] (objectless : store.Objectless) (name target : String) :
    store.Harmless (store.clonePayload name target) := by
  unfold Store.clonePayload
  cases found : store.payload? name with
  | none => exact objectless.stays
  | some payload =>
    have nothing : payload.Objectless := objectless.payloads.find found
    have alike : payload.copy.Objectless := by rwa [Payload.copy_same]
    have copied := objectless.settle (store.ledger.untouched_apply (.cloned payload) nothing)
    exact copied.trans (copied.objectless.keepPayload alike target)

theorem place (objectless : store.Objectless) {payload : Payload κ} (nothing : payload.Objectless)
    (name slot : String) : store.Harmless (store.place name slot payload).2 := by
  unfold Store.place
  cases found : store.record? name with
  | none => exact objectless.discardPayload fun _ same => Option.some.inj same ▸ nothing
  | some record =>
    have before : record.Objectless := objectless.records.find found
    have put := objectless.putRecord (before.add nothing slot) name
    exact put.trans (put.objectless.discardPayload (before.displaced slot payload))

theorem put (objectless : store.Objectless) {payload : Payload κ} (nothing : payload.Objectless)
    (name slot : String) : store.Harmless (store.put name slot payload).2 := by
  have made := objectless.settle (Ledger.untouched_make nothing store.ledger)
  exact made.trans (made.objectless.place nothing name slot)

theorem move (objectless : store.Objectless) (source name slot : String) :
    store.Harmless (store.move source name slot).2 := by
  unfold Store.move
  cases found : store.payload? source with
  | none => exact objectless.stays
  | some payload =>
    have erased := objectless.erasePayload source
    exact erased.trans (erased.objectless.place (objectless.payloads.find found) name slot)

-- A container filled with payloads that have no object.
theorem fill {entries : List (String × Payload κ)} (nothing : Named.Each Payload.Objectless entries)
    {state : Container κ × Ledger} (before : state.1.Objectless) :
    (entries.foldl fillEntry state).1.Objectless ∧ state.2.Untouched (entries.foldl fillEntry state).2 := by
  induction entries generalizing state with
  | nil => exact ⟨before, .refl state.2⟩
  | cons entry rest ih =>
    obtain ⟨one, others⟩ := List.forall_mem_cons.mp nothing
    have made := Ledger.untouched_make one state.2
    have settled : state.2.Untouched (fillEntry state entry).2 := by
      unfold fillEntry
      dsimp only
      split
      · exact made.trans (Ledger.untouched_apply _ (.dropped _) (before.find ‹_›))
      · exact made
    have added : (fillEntry state entry).1.Objectless := before.put one entry.1
    obtain ⟨filled, later⟩ := @ih others (fillEntry state entry) added
    exact ⟨filled, settled.trans later⟩

theorem adopt (objectless : store.Objectless) {entries : List (String × Payload κ)}
    (nothing : Named.Each Payload.Objectless entries) (name : String) :
    store.Harmless (store.adopt name entries) := by
  unfold Store.adopt
  cases found : store.record? name with
  | none => exact objectless.stays
  | some record =>
    obtain ⟨filled, untouched⟩ := @fill κ entries nothing (.empty, store.ledger) (List.forall_mem_nil _)
    have dropped := (objectless.records.find found : record.Objectless).drop (Store.fill entries store.ledger).2
    have settled := objectless.settle (untouched.trans dropped)
    let changed : Record κ := { record with payloads := some (Store.fill entries store.ledger).1 }
    have nothing : changed.Objectless := filled
    exact settled.trans (settled.objectless.putRecord nothing name)

theorem lookup (objectless : store.Objectless) (name : String) : store.lookup name = (none, store) := by
  unfold Store.lookup
  cases found : store.record? name with
  | none => rfl
  | some record =>
    dsimp only
    rw [(objectless.records.find found : record.Objectless).lookup]
    rfl

theorem hold (objectless : store.Objectless) (name handle : String) :
    store.hold name handle = (none, store) := by
  unfold Store.hold
  cases found : store.record? name with
  | none => rfl
  | some record =>
    dsimp only
    rw [(objectless.records.find found : record.Objectless).lookup]

end Objectless
end Store

-- A reading that notes no payload with an object, and what can be said of what it gives.
def Decoding.Harmless {α : Type} (step : Reader (Decoding κ) α) (holds : α → Prop) : Prop :=
  ∀ decoding, (∀ event ∈ decoding.events, event.payload.Objectless) →
    (∀ event ∈ (step decoding).2.events, event.payload.Objectless) ∧ ∀ a, (step decoding).1 = .ok a → holds a

namespace Decoding

variable {α β : Type}

theorem Harmless.bind {first : Reader (Decoding κ) α} {next : α → Reader (Decoding κ) β} {between : α → Prop}
    {holds : β → Prop} (one : Harmless first between) (two : ∀ a, between a → Harmless (next a) holds) :
    Harmless (first >>= next) holds := by
  intro decoding before
  obtain ⟨noted, given⟩ := one decoding before
  change (∀ event ∈ (Reader.bind first next decoding).2.events, event.payload.Objectless) ∧
    ∀ b, (Reader.bind first next decoding).1 = .ok b → holds b
  unfold Reader.bind
  rcases ran : first decoding with ⟨e | a, middle⟩ <;> rw [ran] at noted given
  · exact ⟨noted, nofun⟩
  · exact two a (given a rfl) middle noted

theorem harmless_pure {holds : α → Prop} {a : α} (given : holds a) :
    Harmless (Pure.pure a : Reader (Decoding κ) α) holds := by
  intro decoding before
  refine ⟨before, fun b same => ?_⟩
  cases same
  exact given

theorem harmless_onBuffer (step : Reader Buffer α) :
    Harmless (onBuffer step : Reader (Decoding κ) α) fun _ => True :=
  fun _ before => ⟨before, fun _ _ => trivial⟩

theorem harmless_receive {container : Container κ} (before : container.Objectless) (name : String)
    {payload : Payload κ} (nothing : payload.Objectless) :
    Harmless (container.receive name payload) Container.Objectless := by
  intro decoding clean
  refine ⟨List.forall_mem_append.mpr ⟨clean, fun event member => ?_⟩, fun filled same => ?_⟩
  · obtain ⟨old, displaced, rfl⟩ := List.mem_map.mp member
    exact before.find (Option.mem_toList.mp displaced)
  · cases same
    exact before.put nothing name

end Decoding

variable [Cargo κ]

theorem Store.Objectless.refill {store : Store κ} (objectless : store.Objectless) (name : String)
    (buffer : Buffer) : store.Harmless (store.refill name buffer).2 := by
  unfold Store.refill
  cases found : store.payload? name with
  | none => exact objectless.stays
  | some payload =>
    have nothing : payload.Objectless := objectless.payloads.find found
    have settled := objectless.settle (store.ledger.untouched_apply (.reset payload) nothing)
    exact settled.trans (settled.objectless.putPayload (payload.read_holds_nothing buffer) name)

namespace Decoding

theorem harmless_fill {blank : Payload κ} (nothing : blank.Objectless) (data : Bytes) :
    Harmless (Container.fill blank data) Payload.Objectless := by
  intro decoding clean
  have filled : (blank.read (.ofBytes decoding.buffer.order data)).value.Objectless :=
    blank.read_holds_nothing _
  have made : ∀ event ∈ [PayloadEvent.created blank, .reset blank], event.payload.Objectless := by
    intro event member
    simp only [List.mem_cons, List.not_mem_nil, or_false] at member
    rcases member with rfl | rfl <;> exact nothing
  have noted := List.forall_mem_append.mpr ⟨clean, made⟩
  unfold Container.fill
  dsimp only
  split
  · refine ⟨noted, fun payload same => ?_⟩
    cases same
    exact filled
  · exact ⟨List.forall_mem_append.mpr ⟨noted, List.forall_mem_singleton.mpr filled⟩, nofun⟩

variable {registry : Registry κ}

theorem harmless_readEntry (nothing : registry.HoldsNothing) {container : Container κ}
    (before : container.Objectless) : Harmless (container.readEntry registry) Container.Objectless := by
  refine (harmless_onBuffer _).bind fun name _ => (harmless_onBuffer _).bind fun data _ => ?_
  cases made : registry.create name with
  | error e => exact fun _ clean => ⟨clean, nofun⟩
  | ok blank =>
    exact (harmless_fill (nothing.create made) data).bind fun _ filled => harmless_receive before name filled

theorem harmless_readEntries (nothing : registry.HoldsNothing) (count : Nat) {container : Container κ}
    (before : container.Objectless) :
    Harmless (Container.readEntries registry count container) Container.Objectless := by
  induction count generalizing container with
  | zero =>
    intro decoding clean
    refine ⟨clean, fun filled same => ?_⟩
    cases same
    exact before
  | succ count ih =>
    intro decoding clean
    obtain ⟨noted, given⟩ := harmless_readEntry nothing before decoding clean
    unfold Container.readEntries
    rcases ran : Container.readEntry registry container decoding with ⟨e | filled, middle⟩ <;>
      rw [ran] at noted given
    · refine ⟨List.forall_mem_append.mpr ⟨noted, fun event member => ?_⟩, by simp⟩
      obtain ⟨payload, inside, rfl⟩ := List.mem_map.mp member
      obtain ⟨entry, among, rfl⟩ := List.mem_map.mp inside
      exact before entry among
    · exact ih (given filled rfl) middle noted

theorem harmless_read (nothing : registry.HoldsNothing) :
    Harmless (Record.read registry) Record.Objectless := by
  refine (harmless_onBuffer _).bind fun attributes _ => ?_
  have payloads : Harmless (Record.readPayloads registry)
      fun payloads => (Record.mk attributes payloads).Objectless := by
    refine (harmless_onBuffer _).bind fun flag _ => ?_
    split
    · exact harmless_pure (List.forall_mem_nil _)
    · have container : Harmless (Container.read registry) Container.Objectless :=
        (harmless_onBuffer _).bind fun count _ => harmless_readEntries nothing _ (List.forall_mem_nil _)
      exact container.bind fun _ filled => harmless_pure filled
  exact payloads.bind fun _ read => harmless_pure read

end Decoding

theorem Store.Objectless.receive {store : Store κ} {registry : Registry κ} (objectless : store.Objectless)
    (nothing : registry.HoldsNothing) (target : String) (buffer : Buffer) :
    store.Harmless (store.receive target registry buffer).2 := by
  obtain ⟨noted, given⟩ := Decoding.harmless_read nothing (.start buffer) (List.forall_mem_nil _)
  have settled := objectless.settle (Ledger.untouched_applyAll noted store.ledger)
  unfold Store.receive Record.deserialize
  dsimp only
  split
  · exact settled.trans (settled.objectless.keepRecord (given _ ‹_›) target)
  · exact settled

namespace Operation

-- The objects that an operation is given, to put somewhere.
def given : Operation κ → List ObjectId
  | .put _ _ payload | .newPayload _ payload => payload.held?.toList
  | .adopt _ entries => entries.filterMap (·.2.held?)
  | .attach _ object => [object]
  | _ => []

-- Entering and leaving the lock are for its scopes, not for the host to do by itself.
def isScope : Operation κ → Bool
  | .enter | .leave => true
  | _ => false

theorem harmless_perform {operation : Operation κ} (plain : operation.isScope = false)
    (none : operation.given = []) {store : Store κ} (objectless : store.Objectless) : store.Harmless (operation.perform store) := by
  cases operation with
  | enter | leave => cases plain
  | newRecord name => exact objectless.keepRecord Record.objectless_empty name
  | dropRecord name => exact objectless.dropRecord name
  | cloneRecord name target => exact objectless.cloneRecord name target
  | setAttribute name label value =>
    have keeps : ∀ record : Record κ, record.Objectless → (record.setAttribute label value).Objectless :=
      fun _ nothing => nothing
    exact objectless.update keeps name
  | touch name =>
    have keeps : ∀ record : Record κ, record.Objectless →
        ({ record with payloads := some record.container } : Record κ).Objectless := fun _ nothing => nothing
    exact objectless.update keeps name
  | put name slot payload => exact objectless.put (Option.toList_eq_nil_iff.mp none) name slot
  | move source name slot => exact objectless.move source name slot
  | adopt name entries =>
    exact objectless.adopt (List.filterMap_eq_nil_iff.mp none) name
  | attach name object => cases none
  | lookup name =>
    rw [perform, objectless.lookup]
    exact objectless.stays
  | hold name handle =>
    rw [perform, objectless.hold]
    exact objectless.stays
  | release handle =>
    rw [perform, objectless.release]
    exact objectless.stays
  | newPayload name payload =>
    have nothing : payload.Objectless := Option.toList_eq_nil_iff.mp none
    have made := objectless.settle (Ledger.untouched_make nothing store.ledger)
    exact made.trans (made.objectless.keepPayload nothing name)
  | clonePayload name target => exact objectless.clonePayload name target
  | refill name buffer => exact objectless.refill name buffer
  | dropPayload name => exact objectless.dropPayload name
  | receive target registry nothing buffer => exact objectless.receive nothing target buffer
  | transport name target order readOrder registry nothing =>
    rw [perform]
    cases store.record? name with
    | none => exact objectless.stays
    | some record => exact objectless.receive nothing target _

end Operation
end RecordBridge
