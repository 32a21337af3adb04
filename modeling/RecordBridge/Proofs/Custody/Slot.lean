import RecordBridge.Proofs.Custody.Stepping
import RecordBridge.Proofs.Record.Transport

namespace RecordBridge

inductive Slot where
  | missing
  | empty
  | holding (object : ObjectId)
  deriving DecidableEq, Repr

-- One thing done to a record. A copy or a transported record takes the place of its original.
inductive Change (κ : Type) where
  | setAttribute (name : String) (value : Value)
  | touch
  | attach (object : ObjectId)
  | add (name : String) (payload : Payload κ)
  | replace (entries : List (String × Payload κ))
  | clone
  | transport (order : ByteOrder) (registry : Registry κ)

namespace Slot

variable {κ : Type}

def state : Slot → SlotState
  | .missing => .absent
  | .empty => .empty
  | .holding _ => .attached

def object? : Slot → Option ObjectId
  | .holding object => some object
  | _ => none

-- A payload of another kind under the reserved name is no slot.
def made : Payload κ → Slot
  | .reference none => .empty
  | .reference (some object) => .holding object
  | .own _ => .missing

def put (name : String) (payload : Payload κ) (slot : Slot) : Slot :=
  if name = slotName then made payload else slot

-- No object gets to the other side.
def sent : Slot → Slot
  | .missing => .missing
  | _ => .empty

def next (slot : Slot) : Change κ → Slot
  | .setAttribute _ _ | .touch | .clone => slot
  | .attach object => .holding object
  | .add name payload => slot.put name payload
  | .replace entries => entries.foldl (fun slot entry => slot.put entry.1 entry.2) .missing
  | .transport _ _ => slot.sent

def run (changes : List (Change κ)) (slot : Slot) : Slot := changes.foldl next slot

end Slot

namespace Record

variable {κ : Type}

-- Both ways to ask tell of this slot. A reference that is found is a further one.
structure Shows (record : Record κ) (slot : Slot) : Prop where
  state : record.slotState = slot.state
  lookup : ∀ ledger, record.lookup ledger =
    (slot.object?, slot.object?.elim ledger fun object => ledger.acquire object)

-- A change of a record, whatever the ledger is when it happens. A record is transported through a registry
-- that knows the kinds of its payloads, and with no length that the wire cannot tell.
inductive Step [Cargo κ] : Record κ → Change κ → Record κ → Prop where
  | setAttribute {record : Record κ} (name : String) (value : Value) :
      Step record (.setAttribute name value) (record.setAttribute name value)
  | touch {record : Record κ} : Step record .touch { record with payloads := some record.container }
  | attach {record : Record κ} (object : ObjectId) (ledger : Ledger) :
      Step record (.attach object) (record.attach object ledger).1
  | add {record : Record κ} (name : String) (payload : Payload κ) :
      Step record (.add name payload) (record.add name payload).1
  | replace {record : Record κ} (entries : List (String × Payload κ)) (ledger : Ledger) :
      Step record (.replace entries) { record with payloads := some (Store.fill entries ledger).1 }
  | clone {record : Record κ} (ledger : Ledger) : Step record .clone (record.clone ledger).1
  | transport {record received : Record κ} {order : ByteOrder} {registry : Registry κ} {rest : Buffer}
      (ledger : Ledger) (sound : record.Transportable order registry)
      (read : (deserialize registry (.ofBytes order (record.serialize order)) ledger).1 =
        (.ok received, rest)) :
      Step record (.transport order registry) received

inductive Steps [Cargo κ] : Record κ → List (Change κ) → Record κ → Prop where
  | none {record : Record κ} : Steps record [] record
  | more {before between after : Record κ} {change : Change κ} {changes : List (Change κ)}
      (first : Step before change between) (rest : Steps between changes after) :
      Steps before (change :: changes) after

theorem find?_container (record : Record κ) (name : String) :
    record.container.find? name = record.payload? name := by
  obtain ⟨attributes, payloads⟩ := record
  cases payloads <;> rfl

end Record

namespace Slot

variable {κ : Type}

-- The slot that a payload found under the reserved name makes.
def found : Option (Payload κ) → Slot
  | none => .missing
  | some payload => made payload

theorem found_add (container : Container κ) (name : String) (payload : Payload κ) :
    found ((container.add name payload).1.find? slotName) =
      (found (container.find? slotName)).put name payload := by
  change found (Named.find? slotName (Named.put name payload container.entries)) = _
  by_cases reserved : name = slotName
  · rw [put, if_pos reserved, reserved, Named.find?_put_self]
    rfl
  · rw [put, if_neg reserved, Named.find?_put_other payload _ (Ne.symm reserved)]
    rfl

theorem found_fill (entries : List (String × Payload κ)) (state : Container κ × Ledger) :
    found ((entries.foldl Store.fillEntry state).1.find? slotName) =
      entries.foldl (fun slot entry => slot.put entry.1 entry.2) (found (state.1.find? slotName)) := by
  induction entries generalizing state with
  | nil => rfl
  | cons entry rest ih =>
    have first := found_add state.1 entry.1 entry.2
    rw [List.foldl_cons, List.foldl_cons, ih, ← first]
    rfl

end Slot

namespace Record

variable {κ : Type}

theorem shows_exact {record : Record κ} {slot : Slot} :
    record.Shows slot ↔ slot = Slot.found (record.payload? slotName) := by
  have here : record.Shows (Slot.found (record.payload? slotName)) := by
    constructor
    · unfold slotState slot?
      rcases record.payload? slotName with _ | (⟨_ | object⟩ | content) <;> rfl
    · intro ledger
      unfold lookup slot?
      rcases record.payload? slotName with _ | (⟨_ | object⟩ | content) <;> rfl
  constructor
  · intro shown
    have object := congrArg Prod.fst ((shown.lookup .initial).symm.trans (here.lookup .initial))
    have state := shown.state.symm.trans here.state
    generalize Slot.found (record.payload? slotName) = other at object state
    cases slot <;> cases other <;> simp_all [Slot.state, Slot.object?]
  · rintro rfl
    exact here

theorem attach_added (record : Record κ) (object : ObjectId) (ledger : Ledger) :
    (record.attach object ledger).1 = (record.add slotName (.reference (some object))).1 := by
  unfold attach
  dsimp only
  split <;> rfl

end Record

section Transport

variable {κ : Type} [Cargo κ] {order : ByteOrder} {registry : Registry κ}

-- On the other side a name stands for what was made of one of its entries.
theorem Container.find?_rebuildOnto (entries : List (String × Payload κ)) (container : Container κ)
    (name : String) : (name ∉ Named.names entries ∧
      (rebuildOnto registry order entries container).find? name = container.find? name) ∨
    ∃ payload, (name, payload) ∈ entries ∧
      (rebuildOnto registry order entries container).find? name =
        some (registry.rebuild order (name, payload)) := by
  induction entries generalizing container with
  | nil => exact .inl ⟨List.not_mem_nil, rfl⟩
  | cons entry rest ih =>
    rcases ih (container.add entry.1 (registry.rebuild order entry)).1 with ⟨fresh, same⟩ | later
    · by_cases here : entry.1 = name
      · subst here
        exact .inr ⟨entry.2, List.mem_cons_self, same.trans (Named.find?_put_self _ _ _)⟩
      · refine .inl ⟨fun known => ?_, same.trans (Named.find?_put_other _ _ (Ne.symm here))⟩
        exact (List.mem_cons.mp known).elim (fun named => here named.symm) fresh
    · obtain ⟨payload, member, rebuilt⟩ := later
      exact .inr ⟨payload, List.mem_cons_of_mem _ member, rebuilt⟩

namespace Slot

omit [Cargo κ] in
theorem sent_kind {one other : Payload κ} (same : one.kind = other.kind) :
    (made one).sent = (made other).sent := by
  rcases one with ⟨_ | object⟩ | content <;> rcases other with ⟨_ | held⟩ | own <;> first | rfl | cases same

theorem made_read (payload : Payload κ) (buffer : Buffer) :
    made (payload.read buffer).value = (made payload).sent := by
  rcases payload with ⟨_ | object⟩ | content <;> rfl

-- Payloads of one name come back as the one kind that the registry makes under it.
theorem made_rebuild {name : String} {payload other : Payload κ}
    (known : Container.Known order registry (name, payload))
    (alike : Container.Known order registry (name, other)) :
    made (registry.rebuild order (name, payload)) = (made other).sent := by
  obtain ⟨blank, created, -⟩ := known
  obtain ⟨again, same, kind, -⟩ := alike
  obtain rfl : blank = again := Except.ok.inj (created.symm.trans same)
  simp only [Registry.rebuild, created, made_read]
  exact sent_kind kind

theorem found_rebuilt {record : Record κ} (sound : record.Transportable order registry) :
    found ((record.rebuilt registry order).payload? slotName) = (found (record.payload? slotName)).sent := by
  rw [← Record.find?_container, ← Record.find?_container]
  have rebuilt : (record.rebuilt registry order).container =
      Container.rebuildOnto registry order record.container.entries .empty := by
    obtain ⟨attributes, payloads⟩ := record
    cases payloads <;> rfl
  rw [rebuilt]
  rcases Container.find?_rebuildOnto record.container.entries .empty slotName with
    ⟨fresh, same⟩ | ⟨payload, member, same⟩
  · have nothing : record.container.find? slotName = none := Named.find?_fresh fresh
    rw [same, nothing]
    rfl
  · obtain ⟨first, there⟩ := Named.find?_known (List.mem_map_of_mem member)
    have shown : record.container.find? slotName = some first := there
    rw [same, shown]
    exact made_rebuild (sound.known _ member) (sound.known _ (Named.find?_member there))

end Slot
end Transport

namespace Record

variable {κ : Type} [Cargo κ] {before after : Record κ}

theorem Step.shows {change : Change κ} (step : Step before change after) {slot : Slot}
    (shown : before.Shows slot) : after.Shows (slot.next change) := by
  rw [shows_exact] at shown ⊢
  subst shown
  cases step with
  | setAttribute name value => rfl
  | touch => exact (congrArg Slot.found (before.find?_container slotName)).symm
  | attach object ledger =>
    have added := Slot.found_add before.container slotName (.reference (some object))
    rw [attach_added]
    exact added.symm
  | add name payload =>
    have added := Slot.found_add before.container name payload
    rw [before.find?_container] at added
    exact added.symm
  | replace entries ledger => exact (Slot.found_fill entries (.empty, ledger)).symm
  | clone ledger =>
    rw [before.clone_same]
    rfl
  | transport ledger sound read =>
    have wire := deserialize_wire sound [] [] ledger
    rw [List.append_nil, ← serialize_exact] at wire
    obtain rfl : before.rebuilt _ _ = after := Except.ok.inj (congrArg Prod.fst (wire.symm.trans read))
    exact (Slot.found_rebuilt sound).symm

theorem Steps.shows {changes : List (Change κ)} (steps : Steps before changes after) {slot : Slot}
    (shown : before.Shows slot) : after.Shows (slot.run changes) := by
  induction steps generalizing slot with
  | none => exact shown
  | more first rest ih => exact ih (first.shows shown)

-- Nothing stands in the way of a change, but that a transport has to be one.
theorem Step.possible (before : Record κ) (change : Change κ)
    (sound : ∀ order registry, change = .transport order registry → before.Transportable order registry) :
    ∃ after, Step before change after := by
  cases change with
  | setAttribute name value => exact ⟨_, .setAttribute name value⟩
  | touch => exact ⟨_, .touch⟩
  | attach object => exact ⟨_, .attach object .initial⟩
  | add name payload => exact ⟨_, .add name payload⟩
  | replace entries => exact ⟨_, .replace entries .initial⟩
  | clone => exact ⟨_, .clone .initial⟩
  | transport order registry =>
    have wire := deserialize_wire (sound order registry rfl) [] [] .initial
    rw [List.append_nil, ← serialize_exact] at wire
    exact ⟨_, .transport .initial (sound order registry rfl) wire⟩

omit [Cargo κ]

theorem attached_iff (record : Record κ) (ledger : Ledger) :
    record.slotState = .attached ↔ (record.lookup ledger).1.isSome := by
  have shown := shows_exact.mpr (Eq.refl (Slot.found (record.payload? slotName)))
  rw [shown.state, shown.lookup ledger]
  cases Slot.found (record.payload? slotName) <;> simp [Slot.state, Slot.object?]

theorem shows_hollow {record : Record κ} (nothing : ∀ payload ∈ record.owned, payload.held? = none) :
    record.Shows .missing ∨ record.Shows .empty := by
  rw [shows_exact, shows_exact]
  rcases found : record.payload? slotName with _ | (⟨_ | object⟩ | content)
  · exact .inl rfl
  · exact .inr rfl
  · have attached : record.slot? = some (some object) := by rw [slot?, found]
    obtain ⟨payload, inside, held⟩ := attached_held attached
    rw [nothing payload inside] at held
    cases held
  · exact .inl rfl

theorem empty_iff (record : Record κ) :
    record.slotState = .empty ↔ record.payload? slotName = some (.reference none) := by
  unfold slotState slot?
  rcases record.payload? slotName with _ | (⟨_ | object⟩ | content) <;> simp

-- What attaching keeps: the attributes, every payload under another name, and the order.
structure Beside (before after : Record κ) : Prop where
  attributes : after.attributes = before.attributes
  payloads : ∀ name ≠ slotName, after.payload? name = before.payload? name
  others : after.container.entries.filter (·.1 ≠ slotName) = before.container.entries.filter (·.1 ≠ slotName)
  names : after.container.names =
    if slotName ∈ before.container.names then before.container.names else before.container.names ++ [slotName]

theorem attach_beside (record : Record κ) (object : ObjectId) (ledger : Ledger) :
    record.Beside (record.attach object ledger).1 := by
  rw [attach_added]
  refine ⟨rfl, fun name other => ?_, Named.filter_put _ _ _, record.container.names_add _ _⟩
  exact (Named.find?_put_other _ _ other).trans (record.find?_container name)

end Record

-- The transports among the changes are those under `Transportable`: counts and lengths below 2^32, a registry
-- with a blank of the right kind for every payload, and blanks that take what was written (`Payload.Takes`).
theorem slot_refined {κ : Type} [Cargo κ] :
    (Record.empty : Record κ).Shows .missing ∧
    (∀ record : Record κ, ∃! slot, record.Shows slot) ∧
    (∀ (before after : Record κ) (changes : List (Change κ)) (slot : Slot), before.Shows slot →
      Record.Steps before changes after → after.Shows (slot.run changes)) ∧
    (∀ (before : Record κ) (change : Change κ),
      (∀ order registry, change = .transport order registry → before.Transportable order registry) →
      ∃ after, Record.Step before change after) ∧
    (∀ (registry : Registry κ) (order : ByteOrder) (bs : Bytes) (ledger : Ledger) (received : Record κ)
      (rest : Buffer), (Record.deserialize registry (.ofBytes order bs) ledger).1 = (.ok received, rest) →
      received.Shows .missing ∨ received.Shows .empty) ∧
    (∀ (record : Record κ) (ledger : Ledger),
      (record.slotState = .attached ↔ (record.lookup ledger).1.isSome) ∧
      (record.slotState = .empty ↔ record.payload? slotName = some (.reference none))) ∧
    ∀ (record : Record κ) (object : ObjectId) (ledger : Ledger),
      record.Beside (record.attach object ledger).1 := by
  refine ⟨⟨rfl, fun _ => rfl⟩, fun record => ?_, fun before after changes slot shown steps => steps.shows shown,
    Record.Step.possible, fun registry order bs ledger received rest read => ?_,
    fun record ledger => ⟨record.attached_iff ledger, record.empty_iff⟩, Record.attach_beside⟩
  · exact ⟨_, Record.shows_exact.mpr rfl, fun slot shown => Record.shows_exact.mp shown⟩
  · obtain ⟨sent, restorable, rfl, -⟩ := Record.deserialize_accepted read
    exact Record.shows_hollow (Record.received_holds_nothing restorable)

-- Another object, a payload of the host's own, the first object again, a copy, and the other side.
def Change.ofPair : List (Change Fields) :=
  [.attach 4, .add slotName (.fields [.number 1]), .attach 7, .clone, .transport .network .ofPairs]

theorem slot_of_pair : Record.ofPair.Shows (.holding 7) ∧
    ∃ after, Record.Steps Record.ofPair Change.ofPair after ∧ after.Shows .empty := by
  obtain ⟨-, -, run, possible, -⟩ := @slot_refined Fields _
  have shown : Record.ofPair.Shows (.holding 7) := ⟨rfl, fun _ => rfl⟩
  obtain ⟨after, sent⟩ := possible Record.ofPair (.transport .network .ofPairs) fun order registry same => by
    obtain ⟨rfl, rfl⟩ := Change.transport.inj same
    exact Record.ofPair_transportable
  have steps : Record.Steps Record.ofPair Change.ofPair after :=
    .more (.attach 4 .initial) (.more (.add slotName (.fields [.number 1]))
      (.more (.attach 7 .initial) (.more (.clone .initial) (.more sent .none))))
  exact ⟨shown, after, steps, run _ _ _ _ shown steps⟩

end RecordBridge
