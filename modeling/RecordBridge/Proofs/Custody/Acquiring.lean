import RecordBridge.Proofs.Bridge.Scopes
import RecordBridge.Proofs.Custody.Slot

namespace RecordBridge

variable {κ : Type}

namespace Ledger

-- One move of the accounts: a reference in a scope of its own, a reference in no scope but the caller's, or a
-- payload, which needs none.
inductive Move where
  | locked (object : ObjectId) (change : Int)
  | bare (object : ObjectId) (change : Int)
  | counted (kind : PayloadKind) (change : Int)

namespace Move

def perform (ledger : Ledger) : Move → Ledger
  | .locked object change => ledger.held (·.adjust object change)
  | .bare object change => ledger.adjust object change
  | .counted kind change => ledger.count kind change

def scope? : Move → Option ObjectId
  | .locked object _ => some object
  | _ => none

-- What a payload event consists of.
def course : PayloadEvent κ → List Move
  | .created payload => [.counted payload.kind 1]
  | .cloned payload => payload.held?.toList.map (.locked · 1) ++ [.counted payload.kind 1]
  | .reset payload => payload.held?.toList.map (.locked · (-1))
  | .dropped payload => payload.held?.toList.map (.locked · (-1)) ++ [.counted payload.kind (-1)]

-- What attaching consists of, by what it displaces. The object of that is released in the caller's scope.
def attaching (displaced : Option (Payload κ)) : List Move :=
  .counted .reference 1 :: match displaced with
    | some old => old.held?.toList.map (.bare · (-1)) ++ [.counted old.kind (-1)]
    | none => []

end Move

def performAll (moves : List Move) (ledger : Ledger) : Ledger := moves.foldl Move.perform ledger

-- The objects for whose sake the lock is taken, in order.
def scopes (moves : List Move) : List ObjectId := moves.filterMap Move.scope?

-- A change of the accounts that is made of these moves, whatever the accounts are when it happens.
def Consists (change : Ledger → Ledger) (moves : List Move) : Prop :=
  ∀ ledger, change ledger = ledger.performAll moves

theorem scopes_append (first second : List Move) : scopes (first ++ second) = scopes first ++ scopes second :=
  List.filterMap_append

theorem performAll_append (first second : List Move) (ledger : Ledger) :
    ledger.performAll (first ++ second) = (ledger.performAll first).performAll second := List.foldl_append

theorem adjust_enter (ledger : Ledger) (object : ObjectId) (change : Int) :
    ledger.enter.adjust object change = (ledger.adjust object change).enter := by
  by_cases deep : 0 < ledger.depth <;> simp [enter, adjust, record, deep]

theorem perform_locked {ledger : Ledger} (room : ledger.depth.toNat + 1 < 2 ^ 32) (object : ObjectId)
    (change : Int) : (Move.locked object change).perform ledger =
      (ledger.adjust object change).recordAll (nestings [ledger.depth.toNat]) := by
  have left := @leave_enter (ledger.adjust object change) room []
  rw [List.append_nil] at left
  rw [Move.perform, held, adjust_enter]
  exact left

-- A move leaves the depth as it was, and reports only the scope it opens inside another.
theorem perform_seen {ledger : Ledger} (room : ledger.depth.toNat + 1 < 2 ^ 32) (move : Move) :
    (move.perform ledger).depth = ledger.depth ∧ (move.perform ledger).events =
      ledger.events ++ nestings (move.scope?.toList.map fun _ => ledger.depth.toNat) := by
  cases move with
  | locked object change =>
    rw [perform_locked room]
    exact ⟨recordAll_depth _ _, recordAll_events _ _⟩
  | bare object change => exact ⟨rfl, (List.append_nil _).symm⟩
  | counted kind change => exact ⟨rfl, (List.append_nil _).symm⟩

theorem performAll_seen (moves : List Move) {ledger : Ledger} (room : ledger.depth.toNat + 1 < 2 ^ 32) :
    (ledger.performAll moves).depth = ledger.depth ∧ (ledger.performAll moves).events =
      ledger.events ++ nestings ((scopes moves).map fun _ => ledger.depth.toNat) := by
  induction moves generalizing ledger with
  | nil => exact ⟨rfl, (List.append_nil _).symm⟩
  | cons move rest ih =>
    obtain ⟨same, reported⟩ := perform_seen room move
    have later := @ih (move.perform ledger) (same ▸ room)
    rw [same, reported] at later
    obtain ⟨depth, events⟩ := later
    refine ⟨depth, events.trans ?_⟩
    have one : scopes (move :: rest) = move.scope?.toList ++ scopes rest := by
      cases move <;> rfl
    rw [one, List.map_append, nestings_append, List.append_assoc]

-- Without a scope there is nothing to see, and no room is needed.
theorem performAll_unseen {moves : List Move} (none : scopes moves = []) (ledger : Ledger) :
    (ledger.performAll moves).depth = ledger.depth ∧ (ledger.performAll moves).reported = ledger.reported := by
  induction moves generalizing ledger with
  | nil => exact ⟨rfl, rfl⟩
  | cons move rest ih =>
    cases move with
    | locked object change => cases none
    | bare object change => exact ih none (ledger.adjust object change)
    | counted kind change => exact ih none (ledger.count kind change)

theorem nestings_inside {depth : Nat} (inside : 0 < depth) (objects : List ObjectId) :
    nestings (objects.map fun _ => depth) = List.replicate objects.length (.nestedAcquisition (depth + 1)) := by
  induction objects with
  | nil => rfl
  | cons object rest ih =>
    have one : nestings [depth] = [.nestedAcquisition (depth + 1)] := by simp [nestings, inside]
    rw [List.map_cons, ← List.singleton_append, nestings_append, one, ih]
    rfl

theorem nestings_outside (objects : List ObjectId) : nestings (objects.map fun _ => 0) = [] := by
  simp [nestings]

-- A change of the accounts that takes the lock for these objects, one after the other, and what is seen of it
-- inside a scope and outside. However else it is put together, it takes the lock as often. Open scopes are
-- counted in 32 bits, and where one is to be opened inside others, the count has to have room for it.
structure Acquires (change : Ledger → Ledger) (objects : List ObjectId) : Prop where
  course : ∃ moves, Consists change moves ∧ scopes moves = objects
  often : ∀ moves, Consists change moves → (scopes moves).length = objects.length
  depth : ∀ ledger, ledger.depth.toNat + 1 < 2 ^ 32 →
    (change ledger).depth = ledger.depth ∧ (change ledger).isHeld = ledger.isHeld
  inside : ∀ ledger, ledger.depth.toNat + 1 < 2 ^ 32 → 0 < ledger.depth → (change ledger).events =
    ledger.events ++ List.replicate objects.length (.nestedAcquisition (ledger.depth.toNat + 1))
  outside : ∀ ledger, ledger.depth = 0 → (change ledger).events = ledger.events
  never : objects = [] → ∀ ledger,
    (change ledger).depth = ledger.depth ∧ (change ledger).events = ledger.events

theorem Consists.inside {change : Ledger → Ledger} {moves : List Move} (consists : Consists change moves)
    {ledger : Ledger} (room : ledger.depth.toNat + 1 < 2 ^ 32) (deep : 0 < ledger.depth) :
    (change ledger).events =
      ledger.events ++ List.replicate (scopes moves).length (.nestedAcquisition (ledger.depth.toNat + 1)) := by
  rw [consists ledger, (performAll_seen moves room).2, nestings_inside (UInt32.lt_iff_toNat_lt.mp deep)]

-- Two ways to put one change together report the same inside a scope, so they open as many.
theorem Consists.often {change : Ledger → Ledger} {one other : List Move} (first : Consists change one)
    (second : Consists change other) : (scopes one).length = (scopes other).length := by
  have room : ({ initial with depth := 1 } : Ledger).depth.toNat + 1 < 2 ^ 32 := by decide
  have same := (first.inside room (by decide)).symm.trans (second.inside room (by decide))
  have counted := congrArg List.length (List.append_cancel_left same)
  rwa [List.length_replicate, List.length_replicate] at counted

theorem Consists.acquires {change : Ledger → Ledger} {moves : List Move} (consists : Consists change moves) :
    Acquires change (scopes moves) where
  course := ⟨moves, consists, rfl⟩
  often _ other := other.often consists
  depth ledger room := by
    have same := (performAll_seen moves room).1
    rw [consists ledger]
    exact ⟨same, by rw [isHeld, same, isHeld]⟩
  inside _ room deep := consists.inside room deep
  outside ledger free := by
    have room : ledger.depth.toNat + 1 < 2 ^ 32 := by rw [free]; decide
    have reported := (performAll_seen moves room).2
    rw [consists ledger, reported, free]
    exact (congrArg (ledger.events ++ ·) (nestings_outside _)).trans (List.append_nil _)
  never none ledger := by
    obtain ⟨depth, reported⟩ := performAll_unseen none ledger
    rw [consists ledger]
    exact ⟨depth, congrArg List.reverse reported⟩

theorem consists_touch (payload : Payload κ) (change : Int) :
    Consists (fun ledger => ledger.touch payload fun object ledger => ledger.adjust object change)
      (payload.held?.toList.map (.locked · change)) := by
  intro ledger
  dsimp only [touch]
  cases payload.held? <;> rfl

theorem consists_apply (event : PayloadEvent κ) : Consists (·.apply event) (Move.course event) := by
  intro ledger
  cases event with
  | created payload => rfl
  | cloned payload =>
    rw [Move.course, performAll_append, ← consists_touch payload 1 ledger]
    rfl
  | reset payload => exact consists_touch payload (-1) ledger
  | dropped payload =>
    rw [Move.course, performAll_append, ← consists_touch payload (-1) ledger]
    rfl

theorem consists_applyAll (events : List (PayloadEvent κ)) :
    Consists (·.applyAll events) (events.flatMap Move.course) := by
  intro ledger
  induction events generalizing ledger with
  | nil => rfl
  | cons event rest ih =>
    rw [List.flatMap_cons, performAll_append, ← consists_apply event ledger]
    exact ih (ledger.apply event)

theorem scopes_map {event : Payload κ → PayloadEvent κ}
    (own : ∀ payload, scopes (Move.course (event payload)) = payload.held?.toList) (payloads : List (Payload κ)) :
    scopes ((payloads.map event).flatMap Move.course) = payloads.filterMap Payload.held? := by
  induction payloads with
  | nil => rfl
  | cons payload rest ih =>
    rw [List.map_cons, List.flatMap_cons, scopes_append, own, ih, List.filterMap_cons]
    cases payload.held? <;> rfl

theorem scopes_cloned (payload : Payload κ) : scopes (Move.course (.cloned payload)) = payload.held?.toList := by
  rcases payload with ⟨_ | object⟩ | content <;> rfl

theorem scopes_dropped (payload : Payload κ) : scopes (Move.course (.dropped payload)) = payload.held?.toList := by
  rcases payload with ⟨_ | object⟩ | content <;> rfl

theorem scopes_attaching (displaced : Option (Payload κ)) : scopes (Move.attaching displaced) = [] := by
  rcases displaced with _ | ⟨_ | object⟩ | content <;> rfl

end Ledger

open Ledger

namespace Record

-- What an operator does with a record, in a scope that is open. The state of the slot is read off the record.
inductive Handling where
  | attach (object : ObjectId)
  | lookup
  | slotState

def Handling.settle (record : Record κ) : Handling → Ledger → Ledger
  | .attach object, ledger => (record.attach object ledger).2
  | .lookup, ledger => (record.lookup ledger).2
  | .slotState, ledger => ledger

-- A change of the accounts that is an event for every payload of the record, in the order of its entries. A
-- payload with an object takes the lock when its turn comes, and every other takes none.
structure InTurn (record : Record κ) (event : Payload κ → PayloadEvent κ) (change : Ledger → Ledger) : Prop where
  whole : Acquires change (record.owned.filterMap Payload.held?)
  turns : ∀ front payload back, record.owned = front ++ payload :: back → ∀ ledger, change ledger =
    ((ledger.applyAll (front.map event)).apply (event payload)).applyAll (back.map event)
  own : ∀ payload, Acquires (·.apply (event payload)) payload.held?.toList

theorem inTurn (record : Record κ) {event : Payload κ → PayloadEvent κ}
    (own : ∀ payload, scopes (Move.course (event payload)) = payload.held?.toList) :
    record.InTurn event (·.applyAll (record.owned.map event)) where
  whole := by
    have acquires := (consists_applyAll (record.owned.map event)).acquires
    rwa [scopes_map own] at acquires
  turns front payload back split ledger := by
    rw [split, List.map_append, List.map_cons]
    exact List.foldl_append
  own payload := by
    have acquires := (consists_apply (event payload)).acquires
    rwa [own] at acquires

-- The displaced payload has nothing left to release when it is dropped.
theorem consists_attach (record : Record κ) (object : ObjectId) :
    Consists (fun ledger => (record.attach object ledger).2) (Move.attaching (record.payload? slotName)) := by
  intro ledger
  have displaced : (record.add slotName (.reference (some object))).2 = record.payload? slotName :=
    record.find?_container slotName
  unfold attach
  simp only [displaced]
  rcases record.payload? slotName with _ | ⟨_ | held⟩ | content <;> rfl

theorem consists_lookup (record : Record κ) : Consists (fun ledger => (record.lookup ledger).2)
    (record.slot?.join.toList.map (.bare · 1)) := by
  intro ledger
  unfold lookup
  rcases record.slot? with _ | _ | object <;> rfl

theorem handling_free (record : Record κ) (handling : Handling) : Acquires (handling.settle record) [] := by
  cases handling with
  | attach object =>
    have acquires := (record.consists_attach object).acquires
    rwa [scopes_attaching] at acquires
  | lookup =>
    have none : scopes (record.slot?.join.toList.map (.bare · 1)) = [] := by
      cases record.slot?.join <;> rfl
    have acquires := record.consists_lookup.acquires
    rwa [none] at acquires
  | slotState =>
    have consists : Consists (Handling.slotState.settle record) [] := fun _ => rfl
    exact consists.acquires

theorem attach_references (record : Record κ) (object : ObjectId) (ledger : Ledger) :
    (record.attach object ledger).2.references =
      (((record.payload? slotName).bind Payload.held?).elim ledger fun old => ledger.release old).references := by
  refine (congrArg Ledger.references (record.consists_attach object ledger)).trans ?_
  rcases record.payload? slotName with _ | ⟨_ | held⟩ | content <;> rfl

end Record

theorem acquisitions_counted [Cargo κ] (record : Record κ) :
    record.InTurn .cloned (fun ledger => (record.clone ledger).2) ∧
    record.InTurn .dropped record.drop ∧
    (∀ handling : Record.Handling, Acquires (handling.settle record) []) ∧
    ∀ object ledger, (record.attach object ledger).2.references =
      (((record.payload? slotName).bind Payload.held?).elim ledger fun old => ledger.release old).references :=
  ⟨record.inTurn scopes_cloned, record.inTurn scopes_dropped, record.handling_free, record.attach_references⟩

-- Two of four payloads hold an object.
example :
    let record : Record := ⟨[], some ⟨[("a", .reference (some 5)), (slotName, .reference none),
      ("b", .fields [.number 1]), ("c", .reference (some 6))]⟩⟩
    (record.drop Ledger.initial.enter.enter.forgetEvents).events = [.nestedAcquisition 3, .nestedAcquisition 3] ∧
    (record.drop .initial).events = [] := by
  decide

end RecordBridge
