import RecordBridge.Custody.Ledger
import RecordBridge.Record.Wire

namespace RecordBridge

-- The reserved name.
def slotName : String := "pyref"

-- What the slot holds. It is empty, not absent, after transport.
inductive SlotState where
  | absent
  | empty
  | attached
  deriving DecidableEq, Repr

def SlotState.shown : SlotState → String
  | .absent => "Absent"
  | .empty => "Empty"
  | .attached => "Attached"

-- A registry that can read the slot back.
def slotRegistry {κ : Type} : Registry κ := Registry.empty.register slotName (.reference none)

namespace Payload

variable {κ : Type}

-- Gives up the reference under a lock that the caller holds, so that dropping the payload afterwards
-- has nothing left to do.
def releaseHeld (ledger : Ledger) (payload : Payload κ) : Payload κ × Ledger :=
  match payload with
  | .reference (some object) => (.reference none, ledger.release object)
  | other => (other, ledger)

end Payload

namespace Record

variable {κ : Type}

-- The entry under the reserved name, if it is of the kind that holds a reference.
def slot? (record : Record κ) : Option (Option ObjectId) :=
  match record.payload? slotName with
  | some (.reference held) => some held
  | _ => none

def slotState (record : Record κ) : SlotState :=
  match record.slot? with
  | none => .absent
  | some none => .empty
  | some (some _) => .attached

def copy [Cargo κ] (record : Record κ) : Record κ := { record with payloads := record.payloads.map Container.copy }

@[simp] theorem copy_same [Cargo κ] (record : Record κ) : record.copy = record := by
  obtain ⟨attributes, payloads⟩ := record
  cases payloads with
  | none => rfl
  | some container => exact congrArg (fun copied => mk attributes (some copied)) container.copy_same

def clone [Cargo κ] (record : Record κ) (ledger : Ledger) : Record κ × Ledger :=
  (record.copy, ledger.applyAll (record.owned.map .cloned))

@[simp] theorem clone_same [Cargo κ] (record : Record κ) (ledger : Ledger) : (record.clone ledger).1 = record :=
  record.copy_same

def drop (record : Record κ) (ledger : Ledger) : Ledger :=
  ledger.applyAll (record.owned.map .dropped)

-- Stores a payload that the caller owns, and hands the displaced one over.
def add (record : Record κ) (name : String) (payload : Payload κ) : Record κ × Option (Payload κ) :=
  let added := record.container.add name payload
  ({ record with payloads := some added.1 }, added.2)

-- Puts the caller's reference into the slot, in a payload made for it. What was there is released
-- under the caller's lock and then dropped.
def attach (record : Record κ) (object : ObjectId) (ledger : Ledger) : Record κ × Ledger :=
  let payload : Payload κ := .reference (some object)
  let added := record.add slotName payload
  let made := ledger.apply (.created payload)
  match added.2 with
  | none => (added.1, made)
  | some displaced =>
    let released := displaced.releaseHeld made
    (added.1, released.2.apply (.dropped released.1))

-- A further reference to the attached object, for the caller to give back.
def lookup (record : Record κ) (ledger : Ledger) : Option ObjectId × Ledger :=
  match record.slot? with
  | some (some object) => (some object, ledger.acquire object)
  | _ => (none, ledger)

def serialize [Cargo κ] (record : Record κ) (order : ByteOrder) : Bytes := (record.write (.empty order)).bytes

-- Reads a record and settles what became of every payload on the way.
def deserialize [Cargo κ] (registry : Registry κ) (buffer : Buffer) (ledger : Ledger) :
    (Except HostError (Record κ) × Buffer) × Ledger :=
  let done := Record.read registry (.start buffer)
  ((done.1, done.2.buffer), ledger.applyAll done.2.events)

end Record
end RecordBridge
