import RecordBridge.Log.Event
import RecordBridge.Record.Payload

namespace RecordBridge

-- How deep this thread holds the lock, how many references to each object are out beyond its creator's, and
-- how many payloads of each kind are alive. References are touched only under the lock; a payload takes it by
-- itself when it is copied, filled or dropped, because the host does that wherever it likes.
structure Ledger where
  depth : UInt32
  references : ObjectId → Int
  live : PayloadKind → Int
  -- The latest event first.
  reported : List Event

namespace Ledger

variable {κ : Type}

def initial : Ledger := ⟨0, fun _ => 0, fun _ => 0, []⟩

def record (ledger : Ledger) (event : Event) : Ledger :=
  { ledger with reported := event :: ledger.reported }

def events (ledger : Ledger) : List Event := ledger.reported.reverse

-- Begins a new report.
def forgetEvents (ledger : Ledger) : Ledger := { ledger with reported := [] }

def isHeld (ledger : Ledger) : Bool := 0 < ledger.depth

-- Nesting is tolerated, and reported with the depth that it reaches.
def enter (ledger : Ledger) : Ledger :=
  let deeper := { ledger with depth := ledger.depth + 1 }
  if 0 < ledger.depth then deeper.record (.nestedAcquisition (ledger.depth + 1).toNat) else deeper

-- Leaving where nothing was entered changes nothing.
def leave (ledger : Ledger) : Ledger :=
  { ledger with depth := if ledger.depth = 0 then 0 else ledger.depth - 1 }

-- Runs a change of the accounts under the lock, without asking whether the interpreter runs: whoever
-- owns an object knows that it does.
def held (ledger : Ledger) (change : Ledger → Ledger) : Ledger := (change ledger.enter).leave

def adjust (ledger : Ledger) (object : ObjectId) (change : Int) : Ledger :=
  { ledger with
    references := fun o => if o = object then ledger.references o + change else ledger.references o }

def acquire (object : ObjectId) (ledger : Ledger) : Ledger := ledger.adjust object 1

def release (object : ObjectId) (ledger : Ledger) : Ledger := ledger.adjust object (-1)

def count (ledger : Ledger) (kind : PayloadKind) (change : Int) : Ledger :=
  { ledger with live := fun k => if k = kind then ledger.live k + change else ledger.live k }

-- Touches the object that a payload holds, under the lock. A payload that holds none, and the host's
-- own kinds, never take the lock.
def touch (ledger : Ledger) (payload : Payload κ) (change : ObjectId → Ledger → Ledger) : Ledger :=
  match payload.held? with
  | some object => ledger.held (change object)
  | none => ledger

-- What a payload event costs.
def apply (ledger : Ledger) : PayloadEvent κ → Ledger
  | .created payload => ledger.count payload.kind 1
  | .cloned payload => (ledger.touch payload acquire).count payload.kind 1
  | .reset payload => ledger.touch payload release
  | .dropped payload => (ledger.touch payload release).count payload.kind (-1)

def applyAll (ledger : Ledger) (events : List (PayloadEvent κ)) : Ledger := events.foldl apply ledger

end Ledger
end RecordBridge
