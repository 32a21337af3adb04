import RecordBridge.Record.Buffer
import RecordBridge.Record.Named

namespace RecordBridge

-- An object of the embedded interpreter, as the host can tell it from others.
abbrev ObjectId := Nat

-- A reading into existing state: what became of the state is known on failure too.
structure Restored (α : Type) where
  outcome : Except HostError Unit
  value : α
  buffer : Buffer

-- What the host's own payloads are like. Each kind says how a payload is copied, written and filled; that a
-- copy is equal to what it is a copy of is the law that every kind has to keep. None holds an object of the
-- interpreter, and to write one or to give one up has no other effect.
class Cargo (κ : Type) where
  copy : κ → κ
  copy_same : ∀ content, copy content = content
  write : Buffer → κ → Buffer
  read : κ → Buffer → Restored κ

inductive Field where
  | number (n : UInt32)
  | bytes (data : Bytes)
  deriving DecidableEq, Repr

abbrev Fields := List Field

namespace Field

def write (buffer : Buffer) : Field → Buffer
  | .number n => buffer.putU32 n
  | .bytes data => buffer.putBytes data

-- Reads a field of the same kind.
def read : Field → Reader Buffer Field
  | .number _ => do return .number (← Buffer.getU32)
  | .bytes _ => do return .bytes (← Buffer.getBytes)

def writeAll (buffer : Buffer) (fields : Fields) : Buffer := fields.foldl write buffer

-- Fields read before a failure stay set, the others keep what they held.
def readAll : Fields → Buffer → Restored Fields
  | [], buffer => ⟨.ok (), [], buffer⟩
  | field :: rest, buffer =>
    match field.read buffer with
    | (.ok field, buffer) =>
      let tail := readAll rest buffer
      { tail with value := field :: tail.value }
    | (.error e, buffer) => ⟨.error e, field :: rest, buffer⟩

instance : Cargo Fields := ⟨id, fun _ => rfl, writeAll, readAll⟩

end Field

-- Over any kinds of the host's own; over sequences of fields where no others are named.
inductive Payload (κ : Type := Fields) where
  | reference (held : Option ObjectId)
  | own (content : κ)
  deriving DecidableEq, Repr

inductive PayloadKind where
  | reference
  | own
  deriving DecidableEq, Repr

-- What the host does to a payload. The ledger says what each of these costs.
inductive PayloadEvent (κ : Type := Fields) where
  | created (payload : Payload κ)
  | cloned (payload : Payload κ)
  | reset (payload : Payload κ)
  | dropped (payload : Payload κ)
  deriving DecidableEq, Repr

namespace Payload

variable {κ : Type}

@[match_pattern]
abbrev fields (content : Fields) : Payload := .own content

def held? : Payload κ → Option ObjectId
  | .reference held => held
  | .own _ => none

def kind : Payload κ → PayloadKind
  | .reference _ => .reference
  | .own _ => .own

variable [Cargo κ]

-- A copied reference refers to the same object.
def copy : Payload κ → Payload κ
  | .reference held => .reference held
  | .own content => .own (Cargo.copy content)

@[simp] theorem copy_same (payload : Payload κ) : payload.copy = payload := by
  cases payload with
  | reference held => rfl
  | own content => exact congrArg own (Cargo.copy_same content)

-- Nothing is written for a reference: it means nothing to another process.
def write (buffer : Buffer) : Payload κ → Buffer
  | .reference _ => buffer
  | .own content => Cargo.write buffer content

-- Nothing is read for a reference, and what it held before does not survive.
def read (buffer : Buffer) : Payload κ → Restored (Payload κ)
  | .reference _ => ⟨.ok (), .reference none, buffer⟩
  | .own content =>
    let filled := Cargo.read content buffer
    ⟨filled.outcome, .own filled.value, filled.buffer⟩

end Payload

-- The payloads of one record by name.
structure Container (κ : Type := Fields) where
  entries : List (String × Payload κ)
  deriving DecidableEq, Repr

namespace Container

variable {κ : Type}

def empty : Container κ := ⟨[]⟩

def find? (container : Container κ) (name : String) : Option (Payload κ) :=
  Named.find? name container.entries

-- The container with the payload in place, and the payload it displaced.
def add (container : Container κ) (name : String) (payload : Payload κ) :
    Container κ × Option (Payload κ) :=
  (⟨Named.put name payload container.entries⟩, container.find? name)

def names (container : Container κ) : List String := Named.names container.entries

def payloads (container : Container κ) : List (Payload κ) := container.entries.map (·.2)

def copyEntry [Cargo κ] (entry : String × Payload κ) : String × Payload κ := (entry.1, entry.2.copy)

def copy [Cargo κ] (container : Container κ) : Container κ := ⟨container.entries.map copyEntry⟩

@[simp] theorem copyEntry_same [Cargo κ] (entry : String × Payload κ) : copyEntry entry = entry :=
  congrArg (entry.1, ·) entry.2.copy_same

@[simp] theorem copy_same [Cargo κ] (container : Container κ) : container.copy = container :=
  congrArg mk (List.map_id'' copyEntry_same container.entries)

def size (container : Container κ) : Nat := container.entries.length

def shown (container : Container κ) : String := Quoted.listing (container.names.map Quoted.text)

end Container

-- Blank payloads by name, from which transported ones are rebuilt. The latest registration wins.
structure Registry (κ : Type := Fields) where
  blanks : List (String × Payload κ)
  deriving DecidableEq, Repr

namespace Registry

variable {κ : Type}

def empty : Registry κ := ⟨[]⟩

def register (registry : Registry κ) (name : String) (blank : Payload κ) : Registry κ :=
  ⟨(name, blank) :: registry.blanks⟩

def create (registry : Registry κ) (name : String) : Except HostError (Payload κ) :=
  match Named.find? name registry.blanks with
  | some blank => .ok blank
  | none => .error (.unknownPayload name)

end Registry
end RecordBridge
