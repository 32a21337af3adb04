import RecordBridge.Record.Basic

namespace RecordBridge

namespace Value

def write (buffer : Buffer) (value : Value) : Buffer :=
  (buffer.putU32 value.tag).putBytes value.bytes

def read : Reader Buffer Value := do
  let tag ← Buffer.getU32
  if tag = 1 then
    let data ← Buffer.getBytes
    return .blob ⟨data⟩
  else if tag = 2 then
    let data ← Buffer.getBytes
    return .rstring ⟨data⟩
  else .fail (.unknownAttributeTag tag)

end Value

-- A reading of payloads: the bytes, and what became of the payloads so far.
structure Decoding (κ : Type := Fields) where
  buffer : Buffer
  events : List (PayloadEvent κ)
  deriving DecidableEq, Repr

namespace Decoding

variable {κ : Type}

def start (buffer : Buffer) : Decoding κ := ⟨buffer, []⟩

def note (events : List (PayloadEvent κ)) (decoding : Decoding κ) : Decoding κ :=
  { decoding with events := decoding.events ++ events }

-- A step on the bytes alone.
def onBuffer {α : Type} (step : Reader Buffer α) : Reader (Decoding κ) α := fun decoding =>
  let done := step decoding.buffer
  (done.1, { decoding with buffer := done.2 })

end Decoding

namespace Container

variable {κ : Type} [Cargo κ]

def writeEntry (buffer : Buffer) (entry : String × Payload κ) : Buffer :=
  (buffer.putString entry.1).putBytes (entry.2.write (.empty buffer.order)).bytes

def write (buffer : Buffer) (container : Container κ) : Buffer :=
  container.entries.foldl writeEntry (buffer.putU32 (UInt32.ofNat container.size))

-- Puts a rebuilt payload under its name. Of two entries with one name the later stays.
def receive (container : Container κ) (name : String) (payload : Payload κ) :
    Reader (Decoding κ) (Container κ) := fun decoding =>
  let added := container.add name payload
  (.ok added.1, decoding.note (added.2.toList.map .dropped))

-- Fills a blank payload from its own bytes; a payload that cannot be filled is dropped.
def fill (blank : Payload κ) (data : Bytes) : Reader (Decoding κ) (Payload κ) := fun decoding =>
  let filled := blank.read (.ofBytes decoding.buffer.order data)
  let decoding := decoding.note [.created blank, .reset blank]
  match filled.outcome with
  | .ok () => (.ok filled.value, decoding)
  | .error e => (.error e, decoding.note [.dropped filled.value])

def readEntry (registry : Registry κ) (container : Container κ) : Reader (Decoding κ) (Container κ) := do
  let name ← Decoding.onBuffer Buffer.getString
  let data ← Decoding.onBuffer Buffer.getBytes
  match registry.create name with
  | .error e => .fail e
  | .ok blank =>
    let payload ← fill blank data
    container.receive name payload

-- A failure drops the entries read before it.
def readEntries (registry : Registry κ) : Nat → Container κ → Reader (Decoding κ) (Container κ)
  | 0, container => fun decoding => (.ok container, decoding)
  | count + 1, container => fun decoding =>
    match readEntry registry container decoding with
    | (.ok container, decoding) => readEntries registry count container decoding
    | (.error e, decoding) => (.error e, decoding.note (container.payloads.map .dropped))

def read (registry : Registry κ) : Reader (Decoding κ) (Container κ) := do
  let count ← Decoding.onBuffer Buffer.getU32
  readEntries registry count.toNat .empty

end Container

namespace Record

variable {κ : Type} [Cargo κ]

def writeAttribute (buffer : Buffer) (entry : String × Value) : Buffer :=
  entry.2.write (buffer.putString entry.1)

def writeAttributes (buffer : Buffer) (attributes : List (String × Value)) : Buffer :=
  attributes.foldl writeAttribute (buffer.putU32 (UInt32.ofNat attributes.length))

def writePayloads (buffer : Buffer) : Option (Container κ) → Buffer
  | none => buffer.putU32 0
  | some container => container.write (buffer.putU32 1)

def write (buffer : Buffer) (record : Record κ) : Buffer :=
  writePayloads (writeAttributes buffer record.attributes) record.payloads

def readAttribute : Reader Buffer (String × Value) := do
  let name ← Buffer.getString
  let value ← Value.read
  return (name, value)

-- Attributes are kept as they come, a name that comes twice included.
def readAttributes : Nat → Reader Buffer (List (String × Value))
  | 0 => return []
  | count + 1 => do
    let entry ← readAttribute
    let rest ← readAttributes count
    return entry :: rest

def readCounted : Reader Buffer (List (String × Value)) := do
  let count ← Buffer.getU32
  readAttributes count.toNat

-- Any flag but zero announces payloads.
def readPayloads (registry : Registry κ) : Reader (Decoding κ) (Option (Container κ)) := do
  let flag ← Decoding.onBuffer Buffer.getU32
  if flag = 0 then return none
  else
    let container ← Container.read registry
    return some container

def read (registry : Registry κ) : Reader (Decoding κ) (Record κ) := do
  let attributes ← Decoding.onBuffer readCounted
  let payloads ← readPayloads registry
  return ⟨attributes, payloads⟩

end Record
end RecordBridge
