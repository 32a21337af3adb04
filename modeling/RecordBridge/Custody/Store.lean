import RecordBridge.Custody.Attachment

namespace RecordBridge

-- Everything the host holds by name. What comes under a name that is in use drops what was there, once the
-- new value is made.
structure Store (κ : Type := Fields) where
  ledger : Ledger
  records : List (String × Record κ)
  payloads : List (String × Payload κ)
  handles : List (String × ObjectId)

namespace Store

variable {κ : Type}

def initial : Store κ := ⟨.initial, [], [], []⟩

def settle (store : Store κ) (change : Ledger → Ledger) : Store κ :=
  { store with ledger := change store.ledger }

def record? (store : Store κ) (name : String) : Option (Record κ) := Named.find? name store.records

def payload? (store : Store κ) (name : String) : Option (Payload κ) := Named.find? name store.payloads

def handle? (store : Store κ) (name : String) : Option ObjectId := Named.find? name store.handles

-- Gives up a record that is no longer under a name.
def discardRecord (record : Option (Record κ)) (store : Store κ) : Store κ :=
  match record with
  | some record => store.settle record.drop
  | none => store

def discardPayload (payload : Option (Payload κ)) (store : Store κ) : Store κ :=
  match payload with
  | some payload => store.settle (·.apply (.dropped payload))
  | none => store

def discardHandle (handle : Option ObjectId) (store : Store κ) : Store κ :=
  match handle with
  | some object => store.settle (·.release object)
  | none => store

def keepRecord (name : String) (record : Record κ) (store : Store κ) : Store κ :=
  discardRecord (store.record? name) { store with records := Named.put name record store.records }

def keepPayload (name : String) (payload : Payload κ) (store : Store κ) : Store κ :=
  discardPayload (store.payload? name) { store with payloads := Named.put name payload store.payloads }

def keepHandle (name : String) (object : ObjectId) (store : Store κ) : Store κ :=
  discardHandle (store.handle? name) { store with handles := Named.put name object store.handles }

def dropRecord (name : String) (store : Store κ) : Store κ :=
  discardRecord (store.record? name) { store with records := Named.erase name store.records }

def dropPayload (name : String) (store : Store κ) : Store κ :=
  discardPayload (store.payload? name) { store with payloads := Named.erase name store.payloads }

def release (name : String) (store : Store κ) : Store κ :=
  discardHandle (store.handle? name) { store with handles := Named.erase name store.handles }

-- Changes a record in its place.
def update (name : String) (change : Record κ → Record κ) (store : Store κ) : Store κ :=
  match store.record? name with
  | some record => { store with records := Named.put name (change record) store.records }
  | none => store

-- A copy of a record, which is not under a name yet.
def copyRecord [Cargo κ] (name : String) (store : Store κ) : Option (Record κ) × Store κ :=
  match store.record? name with
  | some record =>
    let copied := record.clone store.ledger
    (some copied.1, { store with ledger := copied.2 })
  | none => (none, store)

def keepCopy (target : String) (copied : Option (Record κ) × Store κ) : Store κ :=
  match copied.1 with
  | some record => copied.2.keepRecord target record
  | none => copied.2

def cloneRecord [Cargo κ] (name target : String) (store : Store κ) : Store κ :=
  keepCopy target (copyRecord name store)

def clonePayload [Cargo κ] (name target : String) (store : Store κ) : Store κ :=
  match store.payload? name with
  | some payload => keepPayload target payload.copy (store.settle (·.apply (.cloned payload)))
  | none => store

-- A payload made by the caller. One that refers to an object gets a reference of its own.
def make (payload : Payload κ) (ledger : Ledger) : Ledger :=
  let made := ledger.apply (.created payload)
  match payload.held? with
  | some object => made.acquire object
  | none => made

-- Puts a payload that exists already into a slot. The displaced one is the answer, and is dropped; a
-- payload that finds no record is dropped itself.
def place (name slot : String) (payload : Payload κ) (store : Store κ) : Option (Payload κ) × Store κ :=
  match store.record? name with
  | some record =>
    let added := record.add slot payload
    (added.2,
      discardPayload added.2 { store with records := Named.put name added.1 store.records })
  | none => (none, discardPayload (some payload) store)

def put (name slot : String) (payload : Payload κ) (store : Store κ) : Option (Payload κ) × Store κ :=
  place name slot payload (store.settle (make payload))

-- Moves a payload that stood by itself into a slot.
def move (source name slot : String) (store : Store κ) : Option (Payload κ) × Store κ :=
  match store.payload? source with
  | some payload => place name slot payload { store with payloads := Named.erase source store.payloads }
  | none => (none, store)

-- Adds a payload made for a container that nobody else owns yet. The displaced one is dropped.
def fillEntry (state : Container κ × Ledger) (entry : String × Payload κ) : Container κ × Ledger :=
  let added := state.1.add entry.1 entry.2
  let made := make entry.2 state.2
  (added.1, match added.2 with
    | some displaced => made.apply (.dropped displaced)
    | none => made)

-- A container filled entry by entry; of two entries with one name the later stays.
def fill (entries : List (String × Payload κ)) (ledger : Ledger) : Container κ × Ledger :=
  entries.foldl fillEntry (.empty, ledger)

-- Replaces the container of a record. The payloads of the old one go with it.
def adopt (name : String) (entries : List (String × Payload κ)) (store : Store κ) : Store κ :=
  match store.record? name with
  | some record =>
    let filled := fill entries store.ledger
    let changed := { record with payloads := some filled.1 }
    { store with
      ledger := record.drop filled.2
      records := Named.put name changed store.records }
  | none => store

def touch (name : String) (store : Store κ) : Store κ :=
  update name (fun record => { record with payloads := some record.container }) store

def setAttribute (name attributeName : String) (value : Value) (store : Store κ) : Store κ :=
  update name (·.setAttribute attributeName value) store

-- Attaches an object under a lock that the caller holds, with a reference taken for the purpose.
def attach (name : String) (object : ObjectId) (store : Store κ) : Store κ :=
  match store.record? name with
  | some record =>
    let attached := record.attach object (store.ledger.acquire object)
    { store with ledger := attached.2, records := Named.put name attached.1 store.records }
  | none => store

-- Looks the attached object up and gives the reference back.
def lookup (name : String) (store : Store κ) : Option ObjectId × Store κ :=
  match store.record? name with
  | some record =>
    let found := record.lookup store.ledger
    (found.1, discardHandle found.1 { store with ledger := found.2 })
  | none => (none, store)

-- Looks the attached object up and keeps the reference.
def hold (name handle : String) (store : Store κ) : Option ObjectId × Store κ :=
  match store.record? name with
  | some record =>
    let found := record.lookup store.ledger
    let looked := { store with ledger := found.2 }
    match found.1 with
    | some object => (some object, keepHandle handle object looked)
    | none => (none, looked)
  | none => (none, store)

-- Reads a record from bytes. A record that cannot be read is not kept.
def receive [Cargo κ] (target : String) (registry : Registry κ) (buffer : Buffer) (store : Store κ) :
    (Except HostError (Record κ) × Buffer) × Store κ :=
  let done := Record.deserialize registry buffer store.ledger
  let settled := { store with ledger := done.2 }
  match done.1.1 with
  | .ok record => (done.1, keepRecord target record settled)
  | .error _ => (done.1, settled)

-- Fills a payload that stands by itself from bytes. It keeps what was read before a failure.
def refill [Cargo κ] (name : String) (buffer : Buffer) (store : Store κ) :
    Option (Except HostError Unit × Buffer) × Store κ :=
  match store.payload? name with
  | some payload =>
    let filled := payload.read buffer
    (some (filled.outcome, filled.buffer),
      { store.settle (·.apply (.reset payload)) with
        payloads := Named.put name filled.value store.payloads })
  | none => (none, store)

-- Gives up everything.
def clear (store : Store κ) : Store κ :=
  let records := store.records.foldl (fun ledger entry => entry.2.drop ledger) store.ledger
  let payloads := store.payloads.foldl (fun ledger entry => ledger.apply (.dropped entry.2)) records
  let handles := store.handles.foldl (fun ledger entry => ledger.release entry.2) payloads
  ⟨handles, [], [], []⟩

end Store
end RecordBridge
