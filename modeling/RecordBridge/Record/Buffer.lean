import RecordBridge.Record.Error

namespace RecordBridge

inductive ByteOrder where
  | native
  | network
  deriving DecidableEq, Repr

namespace ByteOrder

def arrange (order : ByteOrder) (bigEndian : Bytes) : Bytes :=
  match order with
  | .native => bigEndian.reverse
  | .network => bigEndian

def encode (order : ByteOrder) (n : UInt32) : Bytes :=
  let n := n.toNat
  order.arrange [UInt8.ofNat (n / 16777216), UInt8.ofNat (n / 65536), UInt8.ofNat (n / 256), UInt8.ofNat n]

def decode (order : ByteOrder) (bytes : Bytes) : UInt32 :=
  UInt32.ofNat ((order.arrange bytes).foldl (fun n b => n * 256 + b.toNat) 0)

def shown : ByteOrder → String
  | .native => "Native"
  | .network => "Network"

end ByteOrder

-- What is consumed is kept backwards, the byte before the cursor first. So the cursor is where the two parts
-- meet, and has no bounds to be checked against; a position in all of the data, which has, comes to the same
-- (`Tape.take_follows`).
structure Buffer where
  order : ByteOrder
  consumed : Bytes
  unread : Bytes
  deriving DecidableEq, Repr

-- A step that may fail, and leaves a state behind in either case.
def Reader (σ α : Type) : Type := σ → Except HostError α × σ

namespace Reader

variable {σ α β : Type}

def pure (a : α) : Reader σ α := fun s => (.ok a, s)

def bind (first : Reader σ α) (next : α → Reader σ β) : Reader σ β := fun s =>
  match first s with
  | (.ok a, s) => next a s
  | (.error e, s) => (.error e, s)

def fail (e : HostError) : Reader σ α := fun s => (.error e, s)

instance : Monad (Reader σ) where
  pure := Reader.pure
  bind := Reader.bind

end Reader

namespace Buffer

def empty (order : ByteOrder) : Buffer := ⟨order, [], []⟩

def ofBytes (order : ByteOrder) (bytes : Bytes) : Buffer := ⟨order, [], bytes⟩

def bytes (buffer : Buffer) : Bytes := buffer.consumed.reverse ++ buffer.unread

def cursor (buffer : Buffer) : Nat := buffer.consumed.length

def remaining (buffer : Buffer) : Nat := buffer.unread.length

def append (buffer : Buffer) (bytes : Bytes) : Buffer :=
  { buffer with unread := buffer.unread ++ bytes }

def putU32 (buffer : Buffer) (n : UInt32) : Buffer := buffer.append (buffer.order.encode n)

-- The length is written modulo 2^32 while the bytes are written in full.
def putBytes (buffer : Buffer) (bytes : Bytes) : Buffer :=
  (buffer.putU32 (UInt32.ofNat bytes.length)).append bytes

def putString (buffer : Buffer) (text : String) : Buffer := buffer.putBytes (Utf8.encode text)

def take (count : Nat) : Reader Buffer Bytes := fun buffer =>
  let front := buffer.unread.take count
  if front.length < count then (.error (.underrun count buffer.unread.length), buffer)
  else
    (.ok front,
      { buffer with
        consumed := front.reverse ++ buffer.consumed
        unread := buffer.unread.drop count })

def getU32 : Reader Buffer UInt32 := fun buffer =>
  match take 4 buffer with
  | (.ok bytes, rest) => (.ok (buffer.order.decode bytes), rest)
  | (.error e, rest) => (.error e, rest)

-- The length stays consumed when the bytes it announces are not there.
def getBytes : Reader Buffer Bytes := do
  let length ← getU32
  take length.toNat

-- The bytes stay consumed when they are not UTF-8.
def getString : Reader Buffer String := do
  let bytes ← getBytes
  match Utf8.text? bytes with
  | some text => return text
  | none => .fail .invalidName

end Buffer
end RecordBridge
