namespace RecordBridge

abbrev Bytes := List UInt8

namespace Utf8

-- Why a part of a byte string belongs to no character.
inductive Fault where
  | invalidStart
  | invalidContinuation
  | unexpectedEnd
  deriving DecidableEq, Repr

-- A character, or a maximal part that no character starts with.
inductive Piece where
  | char (c : Char)
  | illFormed (fault : Fault) (part : Bytes)
  deriving DecidableEq, Repr

-- Inside a character: the bytes of it so far, how many are still owed, the range of the next one
-- (only the second byte of a character has a range of its own), and the bits so far.
structure Open where
  part : Bytes
  owed : Nat
  low : Nat
  high : Nat
  bits : Nat
  deriving DecidableEq, Repr

inductive State where
  | between
  | inside (sequence : Open)
  deriving DecidableEq, Repr

-- What the first byte of a character longer than one byte says about the rest of it.
def lead? (b : UInt8) : Option Open :=
  let n := b.toNat
  if 0xC2 ≤ n ∧ n ≤ 0xDF then some ⟨[b], 1, 0x80, 0xBF, n - 0xC0⟩
  else if n = 0xE0 then some ⟨[b], 2, 0xA0, 0xBF, 0⟩
  else if n = 0xED then some ⟨[b], 2, 0x80, 0x9F, 0xD⟩
  else if 0xE1 ≤ n ∧ n ≤ 0xEF then some ⟨[b], 2, 0x80, 0xBF, n - 0xE0⟩
  else if n = 0xF0 then some ⟨[b], 3, 0x90, 0xBF, 0⟩
  else if 0xF1 ≤ n ∧ n ≤ 0xF3 then some ⟨[b], 3, 0x80, 0xBF, n - 0xF0⟩
  else if n = 0xF4 then some ⟨[b], 3, 0x80, 0x8F, 4⟩
  else none

def start (b : UInt8) : List Piece × State :=
  if b.toNat < 0x80 then ([.char (Char.ofNat b.toNat)], .between)
  else match lead? b with
    | some sequence => ([], .inside sequence)
    | none => ([.illFormed .invalidStart [b]], .between)

def Open.bitsWith (sequence : Open) (b : UInt8) : Nat :=
  sequence.bits * 64 + (b.toNat - 0x80)

-- A byte that cannot continue the open character ends it, and may itself start the next one.
def step : State → UInt8 → List Piece × State
  | .between, b => start b
  | .inside sequence, b =>
    if sequence.low ≤ b.toNat ∧ b.toNat ≤ sequence.high then
      if sequence.owed ≤ 1 then ([.char (Char.ofNat (sequence.bitsWith b))], .between)
      else ([], .inside ⟨sequence.part ++ [b], sequence.owed - 1, 0x80, 0xBF, sequence.bitsWith b⟩)
    else
      let next := start b
      (.illFormed .invalidContinuation sequence.part :: next.1, next.2)

def finish : State → List Piece
  | .between => []
  | .inside sequence => [.illFormed .unexpectedEnd sequence.part]

def scanFrom : State → Bytes → List Piece
  | state, [] => finish state
  | state, b :: rest =>
    let next := step state b
    next.1 ++ scanFrom next.2 rest

def scan (bytes : Bytes) : List Piece := scanFrom .between bytes

-- In arithmetic on the code point, so that it is plainly the inverse of what `step` adds up.
def encodeChar (c : Char) : Bytes :=
  let n := c.toNat
  if n < 0x80 then [UInt8.ofNat n]
  else if n < 0x800 then [UInt8.ofNat (0xC0 + n / 64), UInt8.ofNat (0x80 + n % 64)]
  else if n < 0x10000 then
    [UInt8.ofNat (0xE0 + n / 4096), UInt8.ofNat (0x80 + n / 64 % 64), UInt8.ofNat (0x80 + n % 64)]
  else
    [UInt8.ofNat (0xF0 + n / 262144), UInt8.ofNat (0x80 + n / 4096 % 64),
      UInt8.ofNat (0x80 + n / 64 % 64), UInt8.ofNat (0x80 + n % 64)]

def encodeChars (cs : List Char) : Bytes := cs.flatMap encodeChar

def encode (text : String) : Bytes := encodeChars text.toList

-- The first part of a byte string that is not UTF-8.
structure Malformed where
  fault : Fault
  offset : Nat
  part : Bytes
  deriving DecidableEq, Repr

def charsFrom (offset : Nat) : List Piece → Except Malformed (List Char)
  | [] => .ok []
  | .char c :: rest => (charsFrom (offset + (encodeChar c).length) rest).map (c :: ·)
  | .illFormed fault part :: _ => .error ⟨fault, offset, part⟩

-- Strict reading: every byte belongs to a character, or the first fault is the answer.
def chars (bytes : Bytes) : Except Malformed (List Char) := charsFrom 0 (scan bytes)

def text? (bytes : Bytes) : Option String := (chars bytes).toOption.map String.ofList

def replacement : Char := Char.ofNat 0xFFFD

def Piece.lossyChar : Piece → Char
  | .char c => c
  | .illFormed _ _ => replacement

-- Lossy reading: one replacement character for every ill-formed part.
def lossyChars (bytes : Bytes) : List Char := (scan bytes).map Piece.lossyChar

def lossy (bytes : Bytes) : String := String.ofList (lossyChars bytes)

end Utf8
end RecordBridge
