import RecordBridge.Guest.Repr
import RecordBridge.Unicode.Decimal

namespace RecordBridge.Guest.Numeral

-- Blanks around a number, a sign, digits of any script, and single underscores between digits. In bytes there
-- is ASCII only.
def isBlank (c : Nat) : Bool := (9 ≤ c && c ≤ 13) || c = 0x20

def digit? (c : Nat) : Option Nat := if 0x30 ≤ c && c ≤ 0x39 then some (c - 0x30) else none

def underscore : Nat := 0x5f

-- ASCII codes that read like the text. A character that belongs in no number ends it with a code that
-- belongs in none either.
def asciiCodes : Text → List Nat
  | [] => []
  | p :: rest =>
    if p.val < 0x7f then p.val :: asciiCodes rest
    else if Unicode.isWideBlank p.val then 0x20 :: asciiCodes rest
    else match Unicode.digit? p.val with
      | some d => (0x30 + d) :: asciiCodes rest
      | none => [0x3f]

structure Digits where
  values : List Nat
  rest : List Nat

-- Digits with single underscores between them, the ones already read last first. `owed` says that a
-- digit has to come next, as it has to at the start and after an underscore.
def digits (read : List Nat) (owed : Bool) : List Nat → Option Digits
  | [] => if owed then none else some ⟨read.reverse, []⟩
  | c :: rest =>
    match digit? c with
    | some d => digits (d :: read) false rest
    | none =>
      if owed then none
      else if c = underscore then digits read true rest
      else some ⟨read.reverse, c :: rest⟩

def decimal (values : List Nat) : Nat := values.foldl (fun n d => n * 10 + d) 0

inductive Outcome where
  | number (n : Int)
  | invalid
  | tooLong (count : Nat)
  deriving DecidableEq, Repr

def sign : List Nat → Int × List Nat
  | 0x2d :: rest => (-1, rest)
  | 0x2b :: rest => (1, rest)
  | codes => (1, codes)

def read (codes : List Nat) : Outcome :=
  let signed := sign (codes.dropWhile isBlank)
  match digits [] true signed.2 with
  | none => .invalid
  | some d =>
    if Repr.maxDigits < d.values.length then .tooLong d.values.length
    else if d.rest.all isBlank then .number (signed.1 * decimal d.values)
    else .invalid

-- As much of a refused text, or of its quoted form, as a message shows.
def maxShown : Nat := 200

-- `shown` is the form in which a refused text is quoted.
def finish (shown : Text) : Outcome → Except Raised Int
  | .number n => .ok n
  | .invalid => .error (.native "ValueError"
      ("invalid literal for int() with base 10: " ++ Text.lossy (shown.take maxShown)))
  | .tooLong count => .error (.native "ValueError"
      (s!"Exceeds the limit ({Repr.maxDigits} digits) for integer string conversion: " ++
        s!"value has {count} digits; use sys.set_int_max_str_digits() to increase the limit"))

def ofText (text : Text) : Except Raised Int :=
  finish (Repr.text text) (read (asciiCodes text))

-- Bytes are cut before they are quoted as well, so that what is cut off has no say in the quote.
def ofBytes (data : Bytes) : Except Raised Int :=
  finish (Repr.bytes (data.take maxShown)) (read (data.map (·.toNat)))

-- The parts of a number in decimal notation, each as the values of its digits.
structure Notation where
  whole : List Nat
  fraction : List Nat
  exponent : Int

def digitValues (codes : List Nat) : List Nat := codes.filterMap digit?

def isDigit (c : Nat) : Bool := (digit? c).isSome

-- Takes out underscores that stand between two digits; any other spoils the number.
def joinDigits (before : Bool) : List Nat → Option (List Nat)
  | [] => some []
  | c :: rest =>
    if c = underscore then
      if before && (rest.head?.map isDigit).getD false then joinDigits false rest else none
    else (joinDigits (isDigit c) rest).map (c :: ·)

def exponent? : List Nat → Option Int
  | [] => some 0
  | mark :: rest =>
    let signed := sign rest
    if (mark = 0x65 || mark = 0x45) && !signed.2.isEmpty && signed.2.all isDigit then
      some (signed.1 * decimal (digitValues signed.2))
    else none

def notation? (codes : List Nat) : Option Notation :=
  let whole := codes.takeWhile isDigit
  let rest := codes.drop whole.length
  let point := rest.head? = some 0x2e
  let fraction := if point then rest.tail.takeWhile isDigit else []
  let after := if point then rest.tail.drop fraction.length else rest
  if whole.isEmpty && fraction.isEmpty then none
  else (exponent? after).map fun exponent => ⟨digitValues whole, digitValues fraction, exponent⟩

-- The decimal exponents outside of which every number is zero or infinite.
def exponentBound : Int := 400

def infinity : UInt64 := 0x7FF0000000000000

def Notation.nearest (n : Notation) : UInt64 :=
  let digits := n.whole ++ n.fraction
  let mantissa := decimal digits
  let size : Int := (digits.dropWhile (· = 0)).length
  let scale := n.exponent - n.fraction.length
  if mantissa = 0 || size + scale < -exponentBound then 0
  else if exponentBound < size + scale then infinity
  else (Float.ofScientific mantissa (scale < 0) scale.natAbs).toBits

def lowerCode (c : Nat) : Nat := if 0x41 ≤ c && c ≤ 0x5a then c + 0x20 else c

def word? (codes : List Nat) : Option UInt64 :=
  match String.ofList (codes.map fun c => Char.ofNat (lowerCode c)) with
  | "nan" => some 0x7FF8000000000000
  | "inf" | "infinity" => some infinity
  | _ => none

-- The double that a text stands for, the nearest there is.
def double? (text : Text) : Option UInt64 :=
  let codes := (asciiCodes text).dropWhile isBlank
  let signed := sign (codes.reverse.dropWhile isBlank).reverse
  let signBit : UInt64 := if signed.1 < 0 then 0x8000000000000000 else 0
  ((word? signed.2).or (((joinDigits false signed.2).bind notation?).map Notation.nearest)).map
    (· ||| signBit)

end RecordBridge.Guest.Numeral
