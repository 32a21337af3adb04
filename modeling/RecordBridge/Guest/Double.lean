import RecordBridge.Decimal.Shortest

namespace RecordBridge.Guest.Double

-- The points between which positional form is used, the lower one excluded, and the least number of
-- digits of a written exponent.
structure Layout where
  above : Int
  upTo : Int
  exponentWidth : Nat

def layout : Layout := ⟨-4, 16, 2⟩

def isNegative (bits : UInt64) : Bool := 0x8000000000000000 ≤ bits

-- The fraction is a field of 52 bits.
def fractionUnits : Nat := 0x10000000000000

def exponentField (bits : UInt64) : Nat := bits.toNat / fractionUnits % 2048

def fraction (bits : UInt64) : Nat := bits.toNat % fractionUnits

def isZero (bits : UInt64) : Bool := exponentField bits = 0 && fraction bits = 0

def binary (bits : UInt64) : Decimal.Binary :=
  let e := exponentField bits
  let f := fraction bits
  if e = 0 then ⟨f, -1074, false⟩ else ⟨fractionUnits + f, (e : Int) - 1075, f = 0 && 1 < e⟩

def digitText (digits : List Nat) : String :=
  String.ofList (digits.map fun d => Char.ofNat (0x30 + d))

def zeros (n : Nat) : String := String.ofList (List.replicate n '0')

def positional (d : Decimal.Digits) : String :=
  if d.point ≤ 0 then "0." ++ zeros (-d.point).toNat ++ digitText d.digits
  else
    let places := d.point.toNat
    if d.digits.length ≤ places then digitText d.digits ++ zeros (places - d.digits.length) ++ ".0"
    else digitText (d.digits.take places) ++ "." ++ digitText (d.digits.drop places)

def scientific (d : Decimal.Digits) : String :=
  let exponent := d.point - 1
  let head := digitText (d.digits.take 1)
  let tail := digitText (d.digits.drop 1)
  let mark := if exponent < 0 then "e-" else "e+"
  let size := toString exponent.natAbs
  head ++ (if tail.isEmpty then "" else "." ++ tail) ++ mark ++
    zeros (layout.exponentWidth - size.length) ++ size

def magnitude (bits : UInt64) : String :=
  if isZero bits then "0.0"
  else
    let d := (binary bits).shortest
    if layout.above < d.point && d.point ≤ layout.upTo then positional d else scientific d

def repr (bits : UInt64) : String :=
  if exponentField bits = 2047 && fraction bits ≠ 0 then "nan"
  else
    let sign := if isNegative bits then "-" else ""
    if exponentField bits = 2047 then sign ++ "inf" else sign ++ magnitude bits

end RecordBridge.Guest.Double
