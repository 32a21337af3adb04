namespace RecordBridge.Decimal

-- The number is `significand * 2^exponent`. What rounds to it is an interval around it, with its ends if the
-- significand is even; of the decimals with the fewest digits in there the nearest to the number is taken.
structure Binary where
  significand : Nat
  exponent : Int
  -- The gap below is half the gap above: the significand is the least of its binade.
  narrowBelow : Bool

-- A decimal in the form `0.d₁d₂d₃… * 10^point`.
structure Digits where
  digits : List Nat
  point : Int
  deriving DecidableEq, Repr

def decimalDigits (n : Nat) : List Nat := (Nat.toDigits 10 n).map fun c => c.toNat - 0x30

def powerUp (base : Nat) (exponent : Int) : Nat := Nat.pow base exponent.toNat

def powerDown (base : Nat) (exponent : Int) : Nat := Nat.pow base (-exponent).toNat

-- The value in quarters of the last binary place, as a fraction.
def Binary.numerator (b : Binary) (quarters : Nat) : Nat := quarters * powerUp 2 b.exponent

def Binary.denominator (b : Binary) : Nat := 4 * powerDown 2 b.exponent

-- The exponent `k` with `10^(k-1) ≤ value < 10^k`.
def Binary.point (b : Binary) : Int :=
  let top := b.numerator (4 * b.significand)
  let bottom := b.denominator
  let guess : Int := (decimalDigits top).length - (decimalDigits bottom).length
  if bottom * powerUp 10 guess ≤ top * powerDown 10 guess then guess + 1 else guess

-- Whether `n` units of `10^place` round to the value.
def Binary.admits (b : Binary) (place : Int) (n : Nat) : Bool :=
  let scaled := fun quarters => b.numerator quarters * powerDown 10 place
  let mark := n * b.denominator * powerUp 10 place
  let low := scaled (4 * b.significand - (if b.narrowBelow then 1 else 2))
  let high := scaled (4 * b.significand + 2)
  if b.significand % 2 = 0 then low ≤ mark && mark ≤ high else low < mark && mark < high

-- The best of the value's two neighbours on the grid of `10^place`, if one of them is admitted.
def Binary.onGrid (b : Binary) (place : Int) : Option Nat :=
  let top := b.numerator (4 * b.significand) * powerDown 10 place
  let unit := b.denominator * powerUp 10 place
  let below := top / unit
  let excess := top % unit
  let nearer := if 2 * excess < unit || (2 * excess = unit && below % 2 = 0) then below else below + 1
  let farther := if nearer = below then below + 1 else below
  if b.admits place nearer then some nearer
  else if b.admits place farther then some farther
  else none

-- `n` units of the last of `count` places. Rounding up may have carried into a further digit.
def Digits.ofUnits (point : Int) (count n : Nat) : Digits :=
  let digits := decimalDigits n
  ⟨digits, point + digits.length - count⟩

-- Tries `count` digits, then one more, as often as `more` allows.
def Binary.search (b : Binary) (point : Int) (count : Nat) : Nat → Digits
  | 0 => .ofUnits point count ((b.onGrid (point - count)).getD 0)
  | more + 1 =>
    match b.onGrid (point - count) with
    | some n => .ofUnits point count n
    | none => b.search point (count + 1) more

def dropTrailingZeros (digits : List Nat) : List Nat :=
  (digits.reverse.dropWhile (· = 0)).reverse

-- Seventeen digits are always enough for a double.
def Binary.shortest (b : Binary) : Digits :=
  let found := b.search b.point 1 16
  { found with digits := dropTrailingZeros found.digits }

end RecordBridge.Decimal
