import BindStream.Decimal.Shortest

namespace BindStream

/-! Binary floating-point numbers of 64 bits. -/

structure Binary64 where
  bits : UInt64
  deriving DecidableEq, Repr

namespace Binary64

def isNegative (x : Binary64) : Bool := Nat.pow 2 63 ≤ x.bits.toNat

def exponentField (x : Binary64) : Nat := x.bits.toNat / Nat.pow 2 52 % Nat.pow 2 11

def fractionField (x : Binary64) : Nat := x.bits.toNat % Nat.pow 2 52

def isNaN (x : Binary64) : Bool := x.exponentField == 2047 && x.fractionField != 0

def isInfinite (x : Binary64) : Bool := x.exponentField == 2047 && x.fractionField == 0

def isZero (x : Binary64) : Bool := x.exponentField == 0 && x.fractionField == 0

/-- Equality of numbers: the two zeros are equal, and not-a-number equals nothing. -/
def sameNumber (x y : Binary64) : Bool :=
  !x.isNaN && !y.isNaN && (x == y || x.isZero && y.isZero)

/-- The magnitude of a finite number is `significand · 2 ^ (scale - 1074)`. -/
def significand (x : Binary64) : Nat :=
  if x.exponentField = 0 then x.fractionField else Nat.pow 2 52 + x.fractionField

def scale (x : Binary64) : Nat := x.exponentField - 1

/-- The magnitude of a finite number that is not zero, in quarters of the distance to the next
one: the interval reaches half way to either neighbour, and the one below a power of two is half
as far. Numbers with an even significand take both ends. -/
def target (x : Binary64) : Decimal.Target :=
  let step := Nat.pow 2 x.scale
  let below := if x.fractionField = 0 ∧ 1 < x.exponentField then 1 else 2
  { low := (4 * x.significand - below) * step
    value := 4 * x.significand * step
    high := (4 * x.significand + 2) * step
    unit := Nat.pow 2 1076
    closed := x.significand % 2 = 0 }

/-- Seventeen digits tell all numbers apart. -/
def digitLimit : Nat := 17

def magnitudeText (x : Binary64) : String :=
  if x.isInfinite then "inf"
  else if x.isZero then "0"
  else ((x.target.shortest? digitLimit).map Decimal.positional).getD ""

/-- The fewest digits that read back as the number, never with an exponent. -/
def display (x : Binary64) : String :=
  if x.isNaN then "NaN"
  else if x.isNegative then "-" ++ x.magnitudeText
  else x.magnitudeText

end Binary64

end BindStream
