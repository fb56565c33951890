namespace BindStream

/-! The shortest decimal that stands for a number given with the interval around it. -/

/-- The number `digits · 10 ^ exponent`. -/
structure Decimal where
  digits : Nat
  exponent : Int
  deriving DecidableEq, Repr

namespace Decimal

/-- A positive number and the ends of the interval that rounds to it, as numerators over one
`unit`. -/
structure Target where
  low : Nat
  value : Nat
  high : Nat
  unit : Nat
  /-- Whether the ends round to the number too. -/
  closed : Bool
  deriving DecidableEq, Repr

/-- The target in units of `10 ^ exponent`. -/
def Target.scaled (target : Target) (exponent : Int) : Target :=
  let up := Nat.pow 10 (-exponent).toNat
  { target with
    low := target.low * up
    value := target.value * up
    high := target.high * up
    unit := target.unit * Nat.pow 10 exponent.toNat }

def Target.admits (target : Target) (n : Nat) : Bool :=
  if target.closed then target.low ≤ n * target.unit && n * target.unit ≤ target.high
  else target.low < n * target.unit && n * target.unit < target.high

/-- The whole number in the interval that is nearest to the value; of two as near, the greater. -/
def Target.nearest? (target : Target) : Option Nat :=
  let below := target.value / target.unit
  let above := below + 1
  match target.admits below, target.admits above with
  | false, false => none
  | true, false => some below
  | false, true => some above
  | true, true =>
    let down := target.value - below * target.unit
    let up := above * target.unit - target.value
    if down < up then some below else some above

def digitCount (n : Nat) : Nat := (Nat.toDigits 10 n).length

def Target.leading (target : Target) : Int :=
  if target.unit ≤ target.value then digitCount (target.value / target.unit) - 1
  else -(digitCount ((target.unit - 1) / target.value) : Int)

/-- The nearest decimal of `count` digits in the interval. -/
def Target.ofDigits? (target : Target) (count : Nat) : Option Decimal :=
  let exponent := target.leading + 1 - count
  ((target.scaled exponent).nearest?).map fun digits => ⟨digits, exponent⟩

/-- The decimal of the fewest digits in the interval, of at most `limit` digits. -/
def Target.shortest? (target : Target) (limit : Nat) : Option Decimal :=
  (List.range limit).findSome? fun n => target.ofDigits? (n + 1)

/-- The decimal in positional notation, without zeros at the end of a fraction. -/
def positional (decimal : Decimal) : String :=
  let digits := Nat.toDigits 10 decimal.digits
  if 0 ≤ decimal.exponent then
    String.ofList (digits ++ List.replicate decimal.exponent.toNat '0')
  else
    let places := (-decimal.exponent).toNat
    let padded := List.replicate (places + 1 - digits.length) '0' ++ digits
    let whole := padded.take (padded.length - places)
    let fraction := padded.drop (padded.length - places)
    let kept := (fraction.reverse.dropWhile (· == '0')).reverse
    String.ofList (if kept.isEmpty then whole else whole ++ '.' :: kept)

end Decimal

end BindStream
