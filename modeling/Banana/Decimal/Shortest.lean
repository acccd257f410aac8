/-
This file chooses the decimal digits that stand for a binary floating-point value: the fewest
digits that read back as the same value, and among those the ones nearest to it. All of it is
exact arithmetic on natural numbers. A value is `mantissa * 2 ^ exponent`; the numbers that round
to it fill an interval around it whose ends belong to it exactly when the mantissa is even. For
one, two, … seventeen digits the two neighbours of the value on that decimal grid are tried, and
the first grid with a neighbour inside the interval decides.
-/

namespace Banana.Decimal

/-- A positive decimal number: `coefficient * 10 ^ exponent`. -/
structure Digits where
  coefficient : Nat
  exponent : Int
  deriving DecidableEq

/-- A value and the ends of the interval that rounds to it, all over one denominator. -/
structure Interval where
  low : Nat
  value : Nat
  high : Nat
  denominator : Nat
  closed : Bool

/-- The interval around `mantissa * 2 ^ exponent`. Below a power of two the neighbour is only half
as far away as above it, except at the smallest exponent. -/
def Interval.around (mantissa : Nat) (exponent : Int) (narrowBelow : Bool) : Interval :=
  let quarter := exponent - 2
  let scale := Nat.pow 2 quarter.toNat
  { low := (4 * mantissa - if narrowBelow then 1 else 2) * scale
    value := 4 * mantissa * scale
    high := (4 * mantissa + 2) * scale
    denominator := Nat.pow 2 (-quarter).toNat
    closed := mantissa % 2 == 0 }

/-- The interval measured in units of a power of ten. -/
def Interval.inUnits (interval : Interval) (exponent : Int) : Interval :=
  let factor := Nat.pow 10 (-exponent).toNat
  { low := interval.low * factor
    value := interval.value * factor
    high := interval.high * factor
    denominator := interval.denominator * Nat.pow 10 exponent.toNat
    closed := interval.closed }

/-- Whether a whole number of units lies in the interval. -/
def Interval.admits (interval : Interval) (units : Nat) : Bool :=
  let point := units * interval.denominator
  if interval.closed then
    interval.low ≤ point && point ≤ interval.high
  else
    interval.low < point && point < interval.high

/-- The whole number of units nearest to the value among its two neighbours in the interval; of
two equally near ones the even one. -/
def Interval.nearestUnits? (interval : Interval) : Option Nat :=
  let below := interval.value / interval.denominator
  let above := below + 1
  match interval.admits below, interval.admits above with
  | false, false => none
  | true, false => some below
  | false, true => some above
  | true, true =>
    let toBelow := interval.value - below * interval.denominator
    let toAbove := above * interval.denominator - interval.value
    if toBelow < toAbove || (toBelow == toAbove && below % 2 == 0) then some below else some above

/-- The power of ten of the first digit of the value. -/
def Interval.magnitude (interval : Interval) : Int :=
  if interval.denominator ≤ interval.value then
    ((Nat.toDigits 10 (interval.value / interval.denominator)).length : Int) - 1
  else
    match (List.range 400).find? fun places =>
        interval.denominator ≤ interval.value * Nat.pow 10 places with
    | some places => -(places : Int)
    | none => 0

/-- The fewest digits, at most seventeen, that lie in the interval. Seventeen are always enough for
a value of 53 bits; what is left for other values is not zero either. -/
def Interval.shortest (interval : Interval) : Digits :=
  let magnitude := interval.magnitude
  let grid (digits : Nat) : Option Digits :=
    let exponent := magnitude - digits
    (interval.inUnits exponent).nearestUnits?.map (⟨·, exponent⟩)
  match (List.range 17).findSome? grid with
  | some digits => digits
  | none => ⟨interval.value / interval.denominator + 1, 0⟩

end Banana.Decimal
