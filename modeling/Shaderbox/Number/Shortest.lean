/-!
# The shortest decimal that reads back

A finite positive single-precision number is `mantissa · 2 ^ exponent`. The reals that round to it
form an interval around it, which contains its ends exactly when the mantissa is even. For one,
two, … digits the number's two neighbours on that decimal grid are tried in exact integer
arithmetic: the first grid with a neighbour in the interval wins, of two neighbours the nearer
one, and the upper one when both are equally near.
-/

namespace Shaderbox.Number

/-- A positive binary number, and whether it is the least of its binade, below which the gap to the
next number is only half as wide. -/
structure Binary where
  mantissa : Nat
  exponent : Int
  leastOfBinade : Bool
deriving DecidableEq

/-- A decimal number `digits · 10 ^ exponent`. -/
structure Decimal where
  digits : Nat
  exponent : Int
deriving DecidableEq

/-- A positive binary number and the bounds of its rounding interval over a common denominator. -/
structure Interval where
  low : Nat
  value : Nat
  high : Nat
  denominator : Nat
  closed : Bool

namespace Binary

/-- The rounding interval of a number. A quarter of the unit in the last place is a whole number
over this denominator. -/
def interval (x : Binary) : Interval :=
  let scale := Nat.pow 2 x.exponent.toNat
  let below := if x.leastOfBinade then 1 else 2
  { low := (4 * x.mantissa - below) * scale
    value := 4 * x.mantissa * scale
    high := (4 * x.mantissa + 2) * scale
    denominator := 4 * Nat.pow 2 (-x.exponent).toNat
    closed := x.mantissa % 2 == 0 }

end Binary

namespace Interval

/-- Whether `digits · 10 ^ exponent` lies in the interval. -/
def contains (range : Interval) (x : Decimal) : Bool :=
  let left := x.digits * Nat.pow 10 x.exponent.toNat * range.denominator
  let scale := Nat.pow 10 (-x.exponent).toNat
  if range.closed then range.low * scale ≤ left && left ≤ range.high * scale
  else range.low * scale < left && left < range.high * scale

/-- The largest multiple of `10 ^ exponent` that is not above the value. -/
def below (range : Interval) (exponent : Int) : Decimal :=
  let unit := range.denominator * Nat.pow 10 exponent.toNat
  ⟨range.value * Nat.pow 10 (-exponent).toNat / unit, exponent⟩

/-- Whether the upper of two adjacent multiples is at least as near to the value. -/
def upperIsNearer (range : Interval) (lower : Decimal) : Bool :=
  let scale := Nat.pow 10 (-lower.exponent).toNat
  let unit := range.denominator * Nat.pow 10 lower.exponent.toNat
  unit ≤ 2 * (range.value * scale - lower.digits * unit)

/-- The neighbour of the value on the grid of `10 ^ exponent` that reads back, if any. -/
def neighbour? (range : Interval) (exponent : Int) : Option Decimal :=
  let lower := range.below exponent
  let upper := Decimal.mk (lower.digits + 1) exponent
  match range.contains lower, range.contains upper with
  | true, true => some (if range.upperIsNearer lower then upper else lower)
  | true, false => some lower
  | false, true => some upper
  | false, false => none

/-- The exponent of the value's leading digit, looked for between two bounds. -/
def leadingExponent (range : Interval) (greatest : Int) (count : Nat) : Int :=
  let reaches := fun offset : Nat =>
    let exponent := greatest - offset
    range.denominator * Nat.pow 10 exponent.toNat ≤ range.value * Nat.pow 10 (-exponent).toNat
  greatest - ((List.range count).find? reaches).getD count

end Interval

/-- Drop the zeros at the end of the digits, at most as many as given. -/
def Decimal.trim : Nat → Decimal → Decimal
  | 0, x => x
  | count + 1, x =>
    if x.digits ≠ 0 ∧ x.digits % 10 = 0 then trim count ⟨x.digits / 10, x.exponent + 1⟩ else x

/-- The shortest decimal in the rounding interval of a single-precision number, without zeros at its
end. Nine digits always suffice. -/
def Binary.shortest (x : Binary) : Decimal :=
  let range := x.interval
  let leading := range.leadingExponent 38 84
  let candidates := (List.range 9).filterMap fun more : Nat => range.neighbour? (leading - more)
  (candidates.head?.getD (range.below (leading - 8))).trim 9

end Shaderbox.Number
