import InfixArithmetic.Decimal.Binary

/-!
# The shortest decimal that reads back

A finite binary number has a whole interval of reals that round to it.  Its text
is the decimal with the fewest digits in that interval; among those with equally
few digits it is the one nearest to the number, and of two at the same distance
the larger.

The search goes through ever finer decimal grids.  If a grid has any point in the
interval then one of the two grid points around the number lies in it, so testing
those two is enough.  All tests are made on whole numbers.
-/

namespace InfixArithmetic
namespace Decimal

/-- The decimal number `coefficient * 10 ^ exponent`. -/
structure Scaled where
  coefficient : Nat
  exponent : Int
deriving DecidableEq

/-- The reals that round to a number, as multiples of a quarter of its last
binary place: those between `low` and `high`, with the ends if `closed`. -/
structure Interval where
  low : Nat
  high : Nat
  closed : Bool

namespace Interval

/-- The reals that round to `significand * 2 ^ exponent`.  The neighbour below a
power of two is only half as far away as the one above, and a tie goes to an even
significand. -/
def around (significand : Nat) (exponent : Int) : Interval where
  low :=
    if significand == Nat.pow 2 Binary.fractionBits && Binary.leastExponent < exponent then
      4 * significand - 1
    else
      4 * significand - 2
  high := 4 * significand + 2
  closed := significand % 2 == 0

/-- Whether `point / scale` lies in the interval. -/
def holds (i : Interval) (point scale : Nat) : Bool :=
  if i.closed then
    i.low * scale ≤ point && point ≤ i.high * scale
  else
    i.low * scale < point && point < i.high * scale

end Interval

/-- The number of decimal places after the point that the smallest number needs
to show its first digit. -/
def leastPlaces : Nat := 324

/-- The exponent `e` with `10 ^ (e - 1) ≤ significand * 2 ^ exponent < 10 ^ e`. -/
def magnitude (significand : Nat) (exponent : Int) : Int :=
  let scaled :=
    significand * Nat.pow 2 exponent.toNat * Nat.pow 10 leastPlaces / Nat.pow 2 (-exponent).toNat
  (Nat.toDigits 10 scaled).length - leastPlaces

/-- The point of the grid of multiples of `10 ^ grid` that stands for
`significand * 2 ^ exponent`, if the grid has one among the reals that round to
that number. -/
def onGrid (significand : Nat) (exponent grid : Int) : Option Scaled :=
  -- In units of `10 ^ grid`, a quarter of the last binary place is `top / bottom`.
  let quarter := exponent - 2
  let top := Nat.pow 2 quarter.toNat * Nat.pow 10 (-grid).toNat
  let bottom := Nat.pow 2 (-quarter).toNat * Nat.pow 10 grid.toNat
  let interval := Interval.around significand exponent
  let value := 4 * significand * top
  let below := value / bottom
  let above := below + 1
  match interval.holds (below * bottom) top, interval.holds (above * bottom) top with
  | true, true =>
    if value - below * bottom < above * bottom - value then some ⟨below, grid⟩
    else some ⟨above, grid⟩
  | true, false => some ⟨below, grid⟩
  | false, true => some ⟨above, grid⟩
  | false, false => none

/-- The exact decimal value of `significand * 2 ^ exponent`. -/
def expansion (significand : Nat) (exponent : Int) : Scaled :=
  ⟨significand * Nat.pow 2 exponent.toNat * Nat.pow 5 (-exponent).toNat, min exponent 0⟩

/-- The most digits that a double-precision number ever needs. -/
def mostDigits : Nat := 17

/-- The decimal with the fewest digits that reads back as
`significand * 2 ^ exponent`, for a positive significand. -/
def shortest (significand : Nat) (exponent : Int) : Scaled :=
  let top := magnitude significand exponent
  let grids := (List.range (mostDigits + 1)).map fun (digits : Nat) => top - digits
  (grids.findSome? (onGrid significand exponent)).getD (expansion significand exponent)

end Decimal
end InfixArithmetic
