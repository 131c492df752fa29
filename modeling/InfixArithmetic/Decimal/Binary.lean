/-!
# Binary floating-point numbers, taken apart

A double-precision number is a sign and a whole significand times a power of two,
or one of the special values.  Text is produced from this form, in exact whole
number arithmetic.
-/

namespace InfixArithmetic
namespace Decimal

/-- A double-precision number by its parts.  A finite number has the magnitude
`significand * 2 ^ exponent`. -/
inductive Binary where
  | notANumber
  | infinite (negative : Bool)
  | finite (negative : Bool) (significand : Nat) (exponent : Int)
deriving DecidableEq

namespace Binary

/-- The number of bits that the format stores of a significand. -/
def fractionBits : Nat := 52

/-- The exponent of the smallest numbers, which have no implicit leading bit. -/
def leastExponent : Int := -1074

/-- Reads the sign, the eleven exponent bits and the fraction of a 64-bit word. -/
def ofBits (bits : Nat) : Binary :=
  let negative := bits / Nat.pow 2 63 % 2 == 1
  let field := bits / Nat.pow 2 fractionBits % Nat.pow 2 11
  let fraction := bits % Nat.pow 2 fractionBits
  if field == Nat.pow 2 11 - 1 then
    if fraction == 0 then .infinite negative else .notANumber
  else if field == 0 then
    .finite negative fraction leastExponent
  else
    .finite negative (Nat.pow 2 fractionBits + fraction) (leastExponent + (field - 1 : Nat))

/-- The parts of a floating-point number. -/
def ofFloat (x : Float) : Binary :=
  ofBits x.toBits.toNat

end Binary

end Decimal
end InfixArithmetic
