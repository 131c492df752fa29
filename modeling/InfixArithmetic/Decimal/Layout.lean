import InfixArithmetic.Decimal.Shortest

/-!
# Layouts of floating-point text

Results are written positionally, however long that makes them, without a point
if they are whole.  The journal writes the literals that are too large to be kept
exactly with an exponent.
-/

namespace InfixArithmetic
namespace Decimal

/-- The given number of zeros. -/
def zeros (count : Nat) : List Char :=
  List.replicate count '0'

/-- Every digit in its place: zeros fill the places up to the point, and a number
below one starts with a zero. -/
def Scaled.positional (d : Scaled) : List Char :=
  let digits := Nat.toDigits 10 d.coefficient
  let places := (-d.exponent).toNat
  if 0 ≤ d.exponent then
    digits ++ zeros d.exponent.toNat
  else if places < digits.length then
    digits.take (digits.length - places) ++ '.' :: digits.drop (digits.length - places)
  else
    '0' :: '.' :: zeros (places - digits.length) ++ digits

/-- One digit before the point, the others after it, then the power of ten. -/
def Scaled.scientific (d : Scaled) : List Char :=
  let digits := Nat.toDigits 10 d.coefficient
  let power := (toString (d.exponent + (digits.length - 1 : Nat))).toList
  match digits with
  | [] => []
  | [digit] => digit :: 'e' :: power
  | first :: others => first :: '.' :: others ++ 'e' :: power

/-- A minus sign in front of a negative number. -/
def signed (negative : Bool) (unsigned : String) : String :=
  if negative then "-" ++ unsigned else unsigned

/-- Writes a number, given the layout of its digits.  Zero keeps its sign. -/
def Binary.text (layout : Scaled → List Char) : Binary → String
  | .notANumber => "NaN"
  | .infinite negative => signed negative "inf"
  | .finite negative significand exponent =>
    signed negative <|
      if significand = 0 then "0" else String.ofList (layout (shortest significand exponent))

/-- The shortest positional text of a number that reads back as the number. -/
def positional (x : Float) : String :=
  (Binary.ofFloat x).text Scaled.positional

/-- The shortest text with an exponent that reads back as the number. -/
def scientific (x : Float) : String :=
  (Binary.ofFloat x).text Scaled.scientific

end Decimal
end InfixArithmetic
