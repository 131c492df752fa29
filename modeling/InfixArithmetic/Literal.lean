import InfixArithmetic.Decimal.Layout

/-!
# Number literals

A literal is a run of decimal digits.  As long as its value fits into 64 bits it
is kept exactly; a larger value is rounded to double precision at once.
-/

namespace InfixArithmetic

/-- The value of a number literal. -/
inductive Literal where
  | whole (value : UInt64)
  | rounded (value : Float)
deriving BEq

namespace Literal

/-- The literal for a natural number: exact below `2 ^ 64`, and otherwise the
nearest double-precision number, infinity if there is none so large. -/
def ofNat (n : Nat) : Literal :=
  if h : n < UInt64.size then .whole (UInt64.ofNatLT n h) else .rounded (Float.ofNat n)

/-- Reads a run of decimal digits, with or without leading zeros.  Any other
character makes it no literal. -/
def read? (word : List Char) : Option Literal :=
  if word.all Char.isDigit then some (ofNat (Nat.ofDigitChars 10 word 0)) else none

/-- The value to calculate with. -/
def toFloat : Literal → Float
  | .whole n => n.toFloat
  | .rounded x => x

/-- The digits of the value. -/
def text : Literal → String
  | .whole n => Nat.repr n.toNat
  | .rounded x => Decimal.positional x

/-- Every run of digits is a literal, and nothing else is. -/
theorem read?_isSome_iff {word : List Char} :
    (read? word).isSome = true ↔ ∀ c ∈ word, c.isDigit = true := by
  simp [read?]

end Literal

end InfixArithmetic
