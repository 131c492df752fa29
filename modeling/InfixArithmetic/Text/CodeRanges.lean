/-!
# Sets of characters given by code point ranges

The character classes of the calculator come from the Unicode character
database, where they are listed as ranges of code points.
-/

namespace InfixArithmetic
namespace Text

/-- A set of characters, as a list of inclusive ranges of code points. -/
structure CodeRanges where
  ranges : List (Nat × Nat)

namespace CodeRanges

/-- Whether some range holds the code point of the character. -/
def has (set : CodeRanges) (c : Char) : Bool :=
  set.ranges.any fun range => range.1 ≤ c.toNat && c.toNat ≤ range.2

/-- Membership in the set, stated on code points. -/
theorem has_iff {set : CodeRanges} {c : Char} :
    set.has c = true ↔ ∃ range ∈ set.ranges, range.1 ≤ c.toNat ∧ c.toNat ≤ range.2 := by
  simp [has]

end CodeRanges

end Text
end InfixArithmetic
