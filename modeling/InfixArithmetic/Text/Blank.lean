import InfixArithmetic.Text.CodeRanges

/-!
# Blank characters

Blanks separate words and have no other meaning.  They are the characters with
the Unicode property `White_Space`, which is wider than the ASCII blanks: it has
the no-break space, the ideographic space and the line separators.
-/

namespace InfixArithmetic
namespace Text

/-- The code points with the Unicode property `White_Space`. -/
def blanks : CodeRanges where
  ranges := [
    (0x9, 0xD), (0x20, 0x20), (0x85, 0x85), (0xA0, 0xA0), (0x1680, 0x1680), (0x2000, 0x200A),
    (0x2028, 0x2029), (0x202F, 0x202F), (0x205F, 0x205F), (0x3000, 0x3000)]

/-- Whether a character only separates words. -/
def isBlank (c : Char) : Bool :=
  blanks.has c

/-- Every ASCII blank is a blank. -/
theorem isBlank_of_isWhitespace {c : Char} (h : c.isWhitespace = true) :
    isBlank c = true := by
  simp only [Char.isWhitespace, Bool.or_eq_true, decide_eq_true_eq] at h
  rcases h with ((rfl | rfl) | rfl) | rfl <;> decide

end Text
end InfixArithmetic
