import InfixArithmetic.Span

/-!
# Source lines

A text is shown line by line.  Each line owns the positions of its characters and
one more: that of the newline that ends it, or, on the last line, the position
right after the text.  So every position up to the end of the text belongs to one
line.
-/

namespace InfixArithmetic

/-- One line of a text: its number, counted from one, the positions it owns and
the characters that are shown of it. -/
structure SourceLine where
  number : Nat
  span : Span
  text : List Char
deriving DecidableEq

namespace SourceLine

/-- A line as it is shown: without the carriage return that may stand before the
newline. -/
def shown (raw : List Char) : List Char :=
  if raw.getLast? = some '\r' then raw.dropLast else raw

/-- Numbers and places the lines of a text, given the number and the start of the
first one. -/
def place (number start : Nat) : List (List Char) → List SourceLine
  | [] => []
  | raw :: more =>
    let stop := start + raw.length + 1
    ⟨number, ⟨start, stop⟩, shown raw⟩ :: place (number + 1) stop more

/-- The lines of a text.  Even the empty text has one. -/
def ofText (text : List Char) : List SourceLine :=
  place 1 0 (text.splitOn '\n')

/-- The part of a span that lies on the line, counted from the start of the line. -/
def clip (line : SourceLine) (s : Span) : Span :=
  ⟨s.start - line.span.start, min s.stop line.span.stop - line.span.start⟩

/-- The spans that meet the line, in the given order, each cut down to it. -/
def clips (line : SourceLine) (spans : List Span) : List Span :=
  (spans.filter fun s => s.meets line.span).map line.clip

end SourceLine

end InfixArithmetic
