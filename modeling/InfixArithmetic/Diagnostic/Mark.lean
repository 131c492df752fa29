import InfixArithmetic.Diagnostic.Color
import InfixArithmetic.Span
import InfixArithmetic.Text.ColumnWidth

/-!
# Marks below a line

The spans on a line are marked by carets below it.  The line is read only once,
from left to right: a span takes the characters up to its end that no earlier
span has taken.  A span with nothing left to underline, as past the end of the
line, still gets one caret.
-/

namespace InfixArithmetic

/-- A group of carets and the blank columns in front of it. -/
structure Mark where
  indent : Nat
  carets : Nat
deriving DecidableEq

namespace Mark

/-- The marks of the given spans, with `unread` the characters of the line that
start at `position`.  Their columns are counted by a table of widths. -/
def placeFrom (width : Char → Option Nat) (position : Nat) (unread : List Char) :
    List Span → List Mark
  | [] => []
  | s :: more =>
    let gap := s.start - position
    let start := max position s.start
    let body := unread.drop gap
    let length := s.stop - start
    ⟨Text.columns width (unread.take gap), max 1 (Text.columns width (body.take length))⟩ ::
      placeFrom width (max start s.stop) (body.drop length) more

/-- The marks of the given spans, which count from the start of the line. -/
def place (width : Char → Option Nat) (line : List Char) (spans : List Span) : List Mark :=
  placeFrom width 0 line spans

/-- The blank columns in front of the carets. -/
def space (m : Mark) : String :=
  String.ofList (List.replicate m.indent ' ')

/-- The carets alone. -/
def underline (m : Mark) : String :=
  String.ofList (List.replicate m.carets '^')

/-- A mark with its carets in color. -/
def text (color : Color) (m : Mark) : String :=
  m.space ++ color.paint m.underline

/-- Every span gets one mark. -/
theorem length_placeFrom (width : Char → Option Nat) (position : Nat) (unread : List Char)
    (spans : List Span) : (placeFrom width position unread spans).length = spans.length := by
  induction spans generalizing position unread with
  | nil => rfl
  | cons s more ih => simp [placeFrom, ih]

end Mark

end InfixArithmetic
