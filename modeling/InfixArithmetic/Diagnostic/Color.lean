/-!
# Colors

Terminal colors for the marks, the margin and the messages.
-/

namespace InfixArithmetic

/-- The colors that output is painted in. -/
inductive Color where
  | red
  | blue
deriving DecidableEq

namespace Color

/-- The escape sequence that switches a terminal to the bold, bright color. -/
def escape : Color → String
  | red => "\x1b[1;91m"
  | blue => "\x1b[1;94m"

/-- The escape sequence that switches back to plain text. -/
def reset : String :=
  "\x1b[0m"

/-- A text in a color. -/
def paint (color : Color) (text : String) : String :=
  color.escape ++ text ++ reset

end Color

end InfixArithmetic
