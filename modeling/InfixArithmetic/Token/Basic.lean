import InfixArithmetic.Literal
import InfixArithmetic.Operator
import InfixArithmetic.Span

/-!
# Tokens

The smallest meaningful pieces of an expression: numbers and operators, each with
the span of the text it was written in.
-/

namespace InfixArithmetic

/-- A number or an operator with its place in the text. -/
inductive Token where
  | number (value : Literal) (span : Span)
  | operator (op : Operator) (span : Span)
deriving BEq

namespace Token

/-- Where the token stands. -/
def span : Token → Span
  | number _ s => s
  | operator _ s => s

/-- The token as it is shown to the user: a number by its value, not by the
digits it was written with. -/
def text : Token → String
  | number value _ => value.text
  | operator op _ => op.symbol

end Token

end InfixArithmetic
