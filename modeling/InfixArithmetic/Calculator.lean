import InfixArithmetic.Expr.Evaluator
import InfixArithmetic.Expr.Parser
import InfixArithmetic.Token.Scanner

/-!
# The calculator

From a text to its expression and its value.
-/

namespace InfixArithmetic

/-- The expression that a text stands for, or what is wrong with the text.  A
text is split into tokens completely before they are put together, so a lexical
fault anywhere comes before any fault in the grammar. -/
def Expr.ofText (text : String) : Except Fault Expr :=
  match Token.scan text with
  | .error fault => .error (.lexical fault)
  | .ok tokens =>
    match Expr.parse tokens with
    | .error fault => .error (.grammar fault)
    | .ok e => .ok e

/-- The value of the expression that a text stands for. -/
def calculate (text : String) : Except Fault Float :=
  (Expr.ofText text).map Expr.evaluate

/-- Whether two outcomes agree: both are faults and the faults are equal, or both
are results and the results are equal.  Numbers are compared as numbers, so that
the two zeros are equal and not-a-number differs from itself. -/
def outcomesAgree {Failure Result : Type} [BEq Failure] [BEq Result] :
    Except Failure Result → Except Failure Result → Bool
  | .ok a, .ok b => a == b
  | .error a, .error b => a == b
  | _, _ => false

end InfixArithmetic
