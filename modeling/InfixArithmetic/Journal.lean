import InfixArithmetic.Calculator
import InfixArithmetic.Expr.Printer
import InfixArithmetic.Text.Quoted

/-!
# The journal of a calculation

A calculation can be followed stage by stage: one entry for the tokens, one for
the expression and one for the value.  A stage that fails leaves no entry, and
the stages after it are not reached.
-/

namespace InfixArithmetic

/-! ## Detailed text of tokens -/

/-- A span with the names of its ends. -/
def Span.detail (s : Span) : String :=
  "Range \x7b start: " ++ Nat.repr s.start ++ ", end: " ++ Nat.repr s.stop ++ " \x7d"

/-- A literal with the way it is kept.  A rounded literal is at least `2 ^ 64`,
so it is written with an exponent. -/
def Literal.detail : Literal → String
  | .whole n => "Int(" ++ Nat.repr n.toNat ++ ")"
  | .rounded x => "Float(" ++ Decimal.scientific x ++ ")"

/-- The name of an operator. -/
def Operator.name : Operator → String
  | add => "Add"
  | sub => "Sub"
  | mul => "Mul"
  | div => "Div"
  | pow => "Pow"

/-- A token with its kind and its place. -/
def Token.detail : Token → String
  | number value s =>
    "Num(Num \x7b val: " ++ value.detail ++ ", range: " ++ s.detail ++ " \x7d)"
  | operator op s =>
    "Op(Op \x7b typ: " ++ op.name ++ ", range: " ++ s.detail ++ " \x7d)"

namespace Journal

/-! ## Entries -/

/-- How much detail an entry belongs to. -/
inductive Level where
  | trace
  | debug
deriving DecidableEq

/-- The name of a level. -/
def Level.name : Level → String
  | trace => "TRACE"
  | debug => "DEBUG"

/-- One entry: its level, the stage it comes from and what happened there. -/
structure Entry where
  level : Level
  stage : String
  message : String
deriving DecidableEq

/-- The entry for a text that has been split into tokens. -/
def scanned (text : String) (tokens : List Token) : Entry where
  level := .trace
  stage := "exprcalc::token"
  message := "tokenized " ++ Text.quote text ++ " into " ++ Nat.repr tokens.length ++
    " tokens: [" ++ ", ".intercalate (tokens.map Token.detail) ++ "]"

/-- The entry for tokens that have been put together. -/
def parsed (tokens : List Token) (e : Expr) : Entry where
  level := .debug
  stage := "exprcalc::parse"
  message := "parsed " ++ Nat.repr tokens.length ++ " tokens into " ++ e.print

/-- The entry for an expression that has been evaluated. -/
def evaluated (text : String) (value : Float) : Entry where
  level := .debug
  stage := "exprcalc"
  message := "evaluated " ++ Text.quote text ++ " to " ++ Decimal.positional value

/-- The entries that the calculation of a text leaves, in order. -/
def entries (text : String) : List Entry :=
  match Token.scan text with
  | .error _ => []
  | .ok tokens =>
    scanned text tokens ::
      match Expr.parse tokens with
      | .error _ => []
      | .ok e => [parsed tokens e, evaluated text e.evaluate]

end Journal

end InfixArithmetic
