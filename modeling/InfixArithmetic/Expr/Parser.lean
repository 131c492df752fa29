import InfixArithmetic.Expr.Basic
import InfixArithmetic.Fault
import InfixArithmetic.Machine

/-!
# From tokens to expressions

Operands and operators alternate.  The parser keeps two stacks: the finished
operands, and the operators that still wait for their right operand.  A waiting
operator is combined with the two topmost operands as soon as the next operator
binds less tightly than it does, and at the end of the expression.

Main results:

- `Parser.machine`: parsing as a step machine that always ends.
- `Expr.parse`: the one expression that a list of tokens forms, or why it forms
  none.
-/

namespace InfixArithmetic
namespace Parser

/-- What has to come next. -/
inductive Due where
  | operand
  | operator
deriving DecidableEq

/-- How far the parser has come: the finished operands and the waiting operators,
both newest first, the token read last, and the tokens still to be read. -/
structure State where
  due : Due
  operands : List Expr
  waiting : List Operator
  last : Option Token
  rest : List Token

/-- The parser before it has read anything. -/
def State.start (tokens : List Token) : State where
  due := .operand
  operands := []
  waiting := []
  last := none
  rest := tokens

/-- The position right after the token read last, or the first position. -/
def State.here (s : State) : Span :=
  match s.last with
  | some token => token.span.after
  | none => .single 0

/-- Puts a literal on the operand stack. -/
def State.pushOperand (s : State) (value : Literal) (span : Span) (rest : List Token) : State :=
  { s with
    due := .operator
    operands := .literal value span :: s.operands
    last := some (.number value span)
    rest }

/-- Lets an operator wait for its right operand. -/
def State.pushOperator (s : State) (op : Operator) (span : Span) (rest : List Token) : State :=
  { s with
    due := .operand
    waiting := op :: s.waiting
    last := some (.operator op span)
    rest }

/-- Combines the operator that waited last with the two topmost operands.  If one
of the three is missing, the others are dropped. -/
def State.combine (s : State) : State :=
  match s.waiting, s.operands with
  | op :: waiting, right :: left :: operands =>
    { s with waiting, operands := .join op left right :: operands }
  | waiting, operands =>
    { s with waiting := waiting.drop 1, operands := operands.drop 2 }

/-- What a complete expression amounts to: it is the result if nothing follows
it, and otherwise everything that follows is at fault. -/
def State.finish (s : State) : Except GrammarFault Expr :=
  match s.operands with
  | [] => .error (.unexpectedEnd s.here)
  | e :: _ =>
    match s.rest with
    | [] => .ok e
    | token :: rest =>
      .error (.trailingInput (.cover token.span (rest.getLastD token).span))

/-- Reads one token or combines one waiting operator.  A number that follows an
operand ends the expression just as the end of the tokens does. -/
def step (s : State) : Move State (Except GrammarFault Expr) :=
  match s.due, s.rest with
  | .operand, [] => .done (.error (.unexpectedEnd s.here))
  | .operand, .number value span :: rest => .next (s.pushOperand value span rest)
  | .operand, .operator op span :: _ => .done (.error (.unexpectedToken (.operator op span)))
  | .operator, .operator op span :: rest =>
    match s.waiting with
    | [] => .next (s.pushOperator op span rest)
    | top :: _ => if top.bindsBefore op then .next s.combine else .next (s.pushOperator op span rest)
  | .operator, _ =>
    match s.waiting with
    | [] => .done s.finish
    | _ :: _ => .next s.combine

/-! ## The machine -/

/-- The unread tokens count twice, because reading an operator lets it wait. -/
def rank (s : State) : Nat :=
  2 * s.rest.length + s.waiting.length

/-- Combining takes the newest operator off the waiting ones. -/
theorem waiting_combine (s : State) : s.combine.waiting = s.waiting.drop 1 := by
  unfold State.combine
  split
  next h _ => simp [h]
  next => rfl

/-- Combining reads no token. -/
theorem rest_combine (s : State) : s.combine.rest = s.rest := by
  unfold State.combine
  split <;> rfl

/-- Combining is progress when an operator waits. -/
theorem rank_combine_lt {s : State} (h : s.waiting ≠ []) : rank s.combine < rank s := by
  have positive : 0 < s.waiting.length := List.length_pos_iff.mpr h
  simp only [rank, rest_combine, waiting_combine, List.length_drop]
  omega

/-- Every move is progress. -/
theorem rank_lt_of_step {s t : State} (h : step s = .next t) : rank t < rank s := by
  unfold step at h
  split at h
  next => cases h
  next value span rest _ hrest =>
    cases h
    simp only [rank, State.pushOperand, hrest, List.length_cons]
    omega
  next => cases h
  next op span rest _ hrest =>
    have shift : rank (s.pushOperator op span rest) < rank s := by
      simp only [rank, State.pushOperator, hrest, List.length_cons]
      omega
    split at h
    next =>
      cases h
      exact shift
    next top below hwaiting =>
      split at h
      next =>
        cases h
        exact rank_combine_lt (by simp [hwaiting])
      next =>
        cases h
        exact shift
  next =>
    split at h
    next => cases h
    next top below hwaiting =>
      cases h
      exact rank_combine_lt (by simp [hwaiting])

/-- The parser as a step machine. -/
def machine : Machine State (Except GrammarFault Expr) where
  step := step
  rank := rank
  rank_lt := rank_lt_of_step

end Parser

/-- The expression that all the tokens together form, or why they form none. -/
def Expr.parse (tokens : List Token) : Except GrammarFault Expr :=
  Parser.machine.run (.start tokens)

end InfixArithmetic
