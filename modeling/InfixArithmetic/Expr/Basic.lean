import InfixArithmetic.Token.Basic

/-!
# Expressions

An expression is a literal or an operator with two operands.  Every node carries
the span of the text it was read from.

Main results:

- `Expr.value` and `Expr.text`: the meaning and the written form of an
  expression, by recursion on its structure.
- `Expr.ofPostorder?_postorder`: an expression is determined by its nodes in
  postorder.
-/

namespace InfixArithmetic

/-- An arithmetic expression with the spans of all its parts. -/
inductive Expr where
  | literal (value : Literal) (span : Span)
  | binary (op : Operator) (span : Span) (left right : Expr)
deriving BEq

namespace Expr

/-- Where the expression stands. -/
def span : Expr → Span
  | literal _ s => s
  | binary _ s _ _ => s

/-- An operator with its operands, standing where the two stand together. -/
def join (op : Operator) (left right : Expr) : Expr :=
  .binary op (.cover left.span right.span) left right

@[simp]
theorem span_literal (value : Literal) (s : Span) : (literal value s).span = s :=
  rfl

@[simp]
theorem span_binary (op : Operator) (s : Span) (left right : Expr) :
    (binary op s left right).span = s :=
  rfl

@[simp]
theorem span_join (op : Operator) (left right : Expr) :
    (join op left right).span = .cover left.span right.span :=
  rfl

/-! ## Meaning and written form -/

/-- The value of an expression: operands first, then the operation. -/
def value : Expr → Float
  | literal v _ => v.toFloat
  | binary op _ left right => op.apply left.value right.value

/-- An expression with parentheses around every operation, so that the grouping
is visible. -/
def text : Expr → String
  | literal v _ => v.text
  | binary op _ left right => "(" ++ left.text ++ " " ++ op.symbol ++ " " ++ right.text ++ ")"

/-! ## Postorder -/

/-- The nodes of an expression, operands before their operator, followed by
`after`.  A literal is listed as a number and an operation as its operator with the
span of the whole operation. -/
def postorderOnto (after : List Token) : Expr → List Token
  | literal v s => .number v s :: after
  | binary op s left right =>
    left.postorderOnto (right.postorderOnto (.operator op s :: after))

/-- The nodes of an expression in postorder. -/
def postorder (e : Expr) : List Token :=
  e.postorderOnto []

/-- Takes one node of a postorder list to a stack of finished expressions, newest
first.  An operator needs two operands on the stack. -/
def pushNode (stack : List Expr) : Token → Option (List Expr)
  | .number v s => some (.literal v s :: stack)
  | .operator op s =>
    match stack with
    | right :: left :: below => some (.binary op s left right :: below)
    | _ => none

/-- The expression with the given nodes in postorder, if they form exactly one. -/
def ofPostorder? (nodes : List Token) : Option Expr :=
  match nodes.foldlM pushNode [] with
  | some [e] => some e
  | _ => none

/-- Reading the nodes of an expression puts it on top of the stack. -/
theorem foldlM_pushNode_postorderOnto (e : Expr) (after : List Token) (stack : List Expr) :
    (e.postorderOnto after).foldlM pushNode stack = after.foldlM pushNode (e :: stack) := by
  induction e generalizing after stack with
  | literal v s => rfl
  | binary op s left right ihLeft ihRight =>
    rw [postorderOnto, ihLeft, ihRight]
    rfl

/-- An expression is recovered from its nodes. -/
@[simp]
theorem ofPostorder?_postorder (e : Expr) : ofPostorder? e.postorder = some e := by
  rw [ofPostorder?, postorder, foldlM_pushNode_postorderOnto]
  rfl

end Expr

end InfixArithmetic
