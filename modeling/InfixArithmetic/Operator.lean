/-!
# Operators

The five binary operators: their symbols, how tightly they bind the operands
beside them, and what they compute.
-/

namespace InfixArithmetic

/-- A binary arithmetic operator. -/
inductive Operator where
  | add
  | sub
  | mul
  | div
  | pow
deriving DecidableEq

namespace Operator

/-! ## Symbols -/

/-- How the operator is written. -/
def symbol : Operator → String
  | add => "+"
  | sub => "-"
  | mul => "*"
  | div => "/"
  | pow => "**"

/-- The number of characters of the symbol. -/
def width : Operator → Nat
  | pow => 2
  | _ => 1

/-- The operator at the head of a text and what follows its symbol.  Two stars
are one operator, so a run of stars is cut into pairs from the left. -/
def read? : List Char → Option (Operator × List Char)
  | '+' :: rest => some (add, rest)
  | '-' :: rest => some (sub, rest)
  | '*' :: '*' :: rest => some (pow, rest)
  | '*' :: rest => some (mul, rest)
  | '/' :: rest => some (div, rest)
  | _ => none

/-- The operator that is written in exactly this way. -/
def ofSymbol? (text : String) : Option Operator :=
  match read? text.toList with
  | some (op, []) => some op
  | _ => none

/-- The width counts the characters of the symbol. -/
theorem length_symbol (op : Operator) : op.symbol.toList.length = op.width := by
  cases op <;> rfl

/-- A read operator is the head of the text, and the rest follows its symbol. -/
theorem eq_symbol_append_of_read? {text rest : List Char} {op : Operator}
    (h : read? text = some (op, rest)) : text = op.symbol.toList ++ rest := by
  unfold read? at h
  split at h <;> simp only [Option.some.injEq, Prod.mk.injEq, reduceCtorEq] at h
  all_goals
    obtain ⟨rfl, rfl⟩ := h
    rfl

/-- Reading an operator takes the characters of its symbol. -/
theorem length_of_read? {text rest : List Char} {op : Operator}
    (h : read? text = some (op, rest)) : text.length = op.width + rest.length := by
  rw [eq_symbol_append_of_read? h, List.length_append, length_symbol]

/-- Every operator takes at least one character. -/
theorem width_pos (op : Operator) : 0 < op.width := by
  cases op <;> decide

@[simp]
theorem ofSymbol?_symbol (op : Operator) : ofSymbol? op.symbol = some op := by
  cases op <;> rfl

/-! ## Binding -/

/-- How tightly the operator binds the operand on its left. -/
def leftPower : Operator → Nat
  | add | sub => 1
  | mul | div => 3
  | pow => 6

/-- How tightly the operator binds the operand on its right.  It exceeds the left
power for the operators that group to the left, and falls short of it for powers,
which group to the right. -/
def rightPower : Operator → Nat
  | add | sub => 2
  | mul | div => 4
  | pow => 5

/-- Whether an operator that is still waiting for its right operand takes the
operand that stands between it and the next operator. -/
def bindsBefore (waiting next : Operator) : Bool :=
  next.leftPower < waiting.rightPower

/-! ## Computing -/

/-- The operation in double precision.  Division by zero gives an infinity or no
number, never a fault. -/
def apply : Operator → Float → Float → Float
  | add, a, b => a + b
  | sub, a, b => a - b
  | mul, a, b => a * b
  | div, a, b => a / b
  | pow, a, b => a.pow b

end Operator

end InfixArithmetic
