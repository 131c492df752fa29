import InfixArithmetic.Expr.Basic
import InfixArithmetic.Machine

/-!
# Printing

An expression is written with parentheses around every operation.  As with
evaluation, a list of pieces still to be written stands in for recursion.

Main results:

- `Printer.machine`: printing as a step machine that always ends.
- `Expr.print`: the fully parenthesized text of an expression.
-/

namespace InfixArithmetic
namespace Printer

/-- What is still to be written: an expression, an operator between its operands,
or the parenthesis that ends an operation. -/
inductive Piece where
  | visit (e : Expr)
  | operator (op : Operator)
  | close

/-- The pieces still to be written, next one first, and the text so far. -/
structure State where
  pieces : List Piece
  written : String

/-- Printing of an expression before its first step. -/
def State.start (e : Expr) : State where
  pieces := [.visit e]
  written := ""

/-- Writes the next piece, or opens an operation and lists its pieces. -/
def step (s : State) : Move State String :=
  match s.pieces with
  | [] => .done s.written
  | .visit (.literal v _) :: pieces => .next ⟨pieces, s.written ++ v.text⟩
  | .visit (.binary op _ left right) :: pieces =>
    .next ⟨.visit left :: .operator op :: .visit right :: .close :: pieces, s.written ++ "("⟩
  | .operator op :: pieces => .next ⟨pieces, s.written ++ " " ++ op.symbol ++ " "⟩
  | .close :: pieces => .next ⟨pieces, s.written ++ ")"⟩

/-! ## The machine -/

/-- The number of steps that writing an expression takes. -/
def steps : Expr → Nat
  | .literal _ _ => 1
  | .binary _ _ left right => steps left + steps right + 3

/-- The number of steps that a piece takes. -/
def Piece.steps : Piece → Nat
  | .visit e => Printer.steps e
  | .operator _ => 1
  | .close => 1

/-- The number of steps left. -/
def rank (s : State) : Nat :=
  s.pieces.foldr (fun piece total => piece.steps + total) 0

/-- Every step leaves fewer steps to take. -/
theorem rank_lt_of_step {s t : State} (h : step s = .next t) : rank t < rank s := by
  unfold step at h
  split at h
  next => cases h
  next hs =>
    cases h
    simp [rank, hs, Piece.steps, steps]
  next hs =>
    cases h
    simp only [rank, hs, List.foldr_cons, Piece.steps, steps]
    omega
  next hs =>
    cases h
    simp [rank, hs, Piece.steps]
  next hs =>
    cases h
    simp [rank, hs, Piece.steps]

/-- The printer as a step machine. -/
def machine : Machine State String where
  step := step
  rank := rank
  rank_lt := rank_lt_of_step

end Printer

/-- The text of an expression with parentheses around every operation. -/
def Expr.print (e : Expr) : String :=
  Printer.machine.run (.start e)

end InfixArithmetic
