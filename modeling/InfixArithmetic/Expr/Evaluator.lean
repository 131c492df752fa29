import InfixArithmetic.Expr.Basic
import InfixArithmetic.Machine

/-!
# Evaluation

Expressions can be nested as deeply as the text is long, so they are evaluated
with a list of tasks and a stack of values in place of recursion.

Main results:

- `Evaluator.machine`: evaluation as a step machine that always ends.
- `Expr.evaluate`: the value of an expression.
-/

namespace InfixArithmetic
namespace Evaluator

/-- What is still to be done: work out an expression, or apply an operator to the
two newest values. -/
inductive Task where
  | visit (e : Expr)
  | apply (op : Operator)

/-- The open tasks, next one first, and the values worked out, newest first. -/
structure State where
  tasks : List Task
  values : List Float

/-- Evaluation of an expression before its first step. -/
def State.start (e : Expr) : State where
  tasks := [.visit e]
  values := []

/-- Applies an operator to the two newest values, the newest being its right
operand.  With fewer than two values nothing is left of them. -/
def applyTop (op : Operator) : List Float → List Float
  | right :: left :: below => op.apply left right :: below
  | _ => []

/-- Performs the next task.  The result is the newest value, or not a number if
there is none. -/
def step (s : State) : Move State Float :=
  match s.tasks with
  | [] => .done (s.values.headD (0.0 / 0.0))
  | .visit (.literal v _) :: tasks => .next ⟨tasks, v.toFloat :: s.values⟩
  | .visit (.binary op _ left right) :: tasks =>
    .next ⟨.visit left :: .visit right :: .apply op :: tasks, s.values⟩
  | .apply op :: tasks => .next ⟨tasks, applyTop op s.values⟩

/-! ## The machine -/

/-- The number of steps that working out an expression takes. -/
def steps : Expr → Nat
  | .literal _ _ => 1
  | .binary _ _ left right => steps left + steps right + 2

/-- The number of steps that a task takes. -/
def Task.steps : Task → Nat
  | .visit e => Evaluator.steps e
  | .apply _ => 1

/-- The number of steps left. -/
def rank (s : State) : Nat :=
  s.tasks.foldr (fun task total => task.steps + total) 0

/-- Every step leaves fewer steps to take. -/
theorem rank_lt_of_step {s t : State} (h : step s = .next t) : rank t < rank s := by
  unfold step at h
  split at h
  next => cases h
  next hs =>
    cases h
    simp [rank, hs, Task.steps, steps]
  next hs =>
    cases h
    simp only [rank, hs, List.foldr_cons, Task.steps, steps]
    omega
  next hs =>
    cases h
    simp [rank, hs, Task.steps]

/-- The evaluator as a step machine. -/
def machine : Machine State Float where
  step := step
  rank := rank
  rank_lt := rank_lt_of_step

end Evaluator

/-- The value of an expression in double precision. -/
def Expr.evaluate (e : Expr) : Float :=
  Evaluator.machine.run (.start e)

end InfixArithmetic
