import InfixArithmetic.Expr.Evaluator
import InfixArithmetic.Proofs.Grammar

/-!
# What expressions evaluate to

Evaluation takes its steps with a list of tasks and a stack of values.  No step changes the
value that the tasks are going to leave on the stack, so the steps work out the value that is
given by recursion.  For an expression that the grammar derives this is the value of its
chain of literals: the shape of the expression shows nowhere else.

Main results:

- `Evaluator.yields_of_step`: every step keeps the value that the tasks yield.
- `Expr.evaluate_eq_value`: evaluation gives the value by recursion.
- `Expr.evaluation_ends_with_value`: evaluation ends with one value, and on the way no
  operator lacks an operand.
- `Grammar.Derives.value_eq_total`: a derived expression is worth what its chain of
  literals amounts to.
-/

namespace InfixArithmetic

/-! ## The states of an evaluation -/

namespace Evaluator

/-- Performing the tasks on the values leaves one value and nothing else, and whenever an
operator is applied its two operands are there. -/
inductive Yields : List Task → List Float → Float → Prop where
  | done (x : Float) : Yields [] [x] x
  | visit (e : Expr) {tasks : List Task} {values : List Float} {x : Float} :
      Yields tasks (e.value :: values) x → Yields (.visit e :: tasks) values x
  | apply (op : Operator) (left right : Float) {tasks : List Task} {below : List Float}
      {x : Float} : Yields tasks (op.apply left right :: below) x →
      Yields (.apply op :: tasks) (right :: left :: below) x

variable {s t : State} {values : List Float} {x : Float}

/-- Without tasks there is just the value. -/
theorem Yields.eq_singleton (h : Yields [] values x) : values = [x] := by
  cases h with
  | done => rfl

/-- An operator that is next finds its operands, the right one on top. -/
theorem Yields.exists_operands {op : Operator} {tasks : List Task}
    (h : Yields (.apply op :: tasks) values x) :
    ∃ right left below, values = right :: left :: below := by
  cases h with
  | apply _ left right => exact ⟨right, left, _, rfl⟩

/-- Every step keeps the value that the tasks yield. -/
theorem yields_of_step (h : Yields s.tasks s.values x) (hstep : step s = .next t) :
    Yields t.tasks t.values x := by
  rcases s with ⟨tasks, values⟩
  cases h with
  | done => cases hstep
  | visit e hrest =>
    cases e with
    | literal v place =>
      cases hstep
      exact hrest
    | binary op place left right =>
      -- The operator comes when both operands are on the stack, above what was there before.
      cases hstep
      exact .visit left (.visit right (.apply op left.value right.value hrest))
  | apply op left right hrest =>
    cases hstep
    exact hrest

/-- In every state of an evaluation the tasks yield the value of the expression. -/
theorem yields_of_reaches {e : Expr} (h : machine.Reaches (.start e) s) :
    Yields s.tasks s.values e.value := by
  apply h.invariant
  · exact .visit e (.done e.value)
  · exact yields_of_step

/-- In no state of an evaluation does the operator that is next lack an operand. -/
theorem exists_operands_of_reaches {e : Expr} {op : Operator} {tasks : List Task}
    (h : machine.Reaches (.start e) s) (htasks : s.tasks = .apply op :: tasks) :
    ∃ right left below, s.values = right :: left :: below := by
  have hyields := yields_of_reaches h
  rw [htasks] at hyields
  exact hyields.exists_operands

/-- Once nothing is left to do, the value of the expression is all that there is. -/
theorem values_eq_of_reaches {e : Expr} (h : machine.Reaches (.start e) s)
    (htasks : s.tasks = []) : s.values = [e.value] := by
  have hyields := yields_of_reaches h
  rw [htasks] at hyields
  exact hyields.eq_singleton

/-- A result is delivered when no task is left, and it is the value on top of the stack. -/
theorem eq_of_step_done (h : step s = .done x) :
    s.tasks = [] ∧ x = s.values.headD (0.0 / 0.0) := by
  unfold step at h
  split at h
  next hs =>
    cases h
    exact ⟨hs, rfl⟩
  all_goals cases h

/-- Every evaluation comes to a state in which nothing is left to do and the value of the
expression is the only one on the stack. -/
theorem exists_last (e : Expr) :
    ∃ s, machine.Reaches (.start e) s ∧ s.tasks = [] ∧ s.values = [e.value] ∧
      machine.step s = .done e.value := by
  have hstart : machine.Reaches (.start e) (.start e) := .refl
  obtain ⟨s, hreach, hdone⟩ := hstart.exists_done
  obtain ⟨htasks, hresult⟩ := eq_of_step_done hdone
  have hvalues : s.values = [e.value] := values_eq_of_reaches hreach htasks
  refine ⟨s, hreach, htasks, hvalues, ?_⟩
  rw [hdone, hresult, hvalues, List.headD_cons]

end Evaluator

/-- Evaluation gives the value of the expression. -/
theorem Expr.evaluate_eq_value (e : Expr) : e.evaluate = e.value := by
  obtain ⟨s, hreach, _, _, hdone⟩ := Evaluator.exists_last e
  rw [Expr.evaluate, hreach.run_eq, Machine.run_done hdone]

/-- Evaluation ends, and with the value by recursion as the only value on the stack.  In no
state on the way does an operator lack an operand, nor does the evaluation end without a
value. -/
theorem Expr.evaluation_ends_with_value (e : Expr) :
    e.evaluate = e.value ∧
      (∃ s, Evaluator.machine.Reaches (.start e) s ∧ s.tasks = [] ∧ s.values = [e.value] ∧
        Evaluator.machine.step s = .done e.value) ∧
      ∀ s, Evaluator.machine.Reaches (.start e) s →
        (∀ op tasks, s.tasks = .apply op :: tasks →
          ∃ right left below, s.values = right :: left :: below) ∧
        (s.tasks = [] → s.values = [e.value]) := by
  refine ⟨e.evaluate_eq_value, Evaluator.exists_last e, ?_⟩
  intro s hreach
  constructor
  · intro op tasks htasks
    exact Evaluator.exists_operands_of_reaches hreach htasks
  · intro htasks
    exact Evaluator.values_eq_of_reaches hreach htasks

/-! ## The values of derived expressions -/

@[simp]
theorem Expr.value_spanning (op : Operator) (left right : Expr) :
    (Expr.spanning op left right).value = op.apply left.value right.value :=
  rfl

/-- The values of the literals of an expression with the operators between them. -/
def Expr.floats (e : Expr) : Chain Float :=
  e.chain.map fun leaf => leaf.1.toFloat

@[simp]
theorem Expr.floats_literal (v : Literal) (s : Span) :
    (Expr.literal v s).floats = .single v.toFloat :=
  rfl

@[simp]
theorem Expr.floats_spanning (op : Operator) (left right : Expr) :
    (Expr.spanning op left right).floats = left.floats.link op right.floats := by
  simp [floats, spanning, chain]

namespace Grammar

variable {ts : List Token} {level : Level} {e : Expr}

/-- The operators between the values are those that the level admits. -/
theorem Derives.admits_floats (h : Derives level ts e) :
    ∀ op ∈ e.floats.operators, level.admits op := by
  rw [Expr.floats, Chain.operators_map]
  exact h.admits

/-- What a chain amounts to when it is read as an expression of a level. -/
def amount (f : Operator → Float → Float → Float) : Level → Chain Float → Float
  | .power => Chain.factor f
  | .product => Chain.term f
  | .sum => Chain.total f

/-- A derived expression is worth what its chain amounts to on its level. -/
theorem Derives.value_eq_amount (h : Derives level ts e) :
    e.value = amount Operator.apply level e.floats := by
  induction h with
  | literal => rfl
  | @raise v s _ _ right _ ih =>
    have hchain : (Expr.spanning .pow (.literal v s) right).floats =
        (Chain.single v.toFloat).link .pow right.floats := by simp
    rw [hchain, amount, Chain.factor_single_link, Expr.value_spanning, ih]
    rfl
  | factor hpower ih =>
    rw [ih]
    exact (Chain.term_eq_factor hpower.admits_floats).symm
  | scale hop _ _ hright ihLeft ihRight =>
    rw [Expr.floats_spanning, amount, Chain.term_link hop hright.admits_floats,
      Expr.value_spanning, ihLeft, ihRight]
    rfl
  | term hproduct ih =>
    rw [ih]
    exact (Chain.total_eq_term hproduct.admits_floats).symm
  | offset hop _ _ hright ihLeft ihRight =>
    rw [Expr.floats_spanning, amount, Chain.total_link hop hright.admits_floats,
      Expr.value_spanning, ihLeft, ihRight]
    rfl

/-- A derived expression is worth what its chain of literals amounts to. -/
theorem Derives.value_eq_total (h : Derives .sum ts e) :
    e.value = e.floats.total Operator.apply :=
  h.value_eq_amount

end Grammar

end InfixArithmetic
