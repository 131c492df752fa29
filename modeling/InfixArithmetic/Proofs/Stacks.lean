import InfixArithmetic.Proofs.Turns
import Mathlib.Data.List.Chain

/-!
# The stacks of the parser

While an operator is due, the parser holds one operand more than operators wait.  So an
operator that is combined always finds its two operands, and when no operator waits any more
exactly one expression is left.  Every operator that starts to wait binds more tightly than
the one that waits already, or both are powers, so that at most one operator of each of the
looser levels waits at a time.

Main results:

- `Parser.Nested`: no waiting operator takes the operand before a newer one.
- `Parser.nested_of_step`: every move keeps the waiting operators nested.
- `Parser.Nested.exists_layers`: which operators can wait together.
- `Parser.stacks_of_reaches`: the stacks in every state of a run.
-/

namespace InfixArithmetic

theorem Operator.level_eq_sum_iff {op : Operator} : op.level = .sum ↔ op = .add ∨ op = .sub := by
  cases op <;> decide

theorem Operator.level_eq_product_iff {op : Operator} :
    op.level = .product ↔ op = .mul ∨ op = .div := by
  cases op <;> decide

theorem Operator.level_eq_power_iff {op : Operator} : op.level = .power ↔ op = .pow := by
  cases op <;> decide

namespace Parser

variable {tokens : List Token} {s t : State} {waiting older : List Operator} {op : Operator}
  {r : Except GrammarFault Expr}

/-! ## Operators that wait together -/

/-- Of the waiting operators, the newest of which comes first, none takes the operand before
the next newer one. -/
def Nested (waiting : List Operator) : Prop :=
  waiting.IsChain fun newer older => older.bindsBefore newer = false

/-- An operator that groups to the left waits only behind a looser one. -/
theorem Nested.rank_lt (h : Nested (op :: older)) (hop : op.level ≠ .power) :
    ∀ top ∈ older.head?, op.level.rank < top.level.rank := by
  intro top htop
  have hbinds : top.bindsBefore op = false := (List.isChain_cons.mp h).1 top htop
  rw [Bool.eq_false_iff, Ne, Operator.bindsBefore_iff] at hbinds
  by_contra hnot
  apply hbinds
  rcases Nat.lt_or_eq_of_le (Nat.le_of_not_lt hnot) with hlt | heq
  · exact .inl hlt
  · have hsame : top.level = op.level := Level.rank_injective heq
    exact .inr ⟨heq, by rwa [hsame]⟩

/-- Operators that wait together are powers, at most one product before them and at most one
sum before that. -/
theorem Nested.exists_layers (h : Nested waiting) :
    ∃ (powers : Nat) (product sum : Option Operator),
      waiting = List.replicate powers .pow ++ (product.toList ++ sum.toList) ∧
        (∀ op ∈ product, op.level = .product) ∧ ∀ op ∈ sum, op.level = .sum := by
  induction waiting with
  | nil => exact ⟨0, none, none, rfl, by simp, by simp⟩
  | cons op older ih =>
    rcases ih h.tail with ⟨powers, product, sum, rfl, hproduct, hsum⟩
    cases hlevel : op.level with
    | power =>
      obtain rfl : op = .pow := Operator.level_eq_power_iff.mp hlevel
      exact ⟨powers + 1, product, sum, rfl, hproduct, hsum⟩
    | product =>
      have hlooser := h.rank_lt (by simp [hlevel])
      rw [hlevel] at hlooser
      -- The operator before it is looser, so neither a power nor another product waits.
      match powers, product with
      | 0, none => exact ⟨0, some op, sum, rfl, by simpa using hlevel, hsum⟩
      | 0, some p =>
        have hlt := hlooser p rfl
        rw [hproduct p rfl] at hlt
        exact absurd hlt (Nat.lt_irrefl _)
      | powers + 1, _ => exact absurd (hlooser .pow rfl) (by decide)
    | sum =>
      have hlooser := h.rank_lt (by simp [hlevel])
      rw [hlevel] at hlooser
      -- No operator is looser than a sum, so none waits.
      match powers, product, sum with
      | 0, none, none => exact ⟨0, none, some op, rfl, by simp, by simpa using hlevel⟩
      | 0, none, some q =>
        have hlt := hlooser q rfl
        rw [hsum q rfl] at hlt
        exact absurd hlt (Nat.lt_irrefl _)
      | 0, some p, _ =>
        have hlt := hlooser p rfl
        rw [hproduct p rfl] at hlt
        exact absurd hlt (by decide)
      | powers + 1, _, _ => exact absurd (hlooser .pow rfl) (by decide)

/-- Every move keeps the waiting operators nested. -/
theorem nested_of_step (h : Nested s.waiting) (hstep : step s = .next t) : Nested t.waiting := by
  rcases step_eq_next hstep with ⟨v, span, rest, _, _, rfl⟩ |
    ⟨op, span, rest, _, _, hwait, rfl⟩ | ⟨_, _, rfl⟩
  · exact h
  · exact List.isChain_cons.mpr ⟨hwait, h⟩
  · rw [waiting_combine]
    exact h.drop 1

/-! ## The states of a run -/

/-- In every state of a run the waiting operators are nested. -/
theorem nested_of_reaches (h : machine.Reaches (.start tokens) s) : Nested s.waiting := by
  apply h.invariant
  · exact .nil
  · exact nested_of_step

/-- A step that combines does so where an operator is due and another one waits. -/
theorem due_of_step_eq_combine (h : step s = .next s.combine) :
    s.due = .operator ∧ s.waiting ≠ [] := by
  have hsame := due_combine s
  rcases step_eq_next h with ⟨v, span, rest, hdue, _, heq⟩ |
    ⟨op, span, rest, hdue, _, _, heq⟩ | ⟨hdue, hwaiting, _⟩
  · rw [heq, hdue] at hsame
    cases hsame
  · rw [heq, hdue] at hsame
    cases hsame
  · exact ⟨hdue, hwaiting⟩

/-- A run that ends where an operator is due ends without waiting operators and with one
expression, which is the result unless tokens are left over. -/
theorem operands_of_step_done (hbalanced : Balanced s) (hdue : s.due = .operator)
    (hstep : step s = .done r) :
    s.waiting = [] ∧ (∃ e, s.operands = [e]) ∧ ∀ place, r ≠ .error (.unexpectedEnd place) := by
  rcases step_eq_done hstep with ⟨due, _, _⟩ | ⟨_, _, _, due, _, _⟩ | ⟨_, hwaiting, _, rfl⟩
  · rw [hdue] at due
    cases due
  · rw [hdue] at due
    cases due
  · rcases hbalanced.exists_operands_eq hdue hwaiting with ⟨e, he⟩
    refine ⟨hwaiting, ⟨e, he⟩, ?_⟩
    intro place
    unfold State.finish
    rw [he]
    cases s.rest <;> simp

/-- In every state of a run: where an operator is combined, one waits, there is one operand
more than operators wait, and the combination takes the place of the operator and its two
operands; where the run ends with all operands read, exactly one expression is left, so it
never ends for want of one; and the operators that wait are at most one sum, then at most one
product, and then powers. -/
theorem stacks_of_reaches (h : machine.Reaches (.start tokens) s) :
    (step s = .next s.combine →
      s.operands.length = s.waiting.length + 1 ∧
      ∃ op below right left operands, s.waiting = op :: below ∧
        s.operands = right :: left :: operands ∧
        s.combine =
          { s with waiting := below, operands := .join op left right :: operands }) ∧
    (∀ r, s.due = .operator → step s = .done r →
      s.waiting = [] ∧ (∃ e, s.operands = [e]) ∧ ∀ place, r ≠ .error (.unexpectedEnd place)) ∧
    ∃ (sum product : Option Operator) (powers : Nat),
      s.waiting.reverse = sum.toList ++ product.toList ++ List.replicate powers .pow ∧
        (∀ op ∈ sum, op = .add ∨ op = .sub) ∧ ∀ op ∈ product, op = .mul ∨ op = .div := by
  have hbalanced := balanced_of_reaches h
  refine ⟨?_, ?_, ?_⟩
  · intro hcombine
    rcases due_of_step_eq_combine hcombine with ⟨hdue, hwaiting⟩
    refine ⟨?_, combine_of_balanced hbalanced hdue hwaiting⟩
    rwa [Balanced, hdue] at hbalanced
  · intro r hdue hstep
    exact operands_of_step_done hbalanced hdue hstep
  · rcases (nested_of_reaches h).exists_layers with
      ⟨powers, product, sum, hwaiting, hproduct, hsum⟩
    refine ⟨sum, product, powers, ?_, ?_, ?_⟩
    · rw [hwaiting]
      cases product <;> cases sum <;> simp
    · intro op hop
      exact Operator.level_eq_sum_iff.mp (hsum op hop)
    · intro op hop
      exact Operator.level_eq_product_iff.mp (hproduct op hop)

/-- Before the last power is combined, an operator of every kind waits. -/
theorem stacks_of_reaches_all_levels :
    machine.Reaches (.start [.number (.whole 1) ⟨0, 1⟩, .operator .sub ⟨1, 2⟩,
        .number (.whole 2) ⟨2, 3⟩, .operator .mul ⟨3, 4⟩, .number (.whole 3) ⟨4, 5⟩,
        .operator .pow ⟨5, 7⟩, .number (.whole 4) ⟨7, 8⟩])
      ⟨.operator, [.literal (.whole 4) ⟨7, 8⟩, .literal (.whole 3) ⟨4, 5⟩,
        .literal (.whole 2) ⟨2, 3⟩, .literal (.whole 1) ⟨0, 1⟩], [.pow, .mul, .sub],
        some (.number (.whole 4) ⟨7, 8⟩), []⟩ ∧
      ∃ (sum product : Option Operator) (powers : Nat),
        [.sub, .mul, .pow] = sum.toList ++ product.toList ++ List.replicate powers .pow ∧
          (∀ op ∈ sum, op = .add ∨ op = .sub) ∧ ∀ op ∈ product, op = .mul ∨ op = .div := by
  have hreach : machine.Reaches (.start [.number (.whole 1) ⟨0, 1⟩, .operator .sub ⟨1, 2⟩,
        .number (.whole 2) ⟨2, 3⟩, .operator .mul ⟨3, 4⟩, .number (.whole 3) ⟨4, 5⟩,
        .operator .pow ⟨5, 7⟩, .number (.whole 4) ⟨7, 8⟩])
      ⟨.operator, [.literal (.whole 4) ⟨7, 8⟩, .literal (.whole 3) ⟨4, 5⟩,
        .literal (.whole 2) ⟨2, 3⟩, .literal (.whole 1) ⟨0, 1⟩], [.pow, .mul, .sub],
        some (.number (.whole 4) ⟨7, 8⟩), []⟩ :=
    ((((((Machine.Reaches.refl.tail rfl).tail rfl).tail rfl).tail rfl).tail rfl).tail rfl).tail rfl
  exact ⟨hreach, (stacks_of_reaches hreach).2.2⟩

end Parser

end InfixArithmetic
