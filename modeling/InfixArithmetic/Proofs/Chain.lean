import InfixArithmetic.Operator

/-!
# Chains of operands

Without parentheses an expression is a chain: operands in a row with an operator
between any two neighbours.  What a chain amounts to is fixed by cutting it.  The
operators that bind least are cut first, which leaves terms; the terms are cut into
factors; and a factor has only powers left.

Main results:

- `Chain.total`: what a chain amounts to, for any meaning of the operators.
- `Chain.cut_link_of_level_eq` and `Chain.cut_eq_single`: where a chain is cut and
  where it is not.
- `Chain.total_eq_term` and `Chain.term_eq_factor`: a chain without loose operators
  amounts to what it amounts to one level further in.
-/

namespace InfixArithmetic

/-! ## Levels of binding -/

/-- How tightly operators bind, from the tightest to the loosest. -/
inductive Level where
  | power
  | product
  | sum
deriving DecidableEq

/-- The level on which an operator binds. -/
def Operator.level : Operator → Level
  | .add | .sub => .sum
  | .mul | .div => .product
  | .pow => .power

namespace Level

/-- The number of levels that bind more tightly. -/
def rank : Level → Nat
  | power => 0
  | product => 1
  | sum => 2

/-- The rank tells the levels apart. -/
theorem rank_injective : Function.Injective rank := by
  intro a b h
  cases a <;> cases b <;> first | rfl | cases h

/-- Whether an operator may stand in an expression of this level outside of
smaller levels: it binds at least as tightly as the level says. -/
def admits (level : Level) (op : Operator) : Prop :=
  op.level.rank ≤ level.rank

instance (level : Level) (op : Operator) : Decidable (level.admits op) :=
  inferInstanceAs (Decidable (op.level.rank ≤ level.rank))

/-- The loosest level admits every operator. -/
theorem admits_sum (op : Operator) : sum.admits op := by
  cases op <;> decide

/-- A level admits its own operators. -/
theorem admits_of_level_eq {level : Level} {op : Operator} (h : op.level = level) :
    level.admits op := by
  simp [admits, h]

/-- What a tighter level admits, a looser one admits as well. -/
theorem admits_mono {tight loose : Level} {op : Operator} (h : tight.rank ≤ loose.rank)
    (hadmits : tight.admits op) : loose.admits op :=
  Nat.le_trans hadmits h

end Level

/-- The parsing powers compare levels: an operator that waits takes the operand
before the next operator if its level is the tighter one, or if both stand on the same
level and it is not that of the powers. -/
theorem Operator.bindsBefore_iff {waiting next : Operator} :
    waiting.bindsBefore next = true ↔
      waiting.level.rank < next.level.rank ∨
        waiting.level.rank = next.level.rank ∧ waiting.level ≠ .power := by
  cases waiting <;> cases next <;> decide

/-! ## Chains -/

/-- Operands in a row, each but the first with the operator before it. -/
structure Chain (α : Type) where
  first : α
  rest : List (Operator × α)

namespace Chain

variable {α β γ : Type}

/-- The chain of one operand. -/
def single (a : α) : Chain α where
  first := a
  rest := []

/-- Two chains with an operator between them. -/
def link (left : Chain α) (op : Operator) (right : Chain α) : Chain α where
  first := left.first
  rest := left.rest ++ (op, right.first) :: right.rest

/-- The chain with every operand replaced. -/
def map (f : α → β) (c : Chain α) : Chain β where
  first := f c.first
  rest := c.rest.map fun item => (item.1, f item.2)

/-- The operators of a chain in order. -/
def operators (c : Chain α) : List Operator :=
  c.rest.map Prod.fst

@[simp]
theorem map_single (f : α → β) (a : α) : (single a).map f = single (f a) :=
  rfl

@[simp]
theorem map_link (f : α → β) (left right : Chain α) (op : Operator) :
    (left.link op right).map f = (left.map f).link op (right.map f) := by
  simp [link, map]

@[simp]
theorem map_map (g : β → γ) (f : α → β) (c : Chain α) :
    (c.map f).map g = c.map (g ∘ f) := by
  simp [map]

@[simp]
theorem operators_single (a : α) : (single a).operators = [] :=
  rfl

@[simp]
theorem operators_link (left right : Chain α) (op : Operator) :
    (left.link op right).operators = left.operators ++ op :: right.operators := by
  simp [link, operators]

@[simp]
theorem operators_map (f : α → β) (c : Chain α) : (c.map f).operators = c.operators := by
  simp [map, operators]

theorem link_assoc (a b c : Chain α) (op next : Operator) :
    (a.link op b).link next c = a.link op (b.link next c) := by
  simp [link]

/-- A chain determines its first operand, the operator behind it and the chain behind that. -/
theorem link_single_inj {a b : α} {c d : Chain α} {op next : Operator}
    (h : (single a).link op c = (single b).link next d) : a = b ∧ op = next ∧ c = d := by
  rcases c with ⟨c, after⟩
  rcases d with ⟨d, behind⟩
  simp only [link, single, List.nil_append, mk.injEq, List.cons.injEq, Prod.mk.injEq] at h
  rcases h with ⟨rfl, ⟨rfl, rfl⟩, rfl⟩
  exact ⟨rfl, rfl, rfl⟩

/-! ## Cutting -/

/-- Cuts the chain of an operand and what follows it at the operators of a level. -/
def cutFrom (level : Level) (a : α) : List (Operator × α) → Chain (Chain α)
  | [] => single (single a)
  | (op, b) :: rest =>
    let pieces := cutFrom level b rest
    if op.level = level then
      (single (single a)).link op pieces
    else
      ⟨(single a).link op pieces.first, pieces.rest⟩

/-- Cuts a chain at the operators of a level.  The pieces are themselves a chain,
with the operators that were cut. -/
def cut (level : Level) (c : Chain α) : Chain (Chain α) :=
  cutFrom level c.first c.rest

/-- An operator of the level separates the pieces on its two sides. -/
theorem cut_link_of_level_eq {level : Level} {op : Operator} (h : op.level = level)
    (left right : Chain α) :
    (left.link op right).cut level = (left.cut level).link op (right.cut level) := by
  rcases left with ⟨a, rest⟩
  simp only [cut, link]
  induction rest generalizing a with
  | nil => simp [cutFrom, h, link, single]
  | cons item rest ih =>
    rcases item with ⟨next, b⟩
    simp only [List.cons_append, cutFrom, ih b]
    by_cases hnext : next.level = level
    · simp [hnext, link, single]
    · simp [hnext, link]

/-- A chain without operators of the level stays in one piece. -/
theorem cut_eq_single {level : Level} {c : Chain α}
    (h : ∀ op ∈ c.operators, op.level ≠ level) : c.cut level = single c := by
  rcases c with ⟨a, rest⟩
  simp only [cut]
  induction rest generalizing a with
  | nil => rfl
  | cons item rest ih =>
    rcases item with ⟨op, b⟩
    have hop : op.level ≠ level := h op (by simp [operators])
    have hrest : cutFrom level b rest = single ⟨b, rest⟩ := by
      apply ih
      intro next hnext
      apply h next
      simp only [operators, List.map_cons, List.mem_cons] at hnext ⊢
      exact .inr hnext
    simp [cutFrom, hrest, hop, link, single]

/-! ## What a chain amounts to -/

/-- Combines the operands from the left. -/
def foldLeft (f : Operator → α → α → α) (c : Chain α) : α :=
  c.rest.foldl (fun value item => f item.1 value item.2) c.first

/-- Combines an operand and what follows it from the right. -/
def foldRightFrom (f : Operator → α → α → α) (a : α) : List (Operator × α) → α
  | [] => a
  | (op, b) :: rest => f op a (foldRightFrom f b rest)

/-- Combines the operands from the right. -/
def foldRight (f : Operator → α → α → α) (c : Chain α) : α :=
  foldRightFrom f c.first c.rest

/-- A factor is a chain of powers and groups to the right. -/
def factor (f : Operator → α → α → α) (c : Chain α) : α :=
  c.foldRight f

/-- A term is cut into its factors, which group to the left. -/
def term (f : Operator → α → α → α) (c : Chain α) : α :=
  ((c.cut .product).map (factor f)).foldLeft f

/-- A whole chain is cut into its terms, which group to the left. -/
def total (f : Operator → α → α → α) (c : Chain α) : α :=
  ((c.cut .sum).map (term f)).foldLeft f

variable {f : Operator → α → α → α}

@[simp]
theorem foldLeft_single (a : α) : (single a).foldLeft f = a :=
  rfl

/-- The last operand is combined last. -/
theorem foldLeft_link_single (c : Chain α) (op : Operator) (a : α) :
    (c.link op (single a)).foldLeft f = f op (c.foldLeft f) a := by
  simp [foldLeft, link, single]

/-- The first operand is combined last. -/
theorem factor_single_link (a : α) (op : Operator) (c : Chain α) :
    ((single a).link op c).factor f = f op a (c.factor f) :=
  rfl

/-- A chain of tighter operators stays in one piece. -/
theorem cut_eq_single_of_admits {tight level : Level} (hlevel : tight.rank < level.rank)
    {c : Chain α} (h : ∀ op ∈ c.operators, tight.admits op) : c.cut level = single c := by
  apply cut_eq_single
  intro op hop hsame
  have hadmits : op.level.rank ≤ tight.rank := h op hop
  rw [hsame] at hadmits
  omega

/-- A factor is a term. -/
theorem term_eq_factor {c : Chain α} (h : ∀ op ∈ c.operators, Level.power.admits op) :
    c.term f = c.factor f := by
  have hcut : c.cut .product = single c := cut_eq_single_of_admits (by decide) h
  simp [term, hcut]

/-- A term is a total. -/
theorem total_eq_term {c : Chain α} (h : ∀ op ∈ c.operators, Level.product.admits op) :
    c.total f = c.term f := by
  have hcut : c.cut .sum = single c := cut_eq_single_of_admits (by decide) h
  simp [total, hcut]

/-- A term multiplied or divided by one more factor. -/
theorem term_link {left right : Chain α} {op : Operator} (hop : op.level = .product)
    (hright : ∀ next ∈ right.operators, Level.power.admits next) :
    (left.link op right).term f = f op (left.term f) (right.factor f) := by
  have hcut : right.cut .product = single right :=
    cut_eq_single_of_admits (by decide) hright
  rw [term, cut_link_of_level_eq hop, hcut, map_link, map_single, foldLeft_link_single]
  rfl

/-- A total with one more term added or subtracted. -/
theorem total_link {left right : Chain α} {op : Operator} (hop : op.level = .sum)
    (hright : ∀ next ∈ right.operators, Level.product.admits next) :
    (left.link op right).total f = f op (left.total f) (right.term f) := by
  have hcut : right.cut .sum = single right :=
    cut_eq_single_of_admits (by decide) hright
  rw [total, cut_link_of_level_eq hop, hcut, map_link, map_single, foldLeft_link_single]
  rfl

end Chain

end InfixArithmetic
