import InfixArithmetic.Expr.Parser
import InfixArithmetic.Proofs.Grammar

/-!
# Parsing follows the grammar

The parser never looks at the grammar: it only compares the binding powers of the
operator that waited last and of the operator that comes next.  Along a derivation these
comparisons come out as the grammar demands, so a run that starts on derived tokens ends
with the derived expression on top of the operands, and everything below is untouched.

Main results:

- `Parser.runs_of_derives`: the run over the tokens of a derivation.
- `Parser.step_eq_next` and `Parser.step_eq_done`: everything a step can do.
- `Parser.reading_of_reaches`: in every state of a run the tokens read so far alternate.
- `Grammar.parse_eq_ok_iff_derives`: the parser computes exactly what the grammar
  derives.
-/

namespace InfixArithmetic

open Grammar

namespace Parser

variable {operands : List Expr} {waiting : List Operator} {last : Option Token}
  {rest tokens : List Token} {level : Level} {op : Operator}

/-! ## Single moves -/

/-- The operator at the head of the tokens, if the first token is an operator. -/
def nextOperator? : List Token → Option Operator
  | .operator op _ :: _ => some op
  | _ => none

/-- A number that is due goes on top of the operands. -/
theorem run_number (v : Literal) (s : Span) :
    machine.run ⟨.operand, operands, waiting, last, .number v s :: rest⟩ =
      machine.run ⟨.operator, .literal v s :: operands, waiting, some (.number v s), rest⟩ :=
  Machine.run_next rfl

/-- An operator starts to wait if none of those that wait already takes the operand
before it. -/
theorem run_operator (place : Span)
    (h : ∀ top ∈ waiting.head?, top.bindsBefore op = false) :
    machine.run ⟨.operator, operands, waiting, last, .operator op place :: rest⟩ =
      machine.run ⟨.operand, operands, op :: waiting, some (.operator op place), rest⟩ := by
  apply Machine.run_next
  cases waiting with
  | nil => rfl
  | cons top below =>
    have htop : top.bindsBefore op = false := h top rfl
    simp [machine, step, htop, State.pushOperator]

/-- An operator is combined with its operands before a looser operator, a number or the
end of the tokens. -/
theorem run_combine (left right : Expr)
    (h : ∀ next ∈ nextOperator? rest, op.bindsBefore next = true) :
    machine.run ⟨.operator, right :: left :: operands, op :: waiting, last, rest⟩ =
      machine.run ⟨.operator, .join op left right :: operands, waiting, last, rest⟩ := by
  apply Machine.run_next
  match rest with
  | [] => rfl
  | .number _ _ :: _ => rfl
  | .operator next _ :: _ =>
    have hnext : op.bindsBefore next = true := h next rfl
    simp [machine, step, hnext, State.combine]

/-- One operand and nothing to follow it is the result. -/
theorem run_finish (e : Expr) :
    machine.run ⟨.operator, [e], [], last, []⟩ = .ok e :=
  Machine.run_done rfl

/-! ## Runs along derivations -/

/-- Every operator of the level may be read now: no waiting operator takes the operand
before it. -/
def Opens (level : Level) (waiting : List Operator) : Prop :=
  ∀ top ∈ waiting.head?, ∀ op, level.admits op → top.bindsBefore op = false

/-- Every operator of the level is combined now: it takes the operand before whatever
comes next. -/
def Closes (level : Level) (rest : List Token) : Prop :=
  ∀ next ∈ nextOperator? rest, ∀ op, level.admits op → op.bindsBefore next = true

theorem Opens.mono {tight loose : Level} (hrank : tight.rank ≤ loose.rank)
    (h : Opens loose waiting) : Opens tight waiting :=
  fun top htop op hop => h top htop op (Level.admits_mono hrank hop)

theorem Closes.mono {tight loose : Level} (hrank : tight.rank ≤ loose.rank)
    (h : Closes loose rest) : Closes tight rest :=
  fun next hnext op hop => h next hnext op (Level.admits_mono hrank hop)

/-- A power may start behind any operator. -/
theorem opens_power (waiting : List Operator) : Opens .power waiting := by
  intro top _ op hop
  have hpower : op.level.rank = 0 := Nat.le_zero.mp hop
  rw [Bool.eq_false_iff, Ne, Operator.bindsBefore_iff, hpower]
  rintro (hlt | ⟨heq, hne⟩)
  · omega
  · exact hne (Level.rank_injective heq)

/-- Every expression may start behind a looser operator. -/
theorem opens_cons {top : Operator} (h : level.rank < top.level.rank) :
    Opens level (top :: waiting) := by
  intro first hfirst op hop
  obtain rfl : top = first := by simpa using hfirst
  rw [Bool.eq_false_iff, Ne, Operator.bindsBefore_iff]
  have hadmits : op.level.rank ≤ level.rank := hop
  omega

/-- An operator that groups to the left ends every expression of its own level. -/
theorem closes_cons (place : Span) (hop : op.level = level) (hlevel : level ≠ .power) :
    Closes level (.operator op place :: rest) := by
  intro next hnext first hfirst
  obtain rfl : op = next := by simpa [nextOperator?] using hnext
  subst hop
  rw [Operator.bindsBefore_iff]
  rcases Nat.lt_or_eq_of_le hfirst with hlt | heq
  · exact .inl hlt
  · have hsame : first.level = op.level := Level.rank_injective heq
    exact .inr ⟨heq, by rw [hsame]; exact hlevel⟩

/-- The run over the tokens puts the expression on top of the operands and leaves the
operators that waited before as they were, wherever the level may start and end. -/
def Runs (level : Level) (ts : List Token) (e : Expr) : Prop :=
  ∀ {operands : List Expr} {waiting : List Operator} {last : Option Token} {rest : List Token},
    Opens level waiting → Closes level rest →
      machine.run ⟨.operand, operands, waiting, last, ts ++ rest⟩ =
        machine.run ⟨.operator, e :: operands, waiting, ts.getLast?, rest⟩

/-- An operation that groups to the left is run through its left side, its operator and
its right side, and then combined. -/
theorem runs_operation {tight : Level} {ts us : List Token} {left right : Expr} (place : Span)
    (hop : op.level = level) (htight : tight.rank < level.rank)
    (hleft : Derives level ts left) (hright : Derives tight us right)
    (runLeft : Runs level ts left) (runRight : Runs tight us right) :
    Runs level (ts ++ .operator op place :: us) (.spanning op left right) := by
  intro operands waiting last rest hopens hcloses
  have hends : Closes level (.operator op place :: (us ++ rest)) := by
    refine closes_cons place hop ?_
    rintro rfl
    exact Nat.not_lt_zero _ htight
  have hpush : ∀ top ∈ waiting.head?, top.bindsBefore op = false := by
    intro top htop
    exact hopens top htop op (Level.admits_of_level_eq hop)
  -- Only the tighter right side can start behind the operator, which is why equal levels
  -- group to the left.
  have hbehind : Opens tight (op :: waiting) := opens_cons (by rw [hop]; exact htight)
  have hpop : ∀ next ∈ nextOperator? rest, op.bindsBefore next = true := by
    intro next hnext
    exact hcloses next hnext op (Level.admits_of_level_eq hop)
  have hlast : (ts ++ .operator op place :: us).getLast? = us.getLast? := by
    rw [List.append_cons, hright.getLast?_append]
  rw [List.append_assoc, List.cons_append, runLeft hopens hends, run_operator place hpush,
    runRight hbehind (hcloses.mono (Nat.le_of_lt htight)), run_combine left right hpop,
    hlast, hleft.spanning_eq_join op hright]

/-- A power waits with its literal until the power on its right is complete. -/
theorem runs_power (v : Literal) (s place : Span) {ts : List Token} {right : Expr}
    (hright : Derives .power ts right) (runRight : Runs .power ts right) :
    Runs .power (.number v s :: .operator .pow place :: ts)
      (.spanning .pow (.literal v s) right) := by
  intro operands waiting last rest hopens hcloses
  have hpush : ∀ top ∈ waiting.head?, top.bindsBefore .pow = false := by
    intro top htop
    exact hopens top htop .pow (by decide)
  have hpop : ∀ next ∈ nextOperator? rest, Operator.pow.bindsBefore next = true := by
    intro next hnext
    exact hcloses next hnext .pow (by decide)
  have hlast : (Token.number v s :: .operator .pow place :: ts).getLast? = ts.getLast? :=
    hright.getLast?_append [.number v s, .operator .pow place]
  rw [List.cons_append, List.cons_append, run_number, run_operator place hpush,
    runRight (opens_power _) hcloses, run_combine (.literal v s) right hpop, hlast,
    (Derives.literal v s).spanning_eq_join .pow hright]

/-- Along every derivation the run is as the level demands. -/
theorem runs_of_derives {ts : List Token} {e : Expr} (h : Derives level ts e) :
    Runs level ts e := by
  induction h with
  | literal v s =>
    intro operands waiting last rest _ _
    exact run_number v s
  | raise v s place hright ih => exact runs_power v s place hright ih
  | factor _ ih =>
    intro operands waiting last rest _ hcloses
    exact ih (opens_power _) (hcloses.mono (by decide))
  | scale hop place hleft hright ihLeft ihRight =>
    exact runs_operation place hop (by decide) hleft hright ihLeft ihRight
  | term _ ih =>
    intro operands waiting last rest hopens hcloses
    exact ih (hopens.mono (by decide)) (hcloses.mono (by decide))
  | offset hop place hleft hright ihLeft ihRight =>
    exact runs_operation place hop (by decide) hleft hright ihLeft ihRight

/-- Derived tokens are parsed to the derived expression. -/
theorem parse_of_derives {e : Expr} (h : Derives .sum tokens e) : Expr.parse tokens = .ok e := by
  have hopens : Opens .sum [] := by simp [Opens]
  have hcloses : Closes .sum [] := by simp [Closes, nextOperator?]
  have hrun : machine.run ⟨.operand, [], [], none, tokens ++ []⟩ =
      machine.run ⟨.operator, [e], [], tokens.getLast?, []⟩ :=
    runs_of_derives h hopens hcloses
  rw [List.append_nil] at hrun
  rw [Expr.parse, State.start, hrun, run_finish]

/-! ## What a step can do -/

/-- The moves: read a number that is due, let an operator wait, or combine the operator
that waited last because nothing follows that binds the operand before it more tightly. -/
theorem step_eq_next {s t : State} (h : step s = .next t) :
    (∃ v span rest, s.due = .operand ∧ s.rest = .number v span :: rest ∧
      t = s.pushOperand v span rest) ∨
    (∃ op span rest, s.due = .operator ∧ s.rest = .operator op span :: rest ∧
      (∀ top ∈ s.waiting.head?, top.bindsBefore op = false) ∧
      t = s.pushOperator op span rest) ∨
    (s.due = .operator ∧ s.waiting ≠ [] ∧ t = s.combine) := by
  unfold step at h
  split at h
  next => cases h
  next v span rest hdue hrest =>
    cases h
    exact .inl ⟨v, span, rest, hdue, hrest, rfl⟩
  next => cases h
  next op span rest hdue hrest =>
    split at h
    next hwaiting =>
      cases h
      exact .inr (.inl ⟨op, span, rest, hdue, hrest, by simp [hwaiting], rfl⟩)
    next top below hwaiting =>
      split at h
      next =>
        cases h
        exact .inr (.inr ⟨hdue, by simp [hwaiting], rfl⟩)
      next hbinds =>
        cases h
        refine .inr (.inl ⟨op, span, rest, hdue, hrest, ?_, rfl⟩)
        simpa [hwaiting] using hbinds
  next hdue _ =>
    split at h
    next => cases h
    next top below hwaiting =>
      cases h
      exact .inr (.inr ⟨hdue, by simp [hwaiting], rfl⟩)

/-- The ends: a token other than a number where an operand is due, or no operator where
an operator could follow and none waiting. -/
theorem step_eq_done {s : State} {r : Except GrammarFault Expr} (h : step s = .done r) :
    (s.due = .operand ∧ s.rest = [] ∧ r = .error (.unexpectedEnd s.here)) ∨
    (∃ op span rest, s.due = .operand ∧ s.rest = .operator op span :: rest ∧
      r = .error (.unexpectedToken (.operator op span))) ∨
    (s.due = .operator ∧ s.waiting = [] ∧ nextOperator? s.rest = none ∧ r = s.finish) := by
  unfold step at h
  split at h
  next hdue hrest =>
    cases h
    exact .inl ⟨hdue, hrest, rfl⟩
  next => cases h
  next op span rest hdue hrest =>
    cases h
    exact .inr (.inl ⟨op, span, rest, hdue, hrest, rfl⟩)
  next =>
    split at h
    next => cases h
    next => split at h <;> cases h
  next hdue hrest =>
    split at h
    next hwaiting =>
      cases h
      refine .inr (.inr ⟨hdue, hwaiting, ?_, rfl⟩)
      match hs : s.rest with
      | [] => rfl
      | .number _ _ :: _ => rfl
      | .operator op span :: rest => exact (hrest op span rest hs).elim
    next => cases h

/-! ## What has been read -/

/-- What the tokens read so far look like, given what is due next. -/
inductive Read : Due → List Token → Prop where
  | nothing : Read .operand []
  | operand {ts : List Token} {c : Chain (Literal × Span)} :
      Alternates ts c → Read .operator ts
  | operator (op : Operator) (place : Span) {ts : List Token} {c : Chain (Literal × Span)} :
      Alternates ts c → Read .operand (ts ++ [.operator op place])

/-- A state of the parser has read an alternating part of the tokens. -/
def Reading (tokens : List Token) (s : State) : Prop :=
  ∃ read, read ++ s.rest = tokens ∧ Read s.due read

/-- Combining leaves open what has to come next. -/
theorem due_combine (s : State) : s.combine.due = s.due := by
  unfold State.combine
  split <;> rfl

/-- Every move keeps numbers and operators alternating. -/
theorem reading_of_step {s t : State} (h : Reading tokens s) (hstep : step s = .next t) :
    Reading tokens t := by
  rcases h with ⟨read, hread, hdue⟩
  rcases step_eq_next hstep with ⟨v, span, rest, due, hrest, rfl⟩ |
    ⟨op, span, rest, due, hrest, _, rfl⟩ | ⟨due, _, rfl⟩
  · refine ⟨read ++ [.number v span], by simp [← hread, hrest, State.pushOperand], ?_⟩
    rw [due] at hdue
    cases hdue with
    | nothing => exact .operand (.single v span)
    | operator op place halt =>
      rw [List.append_assoc]
      exact .operand (halt.append op place (.single v span))
  · refine ⟨read ++ [.operator op span], by simp [← hread, hrest, State.pushOperator], ?_⟩
    rw [due] at hdue
    cases hdue with
    | operand halt => exact .operator op span halt
  · exact ⟨read, by rw [rest_combine, hread], by rw [due_combine]; exact hdue⟩

/-- In every state of a run an alternating part of the tokens has been read. -/
theorem reading_of_reaches {s : State} (h : machine.Reaches (.start tokens) s) :
    Reading tokens s := by
  apply h.invariant
  · exact ⟨[], rfl, .nothing⟩
  · exact reading_of_step

/-- Parsed tokens alternate. -/
theorem alternates_of_parse {e : Expr} (h : Expr.parse tokens = .ok e) :
    ∃ c, Alternates tokens c := by
  have hstart : machine.Reaches (.start tokens) (.start tokens) := .refl
  rcases hstart.exists_done with ⟨s, hreach, hdone⟩
  rw [show machine.run (.start tokens) = .ok e from h] at hdone
  rcases reading_of_reaches hreach with ⟨read, hread, hdue⟩
  rcases step_eq_done hdone with ⟨_, _, hr⟩ | ⟨_, _, _, _, _, hr⟩ | ⟨due, _, _, hr⟩
  · cases hr
  · cases hr
  · have hrest : s.rest = [] := by
      unfold State.finish at hr
      split at hr
      next => cases hr
      next =>
        split at hr
        next hnil => exact hnil
        next => cases hr
    rw [due] at hdue
    rw [hrest, List.append_nil] at hread
    subst hread
    cases hdue with
    | operand halt => exact ⟨_, halt⟩

end Parser

namespace Grammar

/-- The grammar assigns at most one expression to a list of tokens. -/
theorem Derives.unique {tokens : List Token} {e e' : Expr} (h : Derives .sum tokens e)
    (h' : Derives .sum tokens e') : e = e' := by
  have hparse := Parser.parse_of_derives h
  rw [Parser.parse_of_derives h'] at hparse
  cases hparse
  rfl

/-- The parser is sound for the grammar: what it returns is derived. -/
theorem derives_of_parse {tokens : List Token} {e : Expr} (h : Expr.parse tokens = .ok e) :
    Derives .sum tokens e := by
  rcases Parser.alternates_of_parse h with ⟨c, halt⟩
  rcases halt.exists_derives with ⟨e', he'⟩
  rw [Parser.parse_of_derives he'] at h
  cases h
  exact he'

/-- Parsing yields exactly the expression that the grammar derives from the tokens; the
derivation uses every token once and in order, and there is at most one. -/
theorem parse_eq_ok_iff_derives (tokens : List Token) :
    (∀ e, Expr.parse tokens = .ok e ↔ Derives .sum tokens e) ∧
      (∀ e, Derives .sum tokens e → Alternates tokens e.chain) ∧
      (∀ e e', Derives .sum tokens e → Derives .sum tokens e' → e = e') := by
  refine ⟨fun e => ⟨derives_of_parse, Parser.parse_of_derives⟩, ?_, ?_⟩
  · intro e h
    exact h.alternates
  · intro e e' h h'
    exact h.unique h'

end Grammar

end InfixArithmetic
