import InfixArithmetic.Proofs.Parsing

/-!
# Tokens out of turn

In an expression numbers and operators take turns, and a number comes first.  The first
token that is out of turn decides how parsing fails: an operator in place of a number is
reported itself, and a number in place of an operator is reported with everything behind
it.  Tokens that keep their turns fail only if a number is missing at their end.

Main results:

- `Parser.balanced_of_reaches`: in every state of a run each waiting operator has its left
  operand.
- `Parser.exists_stop`: what is known about the last state of a run.
- `Expr.parse_by_turns`: the outcome of parsing for every list of tokens.
-/

namespace InfixArithmetic

/-! ## Turns -/

namespace Token

variable {tokens before : List Token} {t u : Token} {i j : Nat}

/-- Out of turn are an operator at an even index and a number at an odd one. -/
def OutOfTurn (index : Nat) : Token → Prop
  | operator _ _ => index % 2 = 0
  | number _ _ => index % 2 = 1

/-- No token is out of turn. -/
def InTurn (tokens : List Token) : Prop :=
  ∀ (i : Nat) (t : Token), tokens[i]? = some t → ¬ t.OutOfTurn i

/-- The token stands at the least index at which a token is out of turn. -/
structure FirstOutOfTurn (tokens : List Token) (index : Nat) (t : Token) : Prop where
  getElem?_eq : tokens[index]? = some t
  outOfTurn : t.OutOfTurn index
  inTurn_before : ∀ i < index, ∀ u, tokens[i]? = some u → ¬ u.OutOfTurn i

/-- The position right behind the last token, or the first position. -/
def stopOf (tokens : List Token) : Nat :=
  match tokens.getLast? with
  | some t => t.span.stop
  | none => 0

theorem outOfTurn_add_two (t : Token) (i : Nat) : t.OutOfTurn (i + 2) ↔ t.OutOfTurn i := by
  cases t <;> simp [OutOfTurn]

theorem inTurn_nil : InTurn [] := by
  intro i t ht
  cases ht

/-- A number and an operator may go in front of tokens that keep their turns. -/
theorem InTurn.cons_cons (h : InTurn tokens) (v : Literal) (s : Span) (op : Operator)
    (place : Span) : InTurn (.number v s :: .operator op place :: tokens) := by
  intro i t ht
  match i with
  | 0 =>
    cases ht
    simp [OutOfTurn]
  | 1 =>
    cases ht
    simp [OutOfTurn]
  | i + 2 =>
    rw [outOfTurn_add_two]
    exact h i t ht

/-- A token that is in turn may follow. -/
theorem InTurn.concat (h : InTurn tokens) (ht : ¬ t.OutOfTurn tokens.length) :
    InTurn (tokens ++ [t]) := by
  intro i u hu
  rcases Nat.lt_trichotomy i tokens.length with hlt | rfl | hgt
  · rw [List.getElem?_append_left hlt] at hu
    exact h i u hu
  · obtain rfl : t = u := by simpa using hu
    exact ht
  · have hlength : (tokens ++ [t]).length ≤ i := by
      rw [List.length_append, List.length_singleton]
      omega
    rw [List.getElem?_eq_none hlength] at hu
    cases hu

/-- Behind tokens that keep their turns, a token out of turn is the first one. -/
theorem firstOutOfTurn_append_cons (hbefore : InTurn before)
    (ht : t.OutOfTurn before.length) (after : List Token) :
    FirstOutOfTurn (before ++ t :: after) before.length t where
  getElem?_eq := by simp
  outOfTurn := ht
  inTurn_before := by
    intro i hi u hu
    rw [List.getElem?_append_left hi] at hu
    exact hbefore i u hu

theorem FirstOutOfTurn.not_inTurn (h : FirstOutOfTurn tokens i t) : ¬ InTurn tokens :=
  fun hturns => hturns i t h.getElem?_eq h.outOfTurn

/-- Only one token is the first one out of turn. -/
theorem FirstOutOfTurn.unique (h : FirstOutOfTurn tokens i t)
    (h' : FirstOutOfTurn tokens j u) : i = j ∧ t = u := by
  have hindex : i = j := by
    rcases Nat.lt_trichotomy i j with hlt | heq | hgt
    · exact absurd h.outOfTurn (h'.inTurn_before i hlt t h.getElem?_eq)
    · exact heq
    · exact absurd h'.outOfTurn (h.inTurn_before j hgt u h'.getElem?_eq)
  subst hindex
  have ht := h.getElem?_eq
  rw [h'.getElem?_eq] at ht
  exact ⟨rfl, (Option.some.inj ht).symm⟩

theorem stopOf_append_cons (before : List Token) (t : Token) (after : List Token) :
    stopOf (before ++ t :: after) = (after.getLastD t).span.stop := by
  have hlast : (before ++ t :: after).getLast? = some (after.getLastD t) := by
    rw [List.getLast?_append, List.getLast?_cons, Option.some_or, List.getLastD_eq_getLast?]
  rw [stopOf, hlast]

end Token

open Token

namespace Grammar

variable {ts : List Token} {c : Chain (Literal × Span)}

/-- Alternating tokens keep their turns. -/
theorem Alternates.inTurn (h : Alternates ts c) : InTurn ts := by
  induction h with
  | single v s =>
    have hnumber : ¬ (Token.number v s).OutOfTurn 0 := by simp [OutOfTurn]
    exact inTurn_nil.concat hnumber
  | link v s op place _ ih => exact ih.cons_cons v s op place

/-- Among alternating tokens there is one operator less than there are numbers. -/
theorem Alternates.length_mod_two (h : Alternates ts c) : ts.length % 2 = 1 := by
  induction h with
  | single => rfl
  | link _ _ _ _ _ ih =>
    simp only [List.length_cons]
    omega

end Grammar

namespace Parser

variable {tokens : List Token} {s t : State}

/-! ## What every state keeps -/

/-- How many more numbers than operators have been read when something is due. -/
def Due.surplus : Due → Nat
  | .operand => 0
  | .operator => 1

/-- An operator is due when the number of tokens read so far is odd. -/
theorem Read.length_mod_two {due : Due} {read : List Token} (h : Read due read) :
    read.length % 2 = due.surplus := by
  cases h with
  | nothing => rfl
  | operand halt => exact halt.length_mod_two
  | operator op place halt =>
    have hodd := halt.length_mod_two
    simp only [List.length_append, List.length_singleton, Due.surplus]
    omega

/-- The tokens read so far keep their turns. -/
theorem Read.inTurn {due : Due} {read : List Token} (h : Read due read) : InTurn read := by
  cases h with
  | nothing => exact inTurn_nil
  | operand halt => exact halt.inTurn
  | operator op place halt =>
    have hodd := halt.length_mod_two
    refine halt.inTurn.concat ?_
    simp only [OutOfTurn]
    omega

/-- The token read last stands right before the unread ones. -/
def Remembers (tokens : List Token) (s : State) : Prop :=
  ∃ read, read ++ s.rest = tokens ∧ s.last = read.getLast?

/-- Every waiting operator has its left operand, and where an operator is due one more
operand is there. -/
def Balanced (s : State) : Prop :=
  s.operands.length = s.waiting.length + s.due.surplus

theorem last_combine (s : State) : s.combine.last = s.last := by
  unfold State.combine
  split <;> rfl

/-- Where an operator is due, the operator that waited last is combined with the two
topmost operands, and nothing else is touched. -/
theorem combine_of_balanced (h : Balanced s) (hdue : s.due = .operator)
    (hwaiting : s.waiting ≠ []) :
    ∃ op below right left operands, s.waiting = op :: below ∧
      s.operands = right :: left :: operands ∧
      s.combine = { s with waiting := below, operands := .join op left right :: operands } := by
  rcases s with ⟨due, operands, waiting, last, rest⟩
  simp only at hdue hwaiting
  subst hdue
  have hlength : operands.length = waiting.length + 1 := h
  match waiting, operands with
  | [], _ => exact absurd rfl hwaiting
  | _ :: _, [] => simp at hlength
  | _ :: _, [_] => simp at hlength
  | op :: below, right :: left :: operands =>
    exact ⟨op, below, right, left, operands, rfl, rfl, rfl⟩

/-- Every move keeps the token read last. -/
theorem remembers_of_step (h : Remembers tokens s) (hstep : step s = .next t) :
    Remembers tokens t := by
  rcases h with ⟨read, hread, hlast⟩
  rcases step_eq_next hstep with ⟨v, span, rest, _, hrest, rfl⟩ |
    ⟨op, span, rest, _, hrest, _, rfl⟩ | ⟨_, _, rfl⟩
  · exact ⟨read ++ [.number v span], by simp [← hread, hrest, State.pushOperand],
      by simp [State.pushOperand]⟩
  · exact ⟨read ++ [.operator op span], by simp [← hread, hrest, State.pushOperator],
      by simp [State.pushOperator]⟩
  · exact ⟨read, by rw [rest_combine, hread], by rw [last_combine, hlast]⟩

/-- Every move keeps the operands and the waiting operators in step. -/
theorem balanced_of_step (h : Balanced s) (hstep : step s = .next t) : Balanced t := by
  rcases step_eq_next hstep with ⟨v, span, rest, hdue, _, rfl⟩ |
    ⟨op, span, rest, hdue, _, _, rfl⟩ | ⟨hdue, hwaiting, rfl⟩
  · simp only [Balanced, hdue, Due.surplus] at h
    simp only [Balanced, State.pushOperand, List.length_cons, Due.surplus, h]
  · simp only [Balanced, hdue, Due.surplus] at h
    simp only [Balanced, State.pushOperator, List.length_cons, Due.surplus, h]
  · rcases combine_of_balanced h hdue hwaiting with
      ⟨op, below, right, left, operands, hbelow, hoperands, hcombine⟩
    simp only [Balanced, hbelow, hoperands, List.length_cons] at h
    rw [hcombine]
    simp only [Balanced, List.length_cons]
    omega

/-- In every state of a run the operands and the waiting operators are in step. -/
theorem balanced_of_reaches (h : machine.Reaches (.start tokens) s) : Balanced s := by
  apply h.invariant
  · exact rfl
  · exact balanced_of_step

/-- Where an operator is due and none waits any more, exactly one operand is left. -/
theorem Balanced.exists_operands_eq (h : Balanced s) (hdue : s.due = .operator)
    (hwaiting : s.waiting = []) : ∃ e, s.operands = [e] := by
  simp only [Balanced, hdue, hwaiting, List.length_nil, Due.surplus] at h
  exact List.length_eq_one_iff.mp h

/-! ## Where a run stops -/

/-- The run comes to a state that delivers its result; what has been read there keeps its
turns, and the state is balanced. -/
theorem exists_stop (tokens : List Token) :
    ∃ read s, read ++ s.rest = tokens ∧ Read s.due read ∧ s.last = read.getLast? ∧
      Balanced s ∧ step s = .done (Expr.parse tokens) := by
  have hstart : machine.Reaches (.start tokens) (.start tokens) := .refl
  rcases hstart.exists_done with ⟨s, hreach, hdone⟩
  have hremembers : Remembers tokens s := by
    apply hreach.invariant
    · exact ⟨[], rfl, rfl⟩
    · exact remembers_of_step
  rcases reading_of_reaches hreach with ⟨read, hread, hdue⟩
  rcases hremembers with ⟨read', hread', hlast⟩
  -- Both facts speak of the tokens before the unread rest.
  have hsame : read' = read := List.append_cancel_right (hread'.trans hread.symm)
  exact ⟨read, s, hread, hdue, by rw [hlast, hsame], balanced_of_reaches hreach, hdone⟩

/-- Where all tokens have been read, an operand is missing right behind the last one. -/
theorem here_eq_single_stopOf (h : s.last = tokens.getLast?) :
    s.here = .single (stopOf tokens) := by
  rw [State.here, stopOf, h]
  cases tokens.getLast? <;> rfl

/-- The four ways in which parsing ends. -/
theorem parse_cases (tokens : List Token) :
    (InTurn tokens ∧ tokens.length % 2 = 0 ∧
      Expr.parse tokens = .error (.unexpectedEnd (.single (stopOf tokens)))) ∨
    (∃ i t, FirstOutOfTurn tokens i t ∧ i % 2 = 0 ∧
      Expr.parse tokens = .error (.unexpectedToken t)) ∨
    (∃ i t, FirstOutOfTurn tokens i t ∧ i % 2 = 1 ∧
      Expr.parse tokens = .error (.trailingInput ⟨t.span.start, stopOf tokens⟩)) ∨
    (InTurn tokens ∧ tokens.length % 2 = 1 ∧ ∃ e, Expr.parse tokens = .ok e) := by
  rcases exists_stop tokens with ⟨read, s, hread, hdue, hlast, hbalanced, hdone⟩
  have hturns : InTurn read := hdue.inTurn
  have hlength := hdue.length_mod_two
  rcases step_eq_done hdone with ⟨due, hrest, hr⟩ | ⟨op, span, rest, due, hrest, hr⟩ |
    ⟨due, hwaiting, hnext, hr⟩
  · rw [due] at hlength
    rw [hrest, List.append_nil] at hread
    subst hread
    rw [here_eq_single_stopOf hlast] at hr
    exact .inl ⟨hturns, hlength, hr⟩
  · rw [due] at hlength
    rw [hrest] at hread
    subst hread
    have hout : (Token.operator op span).OutOfTurn read.length := hlength
    exact .inr (.inl ⟨_, _, firstOutOfTurn_append_cons hturns hout rest, hlength, hr⟩)
  · rw [due] at hlength
    rcases hbalanced.exists_operands_eq due hwaiting with ⟨e, he⟩
    unfold State.finish at hr
    rw [he] at hr
    match hrest : s.rest with
    | [] =>
      rw [hrest] at hr
      rw [hrest, List.append_nil] at hread
      subst hread
      exact .inr (.inr (.inr ⟨hturns, hlength, e, hr⟩))
    | .number v span :: rest =>
      rw [hrest] at hr hread
      subst hread
      have hout : (Token.number v span).OutOfTurn read.length := hlength
      refine .inr (.inr (.inl ⟨_, _, firstOutOfTurn_append_cons hturns hout rest, hlength, ?_⟩))
      rw [stopOf_append_cons]
      exact hr
    | .operator op span :: rest =>
      rw [hrest] at hnext
      cases hnext

end Parser

/-- The first token out of turn decides the outcome of parsing.  At an even index it is an
operator where an operand is due, and is itself at fault; at an odd index it is a number
where an operator is due, and is at fault with all tokens behind it.  Tokens that keep
their turns lack an operand if their number is even, and form an expression if it is odd.

The missing operand is reported at the one position behind the last token.  Where that
position stops is a sum of words of 64 bits: it is the next position unless the last token
stops at the greatest word. -/
theorem Expr.parse_by_turns (tokens : List Token) :
    (∀ i t, FirstOutOfTurn tokens i t →
      Expr.parse tokens =
        .error (if i % 2 = 0 then .unexpectedToken t
          else .trailingInput ⟨t.span.start, stopOf tokens⟩)) ∧
    (InTurn tokens → tokens.length % 2 = 0 →
      Expr.parse tokens =
        .error (.unexpectedEnd ⟨stopOf tokens, (stopOf tokens + 1) % UInt64.size⟩)) ∧
    (InTurn tokens → tokens.length % 2 = 1 → ∃ e, Expr.parse tokens = .ok e) := by
  rcases Parser.parse_cases tokens with ⟨hturns, heven, hparse⟩ | ⟨j, u, hfirst, heven, hparse⟩ |
    ⟨j, u, hfirst, hodd, hparse⟩ | ⟨hturns, hodd, hparse⟩
  · refine ⟨fun i t h => absurd hturns h.not_inTurn, fun _ _ => hparse, fun _ hodd => ?_⟩
    omega
  · refine ⟨fun i t h => ?_, fun h => absurd h hfirst.not_inTurn,
      fun h => absurd h hfirst.not_inTurn⟩
    obtain ⟨rfl, rfl⟩ := h.unique hfirst
    rw [hparse, if_pos heven]
  · refine ⟨fun i t h => ?_, fun h => absurd h hfirst.not_inTurn,
      fun h => absurd h hfirst.not_inTurn⟩
    obtain ⟨rfl, rfl⟩ := h.unique hfirst
    rw [hparse, if_neg (by omega)]
  · refine ⟨fun i t h => absurd hturns h.not_inTurn, fun _ heven => ?_, fun _ _ => hparse⟩
    omega

/-- Whatever else is wrong with the tokens left over, the number out of turn is reported,
here with places that are in no order. -/
theorem Expr.parse_by_turns_leftover :
    FirstOutOfTurn [.number (.whole 3) ⟨4, 6⟩, .number (.whole 5) ⟨9, 2⟩,
        .operator .mul ⟨0, 1⟩, .operator .pow ⟨7, 8⟩] 1 (.number (.whole 5) ⟨9, 2⟩) ∧
      Expr.parse [.number (.whole 3) ⟨4, 6⟩, .number (.whole 5) ⟨9, 2⟩,
        .operator .mul ⟨0, 1⟩, .operator .pow ⟨7, 8⟩] = .error (.trailingInput ⟨9, 8⟩) := by
  have hthree : InTurn [.number (.whole 3) ⟨4, 6⟩] := (Grammar.Alternates.single _ _).inTurn
  have hout : (Token.number (.whole 5) ⟨9, 2⟩).OutOfTurn 1 := rfl
  have hfirst := firstOutOfTurn_append_cons hthree hout
    [.operator .mul ⟨0, 1⟩, .operator .pow ⟨7, 8⟩]
  exact ⟨hfirst, (Expr.parse_by_turns _).1 _ _ hfirst⟩

/-- Behind a token that stops at the greatest word, the sum wraps. -/
example : Expr.parse [.number (.whole 3) ⟨0, 1⟩, .operator .add ⟨0, UInt64.size - 1⟩] =
    .error (.unexpectedEnd ⟨UInt64.size - 1, 0⟩) := by
  cbv

end InfixArithmetic
