import InfixArithmetic.Proofs.Calculation
import InfixArithmetic.Proofs.Slices

/-!
# Where operators stand

An operation keeps its operator but not the place of it.  The place can still be told: of
the characters between the two operands all are blank except for the symbol of the operator.

Main results:

- `Operator.StandsIn`: a symbol and blanks are all that there is in a span of the text.
- `Token.Layout.standsIn_between`: an operator stands between the tokens next to it.
- `Expr.operator_standsIn_between`: in every part of an expression that was read from a text
  the operator stands between its two operands.
-/

namespace InfixArithmetic

/-- The positions behind the first span and before the second one. -/
def Span.between (first second : Span) : Span :=
  ⟨first.stop, second.start⟩

/-- The span lies in the text, and the characters in it are the symbol of the operator with
nothing but blanks around it. -/
structure Operator.StandsIn (text : String) (s : Span) (op : Operator) : Prop where
  start_le_stop : s.start ≤ s.stop
  stop_le_length : s.stop ≤ text.length
  exists_blanks : ∃ before behind,
    (s.slice text).toList = before ++ (op.symbol.toList ++ behind) ∧
      (∀ c ∈ before, Text.isBlank c = true) ∧ ∀ c ∈ behind, Text.isBlank c = true

namespace Token

variable {before after : List Token} {t u : Token} {op : Operator} {place : Span}

/-- The text around an operator with the tokens next to it. -/
theorem Layout.exists_between {position : Nat} {text : List Char}
    (h : Layout position text (before ++ t :: .operator op place :: u :: after)) :
    ∃ front gap behind rest,
      text = front ++ ((gap ++ (op.symbol.toList ++ behind)) ++ rest) ∧
      (∀ c ∈ gap, Text.isBlank c = true) ∧ (∀ c ∈ behind, Text.isBlank c = true) ∧
      position + front.length = t.span.stop ∧
      t.span.stop + (gap ++ (op.symbol.toList ++ behind)).length = u.span.start := by
  rcases h.exists_rest with ⟨front, back, rfl, hstop, hback⟩
  rcases hback.exists_of_cons with ⟨gap, lexeme, back, rfl, hgap, _, hop, hback⟩
  rcases hback.exists_of_cons with ⟨behind, next, rest, rfl, hbehind, _, rfl, _⟩
  cases lexeme with
  | number n => cases hop
  | operator op' =>
    cases hop
    refine ⟨front, gap, behind, next.text ++ rest, ?_, hgap, hbehind, hstop, ?_⟩
    · simp [Lexeme.text]
    · simp only [Lexeme.span_token, Lexeme.text, List.length_append, Nat.add_assoc]

/-- An operator stands between the tokens next to it. -/
theorem Layout.standsIn_between {text : String}
    (h : Layout 0 text.toList (before ++ t :: .operator op place :: u :: after)) :
    op.StandsIn text (.between t.span u.span) := by
  rcases h.exists_between with ⟨front, gap, behind, rest, htext, hgap, hbehind, hstop, hstart⟩
  rw [Nat.zero_add] at hstop
  have hspan : Span.between t.span u.span =
      ⟨front.length, front.length + (gap ++ (op.symbol.toList ++ behind)).length⟩ := by
    rw [Span.between, ← hstart, ← hstop]
  rw [hspan]
  refine ⟨Nat.le_add_right _ _, ?_, gap, behind, Span.toList_slice_middle htext, hgap, hbehind⟩
  rw [← String.length_toList, htext]
  simp only [List.length_append]
  omega

end Token

/-- In every part of an expression that was read from a text the operator stands between its
two operands, and the part reaches from the start of the left one to the end of the right
one. -/
theorem Expr.operator_standsIn_between {text : String} {e left right : Expr} {op : Operator}
    {s : Span} (h : Expr.ofText text = .ok e) (hnode : .binary op s left right ∈ e.nodes) :
    s.start = left.span.start ∧ s.stop = right.span.stop ∧
      op.StandsIn text (.between left.span right.span) := by
  rcases Expr.ofText_eq_ok_iff.mp h with ⟨tokens, hlayout, hderives⟩
  rcases hderives.exists_infix_of_mem_nodes hnode with ⟨inner, ⟨before, after, rfl⟩, hinner⟩
  rcases hinner.exists_operands with ⟨ts, place, us, rfl, hleft, hright, rfl⟩
  -- The operator lies next to the last token of the left and the first of the right operand.
  rcases hleft.exists_last with ⟨front, t, rfl, hstop⟩
  rcases hright.exists_first with ⟨u, rest, rfl, hstart⟩
  have hneighbours : before ++ (front ++ [t] ++ .operator op place :: u :: rest) ++ after =
      (before ++ front) ++ t :: .operator op place :: u :: (rest ++ after) := by simp
  have hbetween : Span.between left.span right.span = .between t.span u.span := by
    rw [Span.between, hleft.span_eq, hright.span_eq, ← hstop, ← hstart]
    rfl
  rw [hneighbours] at hlayout
  rw [hbetween]
  exact ⟨rfl, rfl, hlayout.standsIn_between⟩

/-- A tab and a line break stand around an operator that waits until the power behind it is
complete. -/
theorem Expr.operator_standsIn_between_difference :
    Expr.ofText "10\t-\n2 ** 3" = .ok (.binary .sub ⟨0, 11⟩ (.literal (.whole 10) ⟨0, 2⟩)
        (.binary .pow ⟨5, 11⟩ (.literal (.whole 2) ⟨5, 6⟩) (.literal (.whole 3) ⟨10, 11⟩))) ∧
      Operator.sub.StandsIn "10\t-\n2 ** 3" ⟨2, 5⟩ := by
  have htext : Expr.ofText "10\t-\n2 ** 3" =
      .ok (.binary .sub ⟨0, 11⟩ (.literal (.whole 10) ⟨0, 2⟩)
        (.binary .pow ⟨5, 11⟩ (.literal (.whole 2) ⟨5, 6⟩)
          (.literal (.whole 3) ⟨10, 11⟩))) := by cbv
  have hwhole := Expr.operator_standsIn_between htext List.mem_cons_self
  exact ⟨htext, hwhole.2.2⟩

end InfixArithmetic
