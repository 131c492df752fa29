import InfixArithmetic.Calculator
import InfixArithmetic.Proofs.Evaluation
import InfixArithmetic.Proofs.Layout
import InfixArithmetic.Proofs.Parsing

/-!
# What a text is worth

A text is calculated without a fault if it spells a chain of numerals: numerals and
operators in turn, with blanks wherever two of them meet and at both ends.  Its value is
then what the chain amounts to.  Tokens, expressions, and the machines that make them do
not show in this.

Main results:

- `Spells`: how a chain of numerals is written.
- `Expr.ofText_eq_ok_iff`: a text stands for the expression that the grammar derives from
  the tokens that lie in it.
- `Spells.exists_layout` and `Token.Layout.exists_spells`: a text spells a chain exactly
  if alternating tokens lie in it.
- `calculate_eq_ok_iff_spells`: which texts are calculated, and to what value.
-/

namespace InfixArithmetic

/-- The text spells a chain of numerals: a numeral between blanks, and behind it either
nothing or an operator with the rest of the chain. -/
inductive Spells : List Char → Chain Numeral → Prop where
  | last {before behind : List Char} (n : Numeral) :
      (∀ c ∈ before, Text.isBlank c = true) → (∀ c ∈ behind, Text.isBlank c = true) →
      Spells (before ++ (n.digits ++ behind)) (.single n)
  | link {before behind rest : List Char} {c : Chain Numeral} (n : Numeral) (op : Operator) :
      (∀ c ∈ before, Text.isBlank c = true) → (∀ c ∈ behind, Text.isBlank c = true) →
      Spells rest c →
      Spells (before ++ (n.digits ++ (behind ++ (op.symbol.toList ++ rest))))
        ((Chain.single n).link op c)

/-- A text that spells a chain does not start with a star. -/
theorem Spells.head?_ne_star {text : List Char} {c : Chain Numeral} (h : Spells text c) :
    text.head? ≠ some '*' := by
  cases h with
  | last n hbefore _ => exact n.head?_ne_star hbefore _
  | link n op hbefore _ _ => exact n.head?_ne_star hbefore _

/-! ## Spelling and tokens -/

/-- In a text that spells a chain lie the tokens of the chain. -/
theorem Spells.exists_layout {text : List Char} {c : Chain Numeral} (h : Spells text c)
    (position : Nat) :
    ∃ tokens d, Token.Layout position text tokens ∧ Grammar.Alternates tokens d ∧
      d.map Prod.fst = c.map Numeral.literal := by
  induction h generalizing position with
  | @last before behind n hbefore hbehind =>
    have hends : Token.EndsWord behind := by
      have hnil : Token.EndsWord [] := by simp [Token.EndsWord]
      rw [← List.append_nil behind]
      exact hnil.append_of_blank hbehind
    exact ⟨_, _, .token (.number n) hbefore hends (.blanks hbehind), .single _ _, rfl⟩
  | @link before behind rest c n op hbefore hbehind hrest ih =>
    have hword : Token.EndsWord (behind ++ (op.symbol.toList ++ rest)) :=
      (op.endsWord_symbol_append rest).append_of_blank hbehind
    have hends : (Lexeme.operator op).EndsBefore rest := by
      cases op with
      | mul => exact hrest.head?_ne_star
      | _ => trivial
    obtain ⟨tokens, d, hlayout, halternates, hmap⟩ := ih (position + before.length +
      (Lexeme.number n).text.length + behind.length + (Lexeme.operator op).text.length)
    refine ⟨_, _, .token (.number n) hbefore hword (.token (.operator op) hbehind hends hlayout),
      .link _ _ _ _ halternates, ?_⟩
    rw [Chain.map_link, Chain.map_link, hmap]
    rfl

/-- A text in which alternating tokens lie spells a chain. -/
theorem Token.Layout.exists_spells {position : Nat} {text : List Char} {tokens : List Token}
    {d : Chain (Literal × Span)} (h : Token.Layout position text tokens)
    (halternates : Grammar.Alternates tokens d) : ∃ c, Spells text c := by
  induction halternates generalizing position text with
  | single v s =>
    rcases h.exists_of_cons with ⟨before, lexeme, rest, rfl, hbefore, _, htoken, hrest⟩
    cases lexeme with
    | operator op => cases htoken
    | number n =>
      cases hrest with
      | blanks hbehind => exact ⟨_, .last n hbefore hbehind⟩
  | link v s op place _ ih =>
    rcases h.exists_of_cons with ⟨before, lexeme, rest, rfl, hbefore, _, htoken, hrest⟩
    cases lexeme with
    | operator op => cases htoken
    | number n =>
      rcases hrest.exists_of_cons with ⟨behind, lexeme, rest, rfl, hbehind, _, htoken, hrest⟩
      cases lexeme with
      | number m => cases htoken
      | operator op =>
        rcases ih hrest with ⟨c, hspells⟩
        exact ⟨_, .link n op hbefore hbehind hspells⟩

/-! ## From the text to the value -/

/-- A text stands for the expression that is derived from the tokens lying in it. -/
theorem Expr.ofText_eq_ok_iff {text : String} {e : Expr} :
    Expr.ofText text = .ok e ↔
      ∃ tokens, Token.Layout 0 text.toList tokens ∧ Grammar.Derives .sum tokens e := by
  constructor
  · intro h
    unfold Expr.ofText at h
    cases hscan : Token.scan text with
    | error fault =>
      rw [hscan] at h
      cases h
    | ok tokens =>
      cases hparse : Expr.parse tokens with
      | error fault =>
        simp only [hscan, hparse] at h
        cases h
      | ok e' =>
        simp only [hscan, hparse] at h
        cases h
        exact ⟨tokens, Token.scan_eq_ok_iff.mp hscan, Grammar.derives_of_parse hparse⟩
  · rintro ⟨tokens, hlayout, hderives⟩
    simp only [Expr.ofText, Token.scan_eq_ok_iff.mpr hlayout, Parser.parse_of_derives hderives]

/-- A text that spells a chain is worth what the chain amounts to. -/
theorem Spells.calculate_eq {text : String} {c : Chain Numeral} (h : Spells text.toList c) :
    calculate text = .ok ((c.map fun n => n.literal.toFloat).total Operator.apply) := by
  rcases h.exists_layout 0 with ⟨tokens, d, hlayout, halternates, hmap⟩
  rcases halternates.exists_derives with ⟨e, hderives⟩
  have hchain : e.chain = d := hderives.alternates.unique halternates
  have hfloats : e.floats = c.map fun n => n.literal.toFloat := by
    calc e.floats = (d.map Prod.fst).map Literal.toFloat := by
          rw [Chain.map_map, Expr.floats, hchain]
          rfl
      _ = (c.map Numeral.literal).map Literal.toFloat := by rw [hmap]
      _ = c.map fun n => n.literal.toFloat := Chain.map_map _ _ c
  rw [calculate, Expr.ofText_eq_ok_iff.mpr ⟨tokens, hlayout, hderives⟩, ← hfloats,
    ← hderives.value_eq_total, ← Expr.evaluate_eq_value]
  rfl

/-- Exactly the texts that spell a chain of numerals are calculated, and the result is
what the chain amounts to. -/
theorem calculate_eq_ok_iff_spells (text : String) :
    ((∃ x, calculate text = .ok x) ↔ ∃ c, Spells text.toList c) ∧
      ∀ c, Spells text.toList c →
        calculate text =
          .ok ((c.map fun n => n.literal.toFloat).total Operator.apply) := by
  refine ⟨⟨?_, fun ⟨c, hspells⟩ => ⟨_, hspells.calculate_eq⟩⟩, fun c => Spells.calculate_eq⟩
  rintro ⟨x, hx⟩
  cases htext : Expr.ofText text with
  | error fault =>
    rw [calculate, htext] at hx
    cases hx
  | ok e =>
    rcases Expr.ofText_eq_ok_iff.mp htext with ⟨tokens, hlayout, hderives⟩
    exact hlayout.exists_spells hderives.alternates

/-- A product is subtracted as a whole, with or without blanks around the operators. -/
theorem calculate_difference :
    Spells "7- 2*3".toList
        ⟨.ofDigit '7' rfl, [(.sub, .ofDigit '2' rfl), (.mul, .ofDigit '3' rfl)]⟩ ∧
      calculate "7- 2*3" =
        .ok (Operator.sub.apply (Literal.whole 7).toFloat
          (Operator.mul.apply (Literal.whole 2).toFloat (Literal.whole 3).toFloat)) := by
  have hblank : ∀ c ∈ [' '], Text.isBlank c = true := List.forall_mem_singleton.mpr (by decide)
  have hthree := @Spells.last [] [] (.ofDigit '3' rfl) (by simp) (by simp)
  have hproduct := @Spells.link [' '] [] _ _ (.ofDigit '2' rfl) .mul hblank (by simp) hthree
  have hspells := @Spells.link [] [] _ _ (.ofDigit '7' rfl) .sub (by simp) (by simp) hproduct
  exact ⟨hspells, (calculate_eq_ok_iff_spells "7- 2*3").2 _ hspells⟩

end InfixArithmetic
