import InfixArithmetic.Proofs.Calculation
import InfixArithmetic.Proofs.Printing
import InfixArithmetic.Proofs.Writing

/-!
# Printing and reading back without parentheses

An expression is printed with parentheses around every operation, and parentheses cannot be
read.  Without them, what is printed spells the literals and operators of the expression in
their order.  Since these alone determine how an expression is grouped, reading gives the
same expression again, up to the places of its parts.

Main results:

- `Literal.readsBack_whole` and `Literal.readsBack_rounded`: which literals are printed as
  numerals that are read as the same literal.
- `Expr.exists_spells`: without parentheses an expression spells its chain of literals.
- `Grammar.Derives.unplaced_eq`: derived expressions with the same chain of literals differ
  in their spans only.
- `Expr.ofText_withoutParentheses_print`: what is printed of a text is read back.
-/

namespace InfixArithmetic

namespace Text

/-- Whether a character is a parenthesis. -/
def isParenthesis (c : Char) : Bool :=
  c == '(' || c == ')'

/-- The text with all parentheses deleted. -/
def withoutParentheses (text : String) : String :=
  .ofList (text.toList.filter (!isParenthesis ·))

theorem toList_withoutParentheses (text : String) :
    (withoutParentheses text).toList = text.toList.filter (!isParenthesis ·) :=
  String.toList_ofList

theorem isParenthesis_of_isDigit {c : Char} (h : c.isDigit = true) : isParenthesis c = false := by
  rw [isParenthesis, Bool.or_eq_false_iff, beq_eq_false_iff_ne, beq_eq_false_iff_ne]
  constructor <;>
    · rintro rfl
      exact absurd h (by decide)

/-- A row of digits has no parentheses. -/
theorem toList_withoutParentheses_of_isDigit {text : String}
    (h : ∀ c ∈ text.toList, c.isDigit = true) :
    (withoutParentheses text).toList = text.toList := by
  rw [toList_withoutParentheses, List.filter_eq_self]
  intro c hc
  rw [isParenthesis_of_isDigit (h c hc), Bool.not_false]

end Text

/-! ## Literals -/

namespace Numeral

/-- The decimal form of a natural number. -/
def ofNat (k : Nat) : Numeral where
  digits := Nat.toDigits 10 k
  digits_ne_nil := Nat.toDigits_ne_nil
  isDigit_of_mem := fun _ => Nat.isDigit_of_mem_toDigits (by decide) (by decide)

@[simp]
theorem value_ofNat (k : Nat) : (ofNat k).value = k := by
  rw [value, ← ofDigitChars_eq_decimalValue]
  exact Nat.ofDigitChars_toDigits (by decide) (by decide)

end Numeral

/-- The text of the number is a row of digits whose value is too large to be kept exactly,
and the number is the one in double precision that is nearest to this value. -/
def Decimal.ReadsBack (x : Float) : Prop :=
  ∃ n : Numeral, (Decimal.positional x).toList = n.digits ∧ UInt64.size ≤ n.value ∧
    Float.ofNat n.value = x

/-- The text of the least number that is not kept exactly.  Its last digits are not
those of the number. -/
theorem Decimal.positional_size :
    positional (Float.ofNat UInt64.size) = "18446744073709552000" := by
  have hparts : Binary.ofFloat (Float.ofNat UInt64.size) =
      .finite false (Nat.pow 2 Binary.fractionBits) 12 := by decide +kernel
  rw [positional, hparts]
  decide +kernel

/-- The least number that is not kept exactly is read back. -/
theorem Decimal.readsBack_size : Decimal.ReadsBack (Float.ofNat UInt64.size) := by
  refine ⟨.ofNat 18446744073709552000, ?_, ?_, ?_⟩
  · rw [positional_size]
    decide +kernel
  · rw [Numeral.value_ofNat]
    decide
  · rw [Numeral.value_ofNat]
    decide +kernel

/-- The literal is printed as a numeral that is read as the literal again. -/
def Literal.ReadsBack (v : Literal) : Prop :=
  ∃ n : Numeral, v.text.toList = n.digits ∧ n.literal = v

namespace Literal

/-- Exact literals are read back. -/
theorem readsBack_whole (value : UInt64) : (whole value).ReadsBack := by
  refine ⟨.ofNat value.toNat, Nat.toList_repr, ?_⟩
  rw [Numeral.literal_eq_ofNat_value, Numeral.value_ofNat, ofNat, dif_pos value.toNat_lt_size,
    UInt64.ofNatLT_toNat]

/-- Rounded literals are read back if their number is. -/
theorem readsBack_rounded {x : Float} (h : Decimal.ReadsBack x) : (rounded x).ReadsBack := by
  rcases h with ⟨n, htext, hlarge, hnearest⟩
  refine ⟨n, htext, ?_⟩
  rw [Numeral.literal_eq_ofNat_value, ofNat, dif_neg (Nat.not_lt_of_le hlarge), hnearest]

end Literal

/-! ## What is spelled -/

namespace Spells

variable {gap front text : List Char} {b c : Chain Numeral}

/-- More blanks may stand in front. -/
theorem prepend (h : Spells text c) (hgap : ∀ c ∈ gap, Text.isBlank c = true) :
    Spells (gap ++ text) c := by
  cases h with
  | @last before behind n hbefore hbehind =>
    rw [← List.append_assoc]
    exact .last n (List.forall_mem_append.mpr ⟨hgap, hbefore⟩) hbehind
  | @link before behind rest c n op hbefore hbehind hrest =>
    rw [← List.append_assoc]
    exact .link n op (List.forall_mem_append.mpr ⟨hgap, hbefore⟩) hbehind hrest

/-- Two texts with an operator between them spell the two chains with the operator between
them. -/
theorem append (h : Spells front b) (hgap : ∀ c ∈ gap, Text.isBlank c = true) (op : Operator)
    (h' : Spells text c) :
    Spells (front ++ (gap ++ (op.symbol.toList ++ text))) (b.link op c) := by
  induction h with
  | @last before behind n hbefore hbehind =>
    have hlink : Spells _ ((Chain.single n).link op c) :=
      .link n op hbefore (List.forall_mem_append.mpr ⟨hbehind, hgap⟩) h'
    simpa only [List.append_assoc] using hlink
  | @link before behind rest d n next hbefore hbehind _ ih =>
    have hlink : Spells _ ((Chain.single n).link next (d.link op c)) :=
      .link n next hbefore hbehind ih
    rw [Chain.link_assoc]
    simpa only [List.append_assoc] using hlink

end Spells

/-- Without parentheses the operands of an operation stand on both sides of its symbol, with
a blank between. -/
theorem Expr.toList_withoutParentheses_text_binary (op : Operator) (s : Span)
    (left right : Expr) :
    (Text.withoutParentheses (Expr.binary op s left right).text).toList =
      (Text.withoutParentheses left.text).toList ++
        ([' '] ++ (op.symbol.toList ++ ([' '] ++ (Text.withoutParentheses right.text).toList))) := by
  have hsymbol : op.symbol.toList.filter (!Text.isParenthesis ·) = op.symbol.toList := by
    cases op <;> decide
  have hmarks : Text.isParenthesis '(' = true ∧ Text.isParenthesis ')' = true ∧
      Text.isParenthesis ' ' = false := by decide
  simp [Text.toList_withoutParentheses, Expr.text, hmarks, hsymbol]

/-- Without parentheses an expression spells the chain of its literals. -/
theorem Expr.exists_spells {e : Expr} (h : ∀ v s, Expr.literal v s ∈ e.nodes → v.ReadsBack) :
    ∃ c, Spells (Text.withoutParentheses e.text).toList c ∧
      c.map Numeral.literal = e.chain.map Prod.fst := by
  induction e with
  | literal v s =>
    rcases h v s List.mem_cons_self with ⟨n, htext, hliteral⟩
    have hdigits : ∀ c ∈ v.text.toList, c.isDigit = true := by
      rw [htext]
      exact n.isDigit_of_mem
    have hlast := @Spells.last [] [] n (List.forall_mem_nil _) (List.forall_mem_nil _)
    refine ⟨.single n, ?_, by rw [Chain.map_single, hliteral]; rfl⟩
    rw [Expr.text, Text.toList_withoutParentheses_of_isDigit hdigits, htext]
    simpa using hlast
  | binary op s left right ihLeft ihRight =>
    have hblank : ∀ c ∈ [' '], Text.isBlank c = true := List.forall_mem_singleton.mpr (by decide)
    rcases ihLeft fun v s hv => h v s (by simp [nodes, hv]) with ⟨b, hb, hbmap⟩
    rcases ihRight fun v s hv => h v s (by simp [nodes, hv]) with ⟨c, hc, hcmap⟩
    refine ⟨b.link op c, ?_, by rw [Chain.map_link, hbmap, hcmap, chain, Chain.map_link]⟩
    rw [toList_withoutParentheses_text_binary]
    exact hb.append hblank op (hc.prepend hblank)

/-! ## What determines an expression -/

namespace Grammar

variable {ts us : List Token} {c d : Chain (Literal × Span)} {e e' : Expr}

/-- Alternating tokens with the same chain of literals differ in their spans only. -/
theorem Alternates.map_mapSpan_eq (h : Alternates ts c) (h' : Alternates us d)
    (hchain : c.map Prod.fst = d.map Prod.fst) (s : Span) :
    ts.map (Token.mapSpan fun _ => s) = us.map (Token.mapSpan fun _ => s) := by
  induction h generalizing us d with
  | single v place =>
    cases h' with
    | single w there =>
      obtain rfl : v = w := congrArg Chain.first hchain
      rfl
    | link => cases congrArg Chain.operators hchain
  | @link v place op here ts c _ ih =>
    cases h' with
    | single => cases congrArg Chain.operators hchain
    | @link w there next where' us d hrest =>
      simp only [Chain.map_link, Chain.map_single] at hchain
      obtain ⟨rfl, rfl, hmap⟩ := Chain.link_single_inj hchain
      simp only [List.map_cons, Token.mapSpan, ih hrest hmap]

/-- Derived expressions with the same chain of literals differ in their spans only. -/
theorem Derives.unplaced_eq (h : Derives .sum ts e) (h' : Derives .sum us e')
    (hchain : e.chain.map Prod.fst = e'.chain.map Prod.fst) : e.unplaced = e'.unplaced := by
  have htokens := h.alternates.map_mapSpan_eq h'.alternates hchain ⟨0, 0⟩
  have hunplaced : Derives .sum _ e.unplaced := h.mapSpans (f := fun _ => ⟨0, 0⟩) fun _ _ => rfl
  rw [htokens] at hunplaced
  exact hunplaced.unique (h'.mapSpans fun _ _ => rfl)

end Grammar

/-! ## Reading back -/

/-- What is printed of a text, without parentheses, is read as the same expression up to the
places of its parts, and printed in the same way.  All exact literals are read back; rounded
ones are if they are finite and the texts of finite numbers are read as these numbers. -/
theorem Expr.ofText_withoutParentheses_print {text : String} {e : Expr}
    (h : Expr.ofText text = .ok e)
    (hfinite : ∀ x s, Expr.literal (.rounded x) s ∈ e.nodes → x.isFinite = true)
    (hreads : ∀ x s, Expr.literal (.rounded x) s ∈ e.nodes → x.isFinite = true →
      Decimal.ReadsBack x) :
    ∃ e', Expr.ofText (Text.withoutParentheses e.print) = .ok e' ∧ e'.unplaced = e.unplaced ∧
      e'.print = e.print := by
  have hliterals : ∀ v s, Expr.literal v s ∈ e.nodes → v.ReadsBack := by
    intro v s hv
    cases v with
    | whole value => exact Literal.readsBack_whole value
    | rounded x => exact Literal.readsBack_rounded (hreads x s hv (hfinite x s hv))
  rcases Expr.ofText_eq_ok_iff.mp h with ⟨tokens, _, hderives⟩
  rcases Expr.exists_spells hliterals with ⟨c, hspells, hmap⟩
  rcases hspells.exists_layout 0 with ⟨tokens', d, hlayout, halternates, hmap'⟩
  rcases halternates.exists_derives with ⟨e', hderives'⟩
  have hchain : e'.chain = d := hderives'.alternates.unique halternates
  have hunplaced : e'.unplaced = e.unplaced := by
    apply hderives'.unplaced_eq hderives
    rw [hchain, hmap', hmap]
  refine ⟨e', ?_, hunplaced, print_eq_of_unplaced_eq hunplaced⟩
  rw [print_eq_text]
  exact Expr.ofText_eq_ok_iff.mpr ⟨tokens', hlayout, hderives'⟩

/-- A number that is too large to be kept exactly is printed with other digits than it was
given with, and a product that is subtracted needs no parentheses. -/
theorem Expr.ofText_withoutParentheses_print_large :
    ∃ e e', Expr.ofText "18446744073709551616-2*3" = .ok e ∧
      e.print = "(18446744073709552000 - (2 * 3))" ∧
      Expr.ofText "18446744073709552000 - 2 * 3" = .ok e' ∧ e'.unplaced = e.unplaced := by
  have hlarge : (Numeral.ofNat UInt64.size).literal = .rounded (Float.ofNat UInt64.size) := by
    rw [Numeral.literal_eq_ofNat_value, Numeral.value_ofNat, Literal.ofNat,
      dif_neg (Nat.lt_irrefl _)]
  let e : Expr := .spanning .sub (.literal (Numeral.ofNat UInt64.size).literal ⟨0, 20⟩)
    (.spanning .mul (.literal (.whole 2) ⟨21, 22⟩) (.literal (.whole 3) ⟨23, 24⟩))
  have htext : Expr.ofText "18446744073709551616-2*3" = .ok e := by
    have hlayout := @Spaced.layout_textOf []
      [⟨[], .number (.ofNat UInt64.size), by simp⟩, ⟨[], .operator .sub, by simp⟩,
        ⟨[], .number (.ofDigit '2' rfl), by simp⟩, ⟨[], .operator .mul, by simp⟩,
        ⟨[], .number (.ofDigit '3' rfl), by simp⟩]
      (by simp) (by simp [Spaced.MayFollow, Lexeme.MayTouch]) 0
    exact Expr.ofText_eq_ok_iff.mpr ⟨_, hlayout, .offset rfl _ (.term (.factor (.literal _ _)))
      (.scale rfl _ (.factor (.literal _ _)) (.literal _ _))⟩
  have hrounded : ∀ x s, Expr.literal (.rounded x) s ∈ e.nodes → x = Float.ofNat UInt64.size := by
    intro x s hx
    simp only [e, hlarge, spanning, nodes, List.singleton_append, List.mem_cons, literal.injEq,
      Literal.rounded.injEq, reduceCtorEq, false_and, List.not_mem_nil, or_false, false_or] at hx
    exact hx.1
  have hprint : e.print = "(18446744073709552000 - (2 * 3))" := by
    rw [print_eq_text]
    simp only [e, hlarge, spanning, text, Literal.text, Decimal.positional_size]
    decide
  obtain ⟨e', hread, hunplaced, _⟩ := Expr.ofText_withoutParentheses_print htext
    (fun x s hx => by rw [hrounded x s hx]; decide +kernel)
    (fun x s hx _ => by rw [hrounded x s hx]; exact Decimal.readsBack_size)
  rw [hprint] at hread
  exact ⟨e, e', htext, hprint, hread, hunplaced⟩

end InfixArithmetic
