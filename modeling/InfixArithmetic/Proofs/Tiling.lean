import InfixArithmetic.Proofs.Slices
import InfixArithmetic.Proofs.Writing

/-!
# Tokens tile their text

The tokens of a text account for all of it.  They stand one behind the other, what stands
between them is blank, and each stands for exactly the characters in its span.  None of
them could have been longer.

Main results:

- `Token.Tiles`: how tokens and text belong together.
- `Token.Layout.exists_split`: a layout around one of its tokens.
- `Token.Layout.isBlank_of_outside`: outside of the tokens of a layout all is blank.
- `Token.tiles_of_scan`: scanned tokens tile the text.
-/

namespace InfixArithmetic

/-- The span has the position in it. -/
def Span.Contains (s : Span) (position : Nat) : Prop :=
  s.start ≤ position ∧ position < s.stop

/-- The tokens tile the text: they are nonempty and in order, only blanks are left outside,
every token is what the characters in its span stand for, and no number could have been
extended by a digit and no star by another star. -/
structure Token.Tiles (text : String) (tokens : List Token) : Prop where
  span_bounds : ∀ t ∈ tokens, t.span.start < t.span.stop ∧ t.span.stop ≤ text.length
  pairwise : tokens.Pairwise fun t u => t.span.stop ≤ u.span.start
  isBlank_of_outside : ∀ (i : Nat) (c : Char), text.toList[i]? = some c →
    (∀ t ∈ tokens, ¬ t.span.Contains i) → Text.isBlank c = true
  denotes_slice : ∀ t ∈ tokens, ∃ lexeme : Lexeme,
    (t.span.slice text).toList = lexeme.text ∧ lexeme.Denotes t.span t
  not_isDigit_before : ∀ v s, .number v s ∈ tokens → ∀ (i : Nat) (c : Char), i + 1 = s.start →
    text.toList[i]? = some c → c.isDigit = false
  not_isDigit_behind : ∀ v s, .number v s ∈ tokens → ∀ c : Char,
    text.toList[s.stop]? = some c → c.isDigit = false
  ne_star_behind : ∀ s, .operator .mul s ∈ tokens → text.toList[s.stop]? ≠ some '*'

namespace Lexeme

variable {first second : Lexeme} {gap front rest : List Char}

theorem text_ne_nil (lexeme : Lexeme) : lexeme.text ≠ [] := by
  cases lexeme with
  | number n => exact n.digits_ne_nil
  | operator op => cases op <;> exact List.cons_ne_nil _ _

/-- The lexeme is not the continuation of what stands before it. -/
def BeginsAfter (front : List Char) : Lexeme → Prop
  | number _ => ∀ c ∈ front.getLast?, c.isDigit = false
  | operator _ => True

/-- Every lexeme begins behind blanks. -/
theorem beginsAfter_of_blank (lexeme : Lexeme) (hgap : ∀ c ∈ gap, Text.isBlank c = true) :
    lexeme.BeginsAfter gap := by
  cases lexeme with
  | number n =>
    intro c hc
    have hblank : Text.isBlank c = true := hgap c (List.mem_of_getLast? hc)
    exact isDigit_of_isWordCharacter_eq_false (isWordCharacter_of_isBlank hblank)
  | operator op => trivial

/-- Where one lexeme ends, the next one begins. -/
theorem EndsBefore.beginsAfter (h : first.EndsBefore (second.text ++ rest)) (gap : List Char) :
    second.BeginsAfter (gap ++ first.text) := by
  cases second with
  | operator op => trivial
  | number n =>
    rcases List.exists_cons_of_ne_nil n.digits_ne_nil with ⟨digit, others, hdigits⟩
    cases first with
    | number m =>
      have hdigit : digit.isDigit = true := n.isDigit_of_mem digit (by simp [hdigits])
      have hends : isWordCharacter digit = false := h digit (by simp [text, hdigits])
      rw [isWordCharacter_of_isDigit hdigit] at hends
      cases hends
    | operator op =>
      intro c hc
      have hmem : c ∈ op.symbol.toList := by
        rw [Option.mem_def, List.getLast?_append_of_ne_nil _ (text_ne_nil _)] at hc
        exact List.mem_of_getLast? hc
      exact isDigit_of_isWordCharacter_eq_false (Operator.isWordCharacter_of_mem_symbol hmem)

/-- Only the last character decides where a lexeme begins. -/
theorem BeginsAfter.append_left {lexeme : Lexeme} (h : lexeme.BeginsAfter front)
    (hne : front ≠ []) (before : List Char) : lexeme.BeginsAfter (before ++ front) := by
  cases lexeme with
  | operator op => trivial
  | number n =>
    intro c hc
    rw [Option.mem_def, List.getLast?_append_of_ne_nil _ hne] at hc
    exact h c hc

end Lexeme

namespace Token

variable {position : Nat} {text : List Char} {tokens before after : List Token} {t : Token}

/-- The text around one of the tokens that lie in it. -/
theorem Layout.exists_split (h : Layout position text (before ++ t :: after)) :
    ∃ front lexeme rest, text = front ++ (Lexeme.text lexeme ++ rest) ∧
      t = lexeme.token
        ⟨position + front.length, position + front.length + lexeme.text.length⟩ ∧
      lexeme.EndsBefore rest ∧ lexeme.BeginsAfter front := by
  induction before generalizing position text with
  | nil =>
    rcases h.exists_of_cons with ⟨gap, lexeme, rest, rfl, hgap, hends, ht, _⟩
    exact ⟨gap, lexeme, rest, rfl, ht, hends, lexeme.beginsAfter_of_blank hgap⟩
  | cons u before ih =>
    rcases h.exists_of_cons with ⟨gap, first, rest, rfl, _, hfirst, _, hrest⟩
    rcases ih hrest with ⟨front, lexeme, rest, rfl, ht, hends, hbegins⟩
    have hlength : position + (gap ++ first.text ++ front).length =
        position + gap.length + first.text.length + front.length := by
      rw [List.length_append, List.length_append]
      omega
    refine ⟨gap ++ first.text ++ front, lexeme, rest, by simp, ?_, hends, ?_⟩
    · rw [ht, hlength]
    · -- Without a blank between the two lexemes, the first one is all that can separate them.
      by_cases hfront : front = []
      · subst hfront
        rw [List.append_nil]
        exact hfirst.beginsAfter gap
      · exact hbegins.append_left hfront _

/-- No token of a layout starts before it. -/
theorem Layout.le_start (h : Layout position text tokens) (ht : t ∈ tokens) :
    position ≤ t.span.start := by
  rcases List.append_of_mem ht with ⟨before, after, rfl⟩
  rcases h.exists_split with ⟨front, lexeme, rest, _, rfl, _, _⟩
  rw [Lexeme.span_token]
  exact Nat.le_add_right position front.length

/-- The tokens of a layout stand one behind the other. -/
theorem Layout.pairwise (h : Layout position text tokens) :
    tokens.Pairwise fun t u => t.span.stop ≤ u.span.start := by
  induction h with
  | blanks => exact .nil
  | token lexeme _ _ hrest ih =>
    refine .cons ?_ ih
    intro u hu
    rw [Lexeme.span_token]
    exact hrest.le_start hu

/-- Outside of the tokens of a layout all is blank. -/
theorem Layout.isBlank_of_outside (h : Layout position text tokens) {i : Nat} {c : Char}
    (hc : text[i]? = some c) (hout : ∀ t ∈ tokens, ¬ t.span.Contains (position + i)) :
    Text.isBlank c = true := by
  induction h generalizing i with
  | blanks hgap => exact hgap c (List.mem_of_getElem? hc)
  | @token position gap rest tokens lexeme hgap _ _ ih =>
    rcases Nat.lt_or_ge i gap.length with hbefore | hfrom
    · rw [List.getElem?_append_left hbefore] at hc
      exact hgap c (List.mem_of_getElem? hc)
    · rw [List.getElem?_append_right hfrom] at hc
      rcases Nat.lt_or_ge (i - gap.length) lexeme.text.length with hinside | hbehind
      · refine absurd ?_ (hout _ List.mem_cons_self)
        simp only [Lexeme.span_token, Span.Contains]
        omega
      · rw [List.getElem?_append_right hbehind] at hc
        refine ih hc fun u hu hcontains => hout u (List.mem_cons_of_mem _ hu) ?_
        have hsame : position + gap.length + lexeme.text.length +
            (i - gap.length - lexeme.text.length) = position + i := by omega
        rwa [hsame] at hcontains

/-! ## Scanned tokens -/

/-- What stands right behind the middle of a text. -/
theorem getElem?_behind (front middle rest : List Char) :
    (front ++ (middle ++ rest))[front.length + middle.length]? = rest.head? := by
  rw [← List.append_assoc, ← List.length_append, List.getElem?_append_right (Nat.le_refl _),
    Nat.sub_self, List.head?_eq_getElem?]

/-- What stands right before the rest of a text. -/
theorem getElem?_before {front rest : List Char} {i : Nat} (hi : i + 1 = front.length) :
    (front ++ rest)[i]? = front.getLast? := by
  have hlt : i < front.length := by omega
  have hlast : front.length - 1 = i := by omega
  rw [List.getElem?_append_left hlt, List.getLast?_eq_getElem?, hlast]

/-- The text around a scanned token. -/
theorem exists_split_of_scan {text : String} (h : Token.scan text = .ok tokens)
    (ht : t ∈ tokens) :
    ∃ front lexeme rest, text.toList = front ++ (Lexeme.text lexeme ++ rest) ∧
      t = lexeme.token ⟨front.length, front.length + lexeme.text.length⟩ ∧
      lexeme.EndsBefore rest ∧ lexeme.BeginsAfter front := by
  rcases List.append_of_mem ht with ⟨before, after, rfl⟩
  rcases (scan_eq_ok_iff.mp h).exists_split with ⟨front, lexeme, rest, htext, ht, hends, hbegins⟩
  rw [Nat.zero_add] at ht
  exact ⟨front, lexeme, rest, htext, ht, hends, hbegins⟩

/-- The tokens that a text is split into tile it. -/
theorem tiles_of_scan {text : String} (h : Token.scan text = .ok tokens) :
    Tiles text tokens where
  span_bounds := by
    intro t ht
    rcases exists_split_of_scan h ht with ⟨front, lexeme, rest, htext, rfl, _, _⟩
    have hpositive : 0 < lexeme.text.length := List.length_pos_iff.mpr lexeme.text_ne_nil
    rw [Lexeme.span_token, ← String.length_toList, htext, List.length_append, List.length_append]
    constructor
    · exact Nat.lt_add_of_pos_right hpositive
    · simp only
      omega
  pairwise := (scan_eq_ok_iff.mp h).pairwise
  isBlank_of_outside := by
    intro i c hc hout
    apply (scan_eq_ok_iff.mp h).isBlank_of_outside hc
    rwa [Nat.zero_add]
  denotes_slice := by
    intro t ht
    rcases exists_split_of_scan h ht with ⟨front, lexeme, rest, htext, rfl, _, _⟩
    refine ⟨lexeme, ?_, ?_⟩
    · rw [Lexeme.span_token, Span.toList_slice, htext, ← List.append_assoc, ← List.length_append,
        List.take_left, List.drop_left]
    · rw [Lexeme.span_token]
      exact lexeme.denotes_token _
  not_isDigit_before := by
    intro v s hs i c hi hc
    rcases exists_split_of_scan h hs with ⟨front, lexeme, rest, htext, htoken, _, hbegins⟩
    cases lexeme with
    | operator op => cases htoken
    | number n =>
      cases htoken
      rw [htext, getElem?_before hi] at hc
      exact hbegins c hc
  not_isDigit_behind := by
    intro v s hs c hc
    rcases exists_split_of_scan h hs with ⟨front, lexeme, rest, htext, htoken, hends, _⟩
    cases lexeme with
    | operator op => cases htoken
    | number n =>
      cases htoken
      rw [htext, getElem?_behind] at hc
      exact isDigit_of_isWordCharacter_eq_false (hends c hc)
  ne_star_behind := by
    intro s hs
    rcases exists_split_of_scan h hs with ⟨front, lexeme, rest, htext, htoken, hends, _⟩
    cases lexeme with
    | number n => cases htoken
    | operator op =>
      cases htoken
      rw [htext, getElem?_behind]
      exact hends

/-- Leading zeros, three stars and a tab. -/
theorem tiles_of_scan_stars :
    Token.scan "007***\t5" = .ok [.number (.whole 7) ⟨0, 3⟩, .operator .pow ⟨3, 5⟩,
        .operator .mul ⟨5, 6⟩, .number (.whole 5) ⟨7, 8⟩] ∧
      Tiles "007***\t5" [.number (.whole 7) ⟨0, 3⟩, .operator .pow ⟨3, 5⟩,
        .operator .mul ⟨5, 6⟩, .number (.whole 5) ⟨7, 8⟩] := by
  have hscan : Token.scan "007***\t5" = .ok [.number (.whole 7) ⟨0, 3⟩, .operator .pow ⟨3, 5⟩,
      .operator .mul ⟨5, 6⟩, .number (.whole 5) ⟨7, 8⟩] := by cbv
  exact ⟨hscan, tiles_of_scan hscan⟩

end Token

end InfixArithmetic
