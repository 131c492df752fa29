import InfixArithmetic.Proofs.Layout
import Mathlib.Data.List.Chain
import Mathlib.Data.List.Forall2

/-!
# Writing tokens and reading them back

Any row of lexemes can be written down, with blanks as one likes, as long as two lexemes
that would run into each other are kept apart: two numerals, or a star with a star behind
it.  Scanning the written text gives back one token for every lexeme, at the place where
the lexeme was written.

Main results:

- `Numeral.value` and `Lexeme.Denotes`: what lexemes stand for.
- `Lexeme.MayTouch.endsBefore`: lexemes that may touch do not run into each other.
- `Writing.layout`: the tokens of a writing lie in its text.
- `Writing.scan_text`: scanning a written text gives the written lexemes back.
-/

namespace InfixArithmetic

/-! ## What lexemes stand for -/

/-- The value of a row of decimal digits, each of which counts ten times as much as the
next. -/
def decimalValue : List Char → Nat
  | [] => 0
  | c :: rest => (c.toNat - '0'.toNat) * Nat.pow 10 rest.length + decimalValue rest

/-- The number that a numeral is the decimal form of. -/
def Numeral.value (n : Numeral) : Nat :=
  decimalValue n.digits

/-- Reading digits from the left gives their value. -/
theorem ofDigitChars_eq_decimalValue (digits : List Char) :
    Nat.ofDigitChars 10 digits 0 = decimalValue digits := by
  induction digits with
  | nil => rfl
  | cons c rest ih =>
    rw [Nat.ofDigitChars_cons, Nat.ofDigitChars_eq_ofDigitChars_zero, ih, decimalValue,
      Nat.mul_zero, Nat.zero_add, Nat.mul_comm]
    rfl

/-- The literal of a numeral depends on its value only. -/
theorem Numeral.literal_eq_ofNat_value (n : Numeral) : n.literal = .ofNat n.value := by
  rw [Numeral.literal, ofDigitChars_eq_decimalValue, Numeral.value]

/-- The lexeme, standing at a place, stands for the token: the symbol of an operator for
the operator, and a numeral for its value, which is exact below `2 ^ 64` and rounded to
double precision otherwise. -/
inductive Lexeme.Denotes : Lexeme → Span → Token → Prop where
  | operator (op : Operator) (s : Span) : Denotes (.operator op) s (.operator op s)
  | whole (n : Numeral) (v : UInt64) (s : Span) :
      v.toNat = n.value → Denotes (.number n) s (.number (.whole v) s)
  | rounded (n : Numeral) (s : Span) :
      UInt64.size ≤ n.value → Denotes (.number n) s (.number (.rounded (Float.ofNat n.value)) s)

/-- A lexeme is read as what it stands for. -/
theorem Lexeme.denotes_token (lexeme : Lexeme) (s : Span) : lexeme.Denotes s (lexeme.token s) := by
  cases lexeme with
  | operator op => exact .operator op s
  | number n =>
    rw [Lexeme.token, n.literal_eq_ofNat_value, Literal.ofNat]
    split
    next hsmall => exact .whole n _ s UInt64.toNat_ofNatLT
    next hlarge => exact .rounded n s (Nat.le_of_not_lt hlarge)

/-! ## Lexemes side by side -/

namespace Lexeme

/-- The first lexeme may be written directly in front of the second. -/
def MayTouch : Lexeme → Lexeme → Prop
  | number _, number _ => False
  | operator .mul, operator op => op ≠ .mul ∧ op ≠ .pow
  | _, _ => True

variable {first second : Lexeme} {gap rest : List Char}

/-- Lexemes that may touch do not run into each other. -/
theorem MayTouch.endsBefore (h : first.MayTouch second) (rest : List Char) :
    first.EndsBefore (second.text ++ rest) := by
  cases first with
  | number n =>
    cases second with
    | number m => exact h.elim
    | operator op => exact op.endsWord_symbol_append rest
  | operator op =>
    cases op with
    | mul =>
      cases second with
      | number m => exact m.head?_ne_star (List.forall_mem_nil _) rest
      | operator next =>
        cases next with
        | mul => exact absurd rfl h.1
        | pow => exact absurd rfl h.2
        | _ => simp [EndsBefore, text, Operator.symbol]
    | _ => trivial

/-- A blank ends every lexeme. -/
theorem endsBefore_append (first : Lexeme) (hne : gap ≠ [])
    (hgap : ∀ c ∈ gap, Text.isBlank c = true) (rest : List Char) :
    first.EndsBefore (gap ++ rest) := by
  rcases List.exists_cons_of_ne_nil hne with ⟨blank, others, rfl⟩
  have hblank : Text.isBlank blank = true := hgap blank List.mem_cons_self
  cases first with
  | number n =>
    intro c hc
    obtain rfl : blank = c := by simpa using hc
    exact isWordCharacter_of_isBlank hblank
  | operator op =>
    cases op with
    | mul =>
      intro hstar
      obtain rfl : blank = '*' := by simpa using hstar
      exact absurd hblank (by decide)
    | _ => trivial

/-- Every lexeme ends where only blanks follow. -/
theorem endsBefore_of_blank (first : Lexeme) (hgap : ∀ c ∈ gap, Text.isBlank c = true) :
    first.EndsBefore gap := by
  by_cases hne : gap = []
  · rw [hne]
    exact first.endsBefore_nil
  · have hends := first.endsBefore_append hne hgap []
    rwa [List.append_nil] at hends

end Lexeme

/-! ## Writings -/

/-- A lexeme with the blanks in front of it. -/
structure Spaced where
  gap : List Char
  lexeme : Lexeme
  isBlank_of_mem_gap : ∀ c ∈ gap, Text.isBlank c = true

/-- The second lexeme may follow the first: there is a blank between them, or they may
touch. -/
def Spaced.MayFollow (first second : Spaced) : Prop :=
  second.gap ≠ [] ∨ first.lexeme.MayTouch second.lexeme

/-- A row of lexemes with blanks before, between and behind them, in which neighbours are
kept apart where they have to be. -/
structure Writing where
  items : List Spaced
  ending : List Char
  isBlank_of_mem_ending : ∀ c ∈ ending, Text.isBlank c = true
  isChain : items.IsChain Spaced.MayFollow

namespace Spaced

variable {ending : List Char} {items : List Spaced}

/-- How lexemes and blanks are written, up to the blanks at the end. -/
def textOf (ending : List Char) : List Spaced → List Char
  | [] => ending
  | item :: items => item.gap ++ (item.lexeme.text ++ textOf ending items)

/-- The lexemes with the spans of their characters, in a text that starts at a position. -/
def placesFrom (position : Nat) : List Spaced → List (Lexeme × Span)
  | [] => []
  | item :: items =>
    let start := position + item.gap.length
    let stop := start + item.lexeme.text.length
    (item.lexeme, ⟨start, stop⟩) :: placesFrom stop items

/-- A lexeme ends before the lexemes that may follow it. -/
theorem endsBefore_textOf {item : Spaced} (hending : ∀ c ∈ ending, Text.isBlank c = true)
    (h : (item :: items).IsChain MayFollow) : item.lexeme.EndsBefore (textOf ending items) := by
  cases items with
  | nil => exact item.lexeme.endsBefore_of_blank hending
  | cons next items =>
    rcases (List.isChain_cons_cons.mp h).1 with hgap | htouch
    · exact item.lexeme.endsBefore_append hgap next.isBlank_of_mem_gap _
    · by_cases hgap : next.gap = []
      · rw [textOf, hgap]
        exact htouch.endsBefore _
      · exact item.lexeme.endsBefore_append hgap next.isBlank_of_mem_gap _

/-- The tokens of written lexemes lie in the text. -/
theorem layout_textOf (hending : ∀ c ∈ ending, Text.isBlank c = true)
    (h : items.IsChain MayFollow) (position : Nat) :
    Token.Layout position (textOf ending items)
      ((placesFrom position items).map fun place => place.1.token place.2) := by
  induction items generalizing position with
  | nil => exact .blanks hending
  | cons item items ih =>
    exact .token item.lexeme item.isBlank_of_mem_gap (endsBefore_textOf hending h) (ih h.tail _)

end Spaced

namespace Writing

/-- The written text. -/
def text (w : Writing) : String :=
  .ofList (Spaced.textOf w.ending w.items)

/-- The lexemes with the spans of their characters in the text. -/
def places (w : Writing) : List (Lexeme × Span) :=
  Spaced.placesFrom 0 w.items

/-- Scanning a written text gives one token for every lexeme, in order.  It stands at the
place of the lexeme, and is what the lexeme stands for. -/
theorem scan_text (w : Writing) :
    ∃ tokens, Token.scan w.text = .ok tokens ∧
      List.Forall₂ (fun place t => place.1.Denotes place.2 t) w.places tokens := by
  refine ⟨w.places.map fun place => place.1.token place.2, ?_, ?_⟩
  · rw [Token.scan_eq_ok_iff, text, String.toList_ofList]
    exact Spaced.layout_textOf w.isBlank_of_mem_ending w.isChain 0
  · rw [List.forall₂_map_right_iff]
    exact List.forall₂_same.mpr fun place _ => place.1.denotes_token place.2

/-- Three stars in a row are a power and a product, and a tab stands before the second
numeral. -/
theorem scan_text_stars :
    ∃ tokens, Token.scan "7***\t5" = .ok tokens ∧
      List.Forall₂ (fun place t => Lexeme.Denotes place.1 place.2 t)
        [(.number (.ofDigit '7' rfl), ⟨0, 1⟩), (.operator .pow, ⟨1, 3⟩),
          (.operator .mul, ⟨3, 4⟩), (.number (.ofDigit '5' rfl), ⟨5, 6⟩)] tokens := by
  have htab : ∀ c ∈ ['\t'], Text.isBlank c = true := List.forall_mem_singleton.mpr (by decide)
  let w : Writing :=
    { items := [⟨[], .number (.ofDigit '7' rfl), by simp⟩, ⟨[], .operator .pow, by simp⟩,
        ⟨[], .operator .mul, by simp⟩, ⟨['\t'], .number (.ofDigit '5' rfl), htab⟩]
      ending := []
      isBlank_of_mem_ending := by simp
      isChain := by simp [Spaced.MayFollow, Lexeme.MayTouch] }
  exact w.scan_text

end Writing

end InfixArithmetic
