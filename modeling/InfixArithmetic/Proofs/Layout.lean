import InfixArithmetic.Proofs.Scanning

/-!
# How tokens lie in a text

A text that splits into tokens is a row of lexemes, which are runs of digits and symbols
of operators, with blanks before, between and behind them.  A lexeme ends where the text
does not go on with it.

Main results:

- `Token.Layout`: a text with its tokens and their places.
- `Token.readFrom_eq_ok_iff`: reading succeeds with exactly the tokens that lie in the
  text.
- `Token.Layout.exists_of_cons`: the first token of a layout.
- `Token.Layout.exists_suffix`, `Token.Layout.exists_rest` and
  `Token.Layout.exists_prefix`: a layout can be cut before and behind each of its tokens.
-/

namespace InfixArithmetic

/-! ## Lexemes -/

/-- A run of at least one decimal digit. -/
structure Numeral where
  digits : List Char
  digits_ne_nil : digits ≠ []
  isDigit_of_mem : ∀ c ∈ digits, c.isDigit = true

/-- The numeral of one digit. -/
def Numeral.ofDigit (c : Char) (h : c.isDigit = true) : Numeral where
  digits := [c]
  digits_ne_nil := List.cons_ne_nil c []
  isDigit_of_mem := List.forall_mem_singleton.mpr h

/-- The literal that a numeral denotes. -/
def Numeral.literal (n : Numeral) : Literal :=
  .ofNat (Nat.ofDigitChars 10 n.digits 0)

theorem Numeral.read?_digits (n : Numeral) : Literal.read? n.digits = some n.literal := by
  have hall : n.digits.all Char.isDigit = true := List.all_eq_true.mpr n.isDigit_of_mem
  simp [Literal.read?, hall, Numeral.literal]

/-- The characters of one token. -/
inductive Lexeme where
  | number (n : Numeral)
  | operator (op : Operator)

namespace Lexeme

/-- How a lexeme is written. -/
def text : Lexeme → List Char
  | number n => n.digits
  | operator op => op.symbol.toList

/-- The token of a lexeme that stands at a place. -/
def token (s : Span) : Lexeme → Token
  | number n => .number n.literal s
  | operator op => .operator op s

/-- The lexeme is not continued by what follows it. -/
def EndsBefore (rest : List Char) : Lexeme → Prop
  | number _ => Token.EndsWord rest
  | operator .mul => rest.head? ≠ some '*'
  | operator _ => True

@[simp]
theorem span_token (s : Span) (lexeme : Lexeme) : (lexeme.token s).span = s := by
  cases lexeme <;> rfl

/-- At the end of the text every lexeme ends. -/
theorem endsBefore_nil (lexeme : Lexeme) : lexeme.EndsBefore [] := by
  cases lexeme with
  | number n => simp [EndsBefore, Token.EndsWord]
  | operator op => cases op <;> simp [EndsBefore]

/-- Only the next character decides whether a lexeme ends. -/
theorem EndsBefore.of_append {front rest : List Char} {lexeme : Lexeme}
    (h : lexeme.EndsBefore (front ++ rest)) : lexeme.EndsBefore front := by
  cases front with
  | nil => exact endsBefore_nil lexeme
  | cons c front =>
    cases lexeme with
    | number n => exact h
    | operator op => cases op <;> exact h

end Lexeme

/-- The symbol of an operator is read as that operator where it ends. -/
theorem Operator.read?_symbol_append {op : Operator} {rest : List Char}
    (h : (Lexeme.operator op).EndsBefore rest) :
    Operator.read? (op.symbol.toList ++ rest) = some (op, rest) := by
  cases op with
  | mul =>
    cases rest with
    | nil => rfl
    | cons c rest =>
      have hc : c ≠ '*' := fun hc => h (by rw [hc]; rfl)
      simp [Operator.symbol, Operator.read?, hc]
  | _ => rfl

/-- An operator is read up to where it ends. -/
theorem Operator.endsBefore_of_read? {op : Operator} {text rest : List Char}
    (h : Operator.read? text = some (op, rest)) : (Lexeme.operator op).EndsBefore rest := by
  unfold Operator.read? at h
  split at h <;> cases h
  case h_4 hstar =>
    intro hhead
    rcases List.head?_eq_some_iff.mp hhead with ⟨tail, htail⟩
    exact hstar tail htail
  all_goals trivial

/-! ## Where lexemes end -/

/-- Blanks end a word, and what ends it still ends it behind blanks. -/
theorem Token.EndsWord.append_of_blank {gap rest : List Char} (hrest : Token.EndsWord rest)
    (hgap : ∀ c ∈ gap, Text.isBlank c = true) : Token.EndsWord (gap ++ rest) := by
  cases gap with
  | nil => exact hrest
  | cons c gap =>
    intro d hd
    cases hd
    exact isWordCharacter_of_isBlank (hgap c List.mem_cons_self)

/-- An operator ends the word before it. -/
theorem Operator.endsWord_symbol_append (op : Operator) (rest : List Char) :
    Token.EndsWord (op.symbol.toList ++ rest) := by
  intro c hc
  apply Operator.isWordCharacter_of_mem_symbol
  · show c ∈ op.symbol.toList
    cases op <;> cases hc <;> exact List.mem_cons_self

/-- A numeral behind blanks does not start with a star. -/
theorem Numeral.head?_ne_star (n : Numeral) {before : List Char}
    (hbefore : ∀ c ∈ before, Text.isBlank c = true) (rest : List Char) :
    (before ++ (n.digits ++ rest)).head? ≠ some '*' := by
  intro hstar
  cases before with
  | nil =>
    rcases List.exists_cons_of_ne_nil n.digits_ne_nil with ⟨first, others, hdigits⟩
    have hdigit : first.isDigit = true := n.isDigit_of_mem first (by simp [hdigits])
    simp only [List.nil_append, hdigits, List.cons_append, List.head?_cons,
      Option.some.injEq] at hstar
    subst hstar
    exact absurd hdigit (by decide)
  | cons c before =>
    have hblank : Text.isBlank c = true := hbefore c List.mem_cons_self
    simp only [List.cons_append, List.head?_cons, Option.some.injEq] at hstar
    subst hstar
    exact absurd hblank (by decide)

namespace Token

variable {position : Nat} {gap rest text : List Char} {tokens before after : List Token}
  {t : Token}

/-- A lexeme in front is one token. -/
theorem readFrom_lexeme (position : Nat) {lexeme : Lexeme} (h : lexeme.EndsBefore rest) :
    readFrom position (lexeme.text ++ rest) =
      (readFrom (position + lexeme.text.length) rest).map
        (lexeme.token ⟨position, position + lexeme.text.length⟩ :: ·) := by
  cases lexeme with
  | number n =>
    rcases List.exists_cons_of_ne_nil n.digits_ne_nil with ⟨first, others, hdigits⟩
    have hdigit : ∀ c ∈ first :: others, c.isDigit = true := by
      rw [← hdigits]
      exact n.isDigit_of_mem
    have hword : ∀ c ∈ first :: others, isWordCharacter c = true := by
      intro c hc
      exact isWordCharacter_of_isDigit (hdigit c hc)
    have hread : Literal.read? (first :: others) = some n.literal := by
      rw [← hdigits]
      exact n.read?_digits
    have hjudge : ofWord position first others =
        .ok (.number n.literal ⟨position, position + (first :: others).length⟩) := by
      simp only [ofWord, hdigit first List.mem_cons_self, if_true, hread]
    simp only [Lexeme.text, Lexeme.token, hdigits]
    rw [readFrom_word position hword h, hjudge]
  | operator op =>
    simp only [Lexeme.text, Lexeme.token]
    rw [readFrom_operator position (Operator.read?_symbol_append h), Operator.length_symbol]

/-! ## Layouts -/

/-- The tokens with their places lie in the text, which starts at a position: blanks and
lexemes in turn. -/
inductive Layout : Nat → List Char → List Token → Prop where
  | blanks {position : Nat} {gap : List Char} :
      (∀ c ∈ gap, Text.isBlank c = true) → Layout position gap []
  | token {position : Nat} {gap rest : List Char} {tokens : List Token} (lexeme : Lexeme) :
      (∀ c ∈ gap, Text.isBlank c = true) → lexeme.EndsBefore rest →
      Layout (position + gap.length + lexeme.text.length) rest tokens →
      Layout position (gap ++ (lexeme.text ++ rest))
        (lexeme.token ⟨position + gap.length, position + gap.length + lexeme.text.length⟩ ::
          tokens)

/-- The first token of a layout. -/
theorem Layout.exists_of_cons (h : Layout position text (t :: tokens)) :
    ∃ gap lexeme rest, text = gap ++ (Lexeme.text lexeme ++ rest) ∧
      (∀ c ∈ gap, Text.isBlank c = true) ∧ lexeme.EndsBefore rest ∧
      t = lexeme.token
        ⟨position + gap.length, position + gap.length + lexeme.text.length⟩ ∧
      Layout (position + gap.length + lexeme.text.length) rest tokens := by
  cases h with
  | token lexeme hgap hends hrest => exact ⟨_, lexeme, _, rfl, hgap, hends, rfl, hrest⟩

/-- A blank may stand in front of a layout. -/
theorem Layout.cons_blank {c : Char} (hblank : Text.isBlank c = true)
    (h : Layout (position + 1) text tokens) : Layout position (c :: text) tokens := by
  have hgap : ∀ {gap : List Char}, (∀ d ∈ gap, Text.isBlank d = true) →
      ∀ d ∈ c :: gap, Text.isBlank d = true := by
    intro gap hgap d hd
    rcases List.mem_cons.mp hd with rfl | hd
    · exact hblank
    · exact hgap d hd
  cases h with
  | blanks hblanks => exact .blanks (hgap hblanks)
  | @token _ gap rest tokens lexeme hblanks hends hrest =>
    have hposition : position + 1 + gap.length = position + (c :: gap).length := by
      rw [List.length_cons]
      omega
    rw [hposition] at hrest ⊢
    exact .token lexeme (hgap hblanks) hends hrest

/-- A lexeme may stand in front of a layout. -/
theorem Layout.append_lexeme {lexeme : Lexeme} (hends : lexeme.EndsBefore rest)
    (h : Layout (position + lexeme.text.length) rest tokens) :
    Layout position (lexeme.text ++ rest)
      (lexeme.token ⟨position, position + lexeme.text.length⟩ :: tokens) :=
  @Layout.token position [] rest tokens lexeme (by simp) hends h

/-- Whatever lies in a text is read from it. -/
theorem readFrom_of_layout (h : Layout position text tokens) :
    readFrom position text = .ok tokens := by
  induction h with
  | @blanks position gap hgap =>
    have hread : readFrom position (gap ++ []) = readFrom (position + gap.length) [] :=
      readFrom_append_of_blank position hgap
    rw [List.append_nil, readFrom_nil] at hread
    exact hread
  | token lexeme hgap hends _ ih =>
    rw [readFrom_append_of_blank _ hgap, readFrom_lexeme _ hends, ih]
    rfl

/-- A word that is no fault is a numeral. -/
theorem exists_numeral_of_ofWord {first : Char} {others : List Char}
    (h : ofWord position first others = .ok t) :
    ∃ n : Numeral, n.digits = first :: others ∧
      t = .number n.literal ⟨position, position + (first :: others).length⟩ := by
  unfold ofWord at h
  by_cases hdigit : first.isDigit = true
  · simp only [hdigit, if_true] at h
    cases hread : Literal.read? (first :: others) with
    | none =>
      rw [hread] at h
      cases h
    | some value =>
      rw [hread] at h
      have hall : ∀ c ∈ first :: others, c.isDigit = true := by
        rw [← Literal.read?_isSome_iff, hread]
        rfl
      let n : Numeral := ⟨first :: others, List.cons_ne_nil _ _, hall⟩
      have hvalue : value = n.literal := by
        have hnumeral : Literal.read? (first :: others) = some n.literal := n.read?_digits
        rw [hread] at hnumeral
        exact Option.some.inj hnumeral
      cases h
      exact ⟨n, rfl, by rw [hvalue]⟩
  · simp [hdigit] at h

/-- A list that was read with a first token was read behind that token. -/
theorem exists_of_map_cons_eq_ok {outcome : Except LexicalFault (List Token)}
    (h : outcome.map (t :: ·) = .ok tokens) :
    ∃ others, outcome = .ok others ∧ tokens = t :: others := by
  cases outcome with
  | error fault => cases h
  | ok others =>
    cases h
    exact ⟨others, rfl, rfl⟩

/-- Whatever is read from a text lies in it. -/
theorem layout_of_readFrom (h : readFrom position text = .ok tokens) :
    Layout position text tokens := by
  induction text using textInduction generalizing position tokens with
  | nil =>
    rw [readFrom_nil] at h
    cases h
    exact .blanks (by simp)
  | blank c rest hblank ih =>
    rw [readFrom_blank _ hblank] at h
    exact (ih h).cons_blank hblank
  | operator text op after hread ih =>
    rw [readFrom_operator _ hread] at h
    rcases exists_of_map_cons_eq_ok h with ⟨others, hothers, rfl⟩
    have hlayout : Layout (position + op.symbol.toList.length) after others := by
      rw [Operator.length_symbol]
      exact ih hothers
    have hends : (Lexeme.operator op).EndsBefore after := Operator.endsBefore_of_read? hread
    have hwhole := Layout.append_lexeme hends hlayout
    simp only [Lexeme.text, Lexeme.token, Operator.length_symbol] at hwhole
    rwa [← Operator.eq_symbol_append_of_read? hread] at hwhole
  | word first others rest hword hends ih =>
    rw [readFrom_word _ hword hends] at h
    cases hjudge : ofWord position first others with
    | error fault =>
      rw [hjudge] at h
      cases h
    | ok token =>
      rw [hjudge] at h
      rcases exists_of_map_cons_eq_ok h with ⟨tail, htail, rfl⟩
      rcases exists_numeral_of_ofWord hjudge with ⟨n, hdigits, rfl⟩
      rw [← hdigits] at htail ⊢
      have hnumeral : (Lexeme.number n).EndsBefore rest := hends
      exact Layout.append_lexeme hnumeral (ih htail)
  | foreign c rest hblank hread hword =>
    rw [readFrom_foreign _ hblank hread hword] at h
    cases h

/-- Reading succeeds with exactly the tokens that lie in the text. -/
theorem readFrom_eq_ok_iff : readFrom position text = .ok tokens ↔ Layout position text tokens :=
  ⟨layout_of_readFrom, readFrom_of_layout⟩

/-- Scanning succeeds with exactly the tokens that lie in the text. -/
theorem scan_eq_ok_iff {text : String} :
    Token.scan text = .ok tokens ↔ Layout 0 text.toList tokens := by
  rw [scan_eq_readFrom, readFrom_eq_ok_iff]

/-! ## Cutting layouts -/

/-- A layout can be cut right before each of its tokens. -/
theorem Layout.exists_suffix (h : Layout position text (before ++ t :: after)) :
    ∃ front back, text = front ++ back ∧ position + front.length = t.span.start ∧
      Layout t.span.start back (t :: after) := by
  induction before generalizing position text with
  | nil =>
    rcases h.exists_of_cons with ⟨gap, lexeme, rest, rfl, _, hends, rfl, hrest⟩
    rw [Lexeme.span_token]
    exact ⟨gap, _, rfl, rfl, hrest.append_lexeme hends⟩
  | cons u before ih =>
    rcases h.exists_of_cons with ⟨gap, lexeme, rest, rfl, _, _, _, hrest⟩
    rcases ih hrest with ⟨front, back, rfl, hstart, hback⟩
    refine ⟨gap ++ lexeme.text ++ front, back, by simp, ?_, hback⟩
    rw [← hstart, List.length_append, List.length_append, Nat.add_assoc, Nat.add_assoc,
      Nat.add_assoc]

/-- Behind each of its tokens a layout goes on with the tokens that follow. -/
theorem Layout.exists_rest (h : Layout position text (before ++ t :: after)) :
    ∃ front back, text = front ++ back ∧ position + front.length = t.span.stop ∧
      Layout t.span.stop back after := by
  rcases h.exists_suffix with ⟨front, back, rfl, hstart, hback⟩
  rcases hback.exists_of_cons with ⟨gap, lexeme, rest, rfl, _, _, ht, hrest⟩
  have hstop : t.span.stop = t.span.start + gap.length + lexeme.text.length := by
    have hspan := congrArg Token.span ht
    rw [Lexeme.span_token] at hspan
    exact congrArg Span.stop hspan
  rw [← hstop] at hrest
  refine ⟨front ++ (gap ++ lexeme.text), rest, by simp, ?_, hrest⟩
  rw [hstop, ← hstart, List.length_append, List.length_append, Nat.add_assoc, Nat.add_assoc]

/-- A layout can be cut right behind each of its tokens. -/
theorem Layout.exists_prefix (h : Layout position text (before ++ t :: after)) :
    ∃ front back, text = front ++ back ∧ position + front.length = t.span.stop ∧
      Layout position front (before ++ [t]) := by
  induction before generalizing position text with
  | nil =>
    rcases h.exists_of_cons with ⟨gap, lexeme, rest, rfl, hgap, _, rfl, _⟩
    have hfront : Layout position (gap ++ (lexeme.text ++ [])) [lexeme.token
        ⟨position + gap.length, position + gap.length + lexeme.text.length⟩] :=
      .token lexeme hgap lexeme.endsBefore_nil (.blanks (by simp))
    rw [List.append_nil] at hfront
    refine ⟨gap ++ lexeme.text, rest, by simp, ?_, hfront⟩
    rw [Lexeme.span_token, List.length_append, Nat.add_assoc]
  | cons u before ih =>
    rcases h.exists_of_cons with ⟨gap, lexeme, rest, rfl, hgap, hends, rfl, hrest⟩
    rcases ih hrest with ⟨front, back, rfl, hstop, hfront⟩
    refine ⟨gap ++ (lexeme.text ++ front), back, by simp, ?_,
      .token lexeme hgap hends.of_append hfront⟩
    rw [← hstop, List.length_append, List.length_append, Nat.add_assoc, Nat.add_assoc]

end Token

end InfixArithmetic
