import InfixArithmetic.Proofs.Moving
import InfixArithmetic.Token.Scanner

/-!
# Scanning token by token

The scanner goes character by character and keeps a pending word.  The same tokens and
faults come from a reader without pending word, which takes a whole blank, operator or
word from the front of the text at once.  The two agree because a pending word stands
for text that has not been read yet.

Main results:

- `Token.readFrom`: reading a text token by token.
- `Token.textInduction`: induction along the blanks, operators and words of a text.
- `Scanner.meaning_eq_of_endsWord`: ending the pending word reads one whole word.
- `Scanner.tracks_of_step` and `Scanner.meaning_of_step`: what every step keeps.
- `Token.scan_eq_readFrom`: the scanner computes what the reader computes.
-/

namespace InfixArithmetic

/-! ## Classes of characters -/

/-- No blank is a letter or a number. -/
theorem Text.isAlphanumeric_of_isBlank {c : Char} (h : Text.isBlank c = true) :
    Text.isAlphanumeric c = false := by
  have apart : ∀ blank ∈ Text.blanks.ranges, ∀ range ∈ Text.alphanumerics.ranges,
      blank.2 < range.1 ∨ range.2 < blank.1 := by decide +kernel
  rw [Text.isBlank, Text.CodeRanges.has_iff] at h
  rcases h with ⟨blank, hblank, hlow, hhigh⟩
  rw [Bool.eq_false_iff]
  intro halpha
  rw [Text.isAlphanumeric, Text.CodeRanges.has_iff] at halpha
  rcases halpha with ⟨range, hrange, hlow', hhigh'⟩
  have := apart blank hblank range hrange
  omega

/-- No blank belongs to a word. -/
theorem isWordCharacter_of_isBlank {c : Char} (h : Text.isBlank c = true) :
    isWordCharacter c = false := by
  have hdot : c ≠ '.' := by
    rintro rfl
    exact absurd h (by decide)
  have hunderscore : c ≠ '_' := by
    rintro rfl
    exact absurd h (by decide)
  simp [isWordCharacter, Text.isAlphanumeric_of_isBlank h, hdot, hunderscore]

/-- Digits belong to words. -/
theorem isWordCharacter_of_isDigit {c : Char} (h : c.isDigit = true) :
    isWordCharacter c = true := by
  have halpha : Text.isAlphanumeric c = true :=
    Text.isAlphanumeric_of_isAlphanum (by simp [Char.isAlphanum, h])
  simp [isWordCharacter, halpha]

/-- What belongs to no word is no digit. -/
theorem isDigit_of_isWordCharacter_eq_false {c : Char} (h : isWordCharacter c = false) :
    c.isDigit = false := by
  rw [Bool.eq_false_iff]
  intro hdigit
  rw [isWordCharacter_of_isDigit hdigit] at h
  cases h

/-- Characters of words are not blank. -/
theorem isBlank_of_isWordCharacter {c : Char} (h : isWordCharacter c = true) :
    Text.isBlank c = false := by
  rw [Bool.eq_false_iff]
  intro hblank
  rw [isWordCharacter_of_isBlank hblank] at h
  cases h

/-- The characters of operators belong to no word. -/
theorem Operator.isWordCharacter_of_mem_symbol {op : Operator} {c : Char}
    (h : c ∈ op.symbol.toList) : isWordCharacter c = false := by
  have hsymbols : isWordCharacter '+' = false ∧ isWordCharacter '-' = false ∧
      isWordCharacter '*' = false ∧ isWordCharacter '/' = false := by decide +kernel
  cases op <;> simp [Operator.symbol] at h <;> simp [h, hsymbols]

/-- The characters of operators are not blank. -/
theorem Operator.isBlank_of_mem_symbol {op : Operator} {c : Char}
    (h : c ∈ op.symbol.toList) : Text.isBlank c = false := by
  have hsymbols : Text.isBlank '+' = false ∧ Text.isBlank '-' = false ∧
      Text.isBlank '*' = false ∧ Text.isBlank '/' = false := by decide
  cases op <;> simp [Operator.symbol] at h <;> simp [h, hsymbols]

/-- A text that starts with an operator starts with a character of its symbol. -/
theorem Operator.mem_symbol_of_read? {c : Char} {rest after : List Char} {op : Operator}
    (h : Operator.read? (c :: rest) = some (op, after)) : c ∈ op.symbol.toList := by
  have hsplit := Operator.eq_symbol_append_of_read? h
  cases op <;> simp_all [Operator.symbol]

/-- No operator starts with a character of a word. -/
theorem Operator.read?_of_isWordCharacter {c : Char} (h : isWordCharacter c = true)
    (rest : List Char) : Operator.read? (c :: rest) = none := by
  cases hread : Operator.read? (c :: rest) with
  | none => rfl
  | some item =>
    rcases item with ⟨op, after⟩
    rw [Operator.isWordCharacter_of_mem_symbol (Operator.mem_symbol_of_read? hread)] at h
    cases h

/-- No operator is read where no operator starts. -/
theorem Operator.read?_cons_eq_none_iff {c : Char} {rest : List Char} :
    Operator.read? (c :: rest) = none ↔ c ≠ '+' ∧ c ≠ '-' ∧ c ≠ '*' ∧ c ≠ '/' := by
  constructor
  · intro h
    refine ⟨?_, ?_, ?_, ?_⟩ <;> rintro rfl
    · cases h
    · cases h
    · cases rest with
      | nil => cases h
      | cons d rest => by_cases hd : d = '*' <;> simp [Operator.read?, hd] at h
    · cases h
  · rintro ⟨hplus, hminus, hstar, hslash⟩
    simp [Operator.read?, hplus, hminus, hstar, hslash]

/-- Whether an operator starts with a character does not depend on what follows. -/
theorem Operator.read?_cons_eq_none {c : Char} {rest : List Char}
    (h : Operator.read? (c :: rest) = none) (other : List Char) :
    Operator.read? (c :: other) = none := by
  rw [Operator.read?_cons_eq_none_iff] at h ⊢
  exact h

/-! ## Reading token by token -/

/-- What a whole word amounts to that starts at a position, given by its first character
and the others. -/
def Token.ofWord (position : Nat) (first : Char) (others : List Char) :
    Except LexicalFault Token :=
  let span : Span := ⟨position, position + (first :: others).length⟩
  if first.isDigit then
    match Literal.read? (first :: others) with
    | some value => .ok (.number value span)
    | none => .error (.invalidNumber span)
  else
    .error (.invalidCharacter first (.character position))

/-- The tokens of a text that starts at a position, or the first fault in it.  Blanks,
operators and whole words are taken from the front of the text one at a time. -/
def Token.readFrom (position : Nat) (text : List Char) : Except LexicalFault (List Token) :=
  match text with
  | [] => .ok []
  | c :: rest =>
    if Text.isBlank c then
      readFrom (position + 1) rest
    else
      match _ : Operator.read? (c :: rest) with
      | some (op, after) =>
        (readFrom (position + op.width) after).map
          (.operator op ⟨position, position + op.width⟩ :: ·)
      | none =>
        if isWordCharacter c then
          let others := rest.takeWhile isWordCharacter
          match Token.ofWord position c others with
          | .ok token =>
            (readFrom (position + (c :: others).length)
              (rest.dropWhile isWordCharacter)).map (token :: ·)
          | .error fault => .error fault
        else
          .error (.invalidCharacter c (.character position))
termination_by text.length
decreasing_by
  · simp
  · rename_i hread
    have length := Operator.length_of_read? hread
    have positive := op.width_pos
    omega
  · have shorter := (List.dropWhile_sublist isWordCharacter (l := rest)).length_le
    simp only [List.length_cons]
    omega

namespace Token

variable {c first : Char} {others rest after text gap : List Char} {op : Operator}

/-- A text that does not go on with the word before it. -/
def EndsWord (rest : List Char) : Prop :=
  ∀ c ∈ rest.head?, isWordCharacter c = false

/-- A word that ends where the rest begins is all that is taken from the front. -/
theorem EndsWord.takeWhile_append {word : List Char} (h : EndsWord rest)
    (hword : ∀ c ∈ word, isWordCharacter c = true) :
    (word ++ rest).takeWhile isWordCharacter = word := by
  rw [List.takeWhile_append_of_pos hword]
  cases rest with
  | nil => simp
  | cons c rest => simp [h c rfl]

@[simp]
theorem readFrom_nil (position : Nat) : readFrom position [] = .ok [] := by
  rw [readFrom]

theorem readFrom_blank (position : Nat) (h : Text.isBlank c = true) :
    readFrom position (c :: rest) = readFrom (position + 1) rest := by
  rw [readFrom, if_pos h]

/-- Blanks in front are passed over. -/
theorem readFrom_append_of_blank (position : Nat) (h : ∀ c ∈ gap, Text.isBlank c = true) :
    readFrom position (gap ++ text) = readFrom (position + gap.length) text := by
  induction gap generalizing position with
  | nil => rfl
  | cons c gap ih =>
    rw [List.cons_append, readFrom_blank position (h c List.mem_cons_self),
      ih (position + 1) fun d hd => h d (List.mem_cons_of_mem c hd), List.length_cons,
      Nat.add_assoc, Nat.add_comm 1]

/-- An operator in front is one token. -/
theorem readFrom_operator (position : Nat) (h : Operator.read? text = some (op, after)) :
    readFrom position text =
      (readFrom (position + op.width) after).map
        (.operator op ⟨position, position + op.width⟩ :: ·) := by
  cases text with
  | nil => cases h
  | cons c rest =>
    have hblank : Text.isBlank c = false :=
      Operator.isBlank_of_mem_symbol (Operator.mem_symbol_of_read? h)
    rw [readFrom, if_neg (by simp [hblank])]
    split
    next op' after' hread =>
      rw [h] at hread
      cases hread
      rfl
    next hread =>
      rw [h] at hread
      cases hread

/-- A whole word in front is one token or a fault. -/
theorem readFrom_word (position : Nat) (hword : ∀ c ∈ first :: others, isWordCharacter c = true)
    (hends : EndsWord rest) :
    readFrom position (first :: others ++ rest) =
      match ofWord position first others with
      | .ok token =>
        (readFrom (position + (first :: others).length) rest).map (token :: ·)
      | .error fault => .error fault := by
  have hfirst : isWordCharacter first = true := hword first List.mem_cons_self
  have hothers : ∀ c ∈ others, isWordCharacter c = true := by
    intro c hc
    exact hword c (List.mem_cons_of_mem first hc)
  have htake : (others ++ rest).takeWhile isWordCharacter = others :=
    hends.takeWhile_append hothers
  have hdrop : (others ++ rest).dropWhile isWordCharacter = rest := by
    rw [List.dropWhile_append_of_pos hothers]
    cases rest with
    | nil => rfl
    | cons c rest => simp [hends c rfl]
  rw [List.cons_append, readFrom, if_neg (by simp [isBlank_of_isWordCharacter hfirst])]
  split
  next hread =>
    rw [Operator.read?_of_isWordCharacter hfirst] at hread
    cases hread
  next => rw [if_pos hfirst, htake, hdrop]

/-- A character that starts no token is a fault. -/
theorem readFrom_foreign (position : Nat) (hblank : Text.isBlank c = false)
    (hread : Operator.read? (c :: rest) = none) (hword : isWordCharacter c = false) :
    readFrom position (c :: rest) = .error (.invalidCharacter c (.character position)) := by
  rw [readFrom, if_neg (by simp [hblank])]
  split
  next h =>
    rw [hread] at h
    cases h
  next => rw [if_neg (by simp [hword])]

/-- What follows the longest word in front does not go on with it. -/
theorem endsWord_dropWhile (text : List Char) : EndsWord (text.dropWhile isWordCharacter) := by
  intro c hc
  have hhead := List.head?_dropWhile_not isWordCharacter text
  rw [Option.mem_def] at hc
  rw [hc] at hhead
  exact hhead

/-- Texts fall into blanks, operators and whole words, up to the first character that
starts no token. -/
@[elab_as_elim]
theorem textInduction {motive : List Char → Prop} (nil : motive [])
    (blank : ∀ c rest, Text.isBlank c = true → motive rest → motive (c :: rest))
    (operator : ∀ text op after, Operator.read? text = some (op, after) → motive after →
      motive text)
    (word : ∀ first others rest, (∀ c ∈ first :: others, isWordCharacter c = true) →
      EndsWord rest → motive rest → motive (first :: others ++ rest))
    (foreign : ∀ c rest, Text.isBlank c = false → Operator.read? (c :: rest) = none →
      isWordCharacter c = false → motive (c :: rest))
    (text : List Char) : motive text := by
  match text with
  | [] => exact nil
  | c :: rest =>
    by_cases hblank : Text.isBlank c = true
    · exact blank c rest hblank (textInduction nil blank operator word foreign rest)
    · cases hread : Operator.read? (c :: rest) with
      | some item =>
        rcases item with ⟨op, after⟩
        have length := Operator.length_of_read? hread
        have positive := op.width_pos
        exact operator _ op after hread (textInduction nil blank operator word foreign after)
      | none =>
        by_cases hword : isWordCharacter c = true
        · have hsplit : rest.takeWhile isWordCharacter ++ rest.dropWhile isWordCharacter = rest :=
            List.takeWhile_append_dropWhile
          have shorter := (List.dropWhile_sublist isWordCharacter (l := rest)).length_le
          have hrest := textInduction nil blank operator word foreign
            (rest.dropWhile isWordCharacter)
          have hmem : ∀ d ∈ c :: rest.takeWhile isWordCharacter, isWordCharacter d = true := by
            intro d hd
            rcases List.mem_cons.mp hd with rfl | hd
            · exact hword
            · exact List.all_eq_true.mp List.all_takeWhile d hd
          have hwhole := word c _ _ hmem (endsWord_dropWhile rest) hrest
          rwa [List.cons_append, hsplit] at hwhole
        · exact foreign c rest (by simpa using hblank) hread (by simpa using hword)
termination_by text.length
decreasing_by
  · simp only [List.length_cons]
    omega
  · simp only [List.length_cons]
    omega
  · omega

end Token

namespace Scanner

variable {s t closed : State} {text : List Char} {fault : LexicalFault}

/-! ## The pending word -/

/-- Ending the pending word leaves none pending and reads nothing. -/
theorem eq_of_closeWord {stop : Nat} (h : s.closeWord stop = .ok closed) :
    closed.word = [] ∧ closed.position = s.position ∧ closed.rest = s.rest := by
  unfold State.closeWord at h
  split at h
  next hword =>
    cases h
    exact ⟨List.reverse_eq_nil_iff.mp hword, rfl, rfl⟩
  next =>
    simp only at h
    split at h
    next =>
      split at h
      next =>
        cases h
        exact ⟨rfl, rfl, rfl⟩
      next => cases h
    next => cases h

/-- Ending the pending word judges it as a whole word. -/
theorem closeWord_of_reverse_eq_cons {stop : Nat} {first : Char} {others : List Char}
    (hword : s.word.reverse = first :: others) (hstop : s.word.length ≤ stop) :
    s.closeWord stop =
      (Token.ofWord (stop - s.word.length) first others).map fun token =>
        { s with tokens := token :: s.tokens, word := [] } := by
  have hlength : (first :: others).length = s.word.length := by
    rw [← hword, List.length_reverse]
  have hspan : stop - s.word.length + (first :: others).length = stop := by omega
  unfold State.closeWord Token.ofWord
  simp only [hword, hspan]
  by_cases hdigit : first.isDigit = true
  · rw [if_pos hdigit, if_pos hdigit]
    cases Literal.read? (first :: others) <;> rfl
  · rw [if_neg hdigit, if_neg hdigit]
    rfl

/-! ## What a state stands for -/

/-- A state of the scanner on its way through a text: the pending word belongs to words,
and it stands right before the position and the unread rest. -/
structure Tracks (text : List Char) (s : State) : Prop where
  isWordCharacter_of_mem : ∀ c ∈ s.word, isWordCharacter c = true
  exists_before : ∃ before, text = before ++ s.word.reverse ++ s.rest ∧
    s.position = before.length + s.word.length

/-- The pending word is not longer than what has been read. -/
theorem Tracks.length_word_le (h : Tracks text s) : s.word.length ≤ s.position := by
  rcases h.exists_before with ⟨before, _, hposition⟩
  omega

/-- What a state stands for: its tokens, and then what there is to read from the start
of the pending word on. -/
def State.meaning (s : State) : Except LexicalFault (List Token) :=
  (Token.readFrom (s.position - s.word.length) (s.word.reverse ++ s.rest)).map
    (s.tokens.reverse ++ ·)

/-- Without a pending word a state stands for its tokens and the unread rest. -/
theorem meaning_of_word_eq_nil (h : s.word = []) :
    s.meaning = (Token.readFrom s.position s.rest).map (s.tokens.reverse ++ ·) := by
  simp [State.meaning, h]

/-- Where the pending word ends, ending it does not change what the state stands for. -/
theorem meaning_eq_of_endsWord (h : Tracks text s) (hends : Token.EndsWord s.rest) :
    s.meaning =
      match s.closeWord s.position with
      | .ok closed => closed.meaning
      | .error fault => .error fault := by
  cases hword : s.word.reverse with
  | nil => simp [State.closeWord, hword]
  | cons first others =>
    have hmem : ∀ c ∈ first :: others, isWordCharacter c = true := by
      rw [← hword]
      intro c hc
      exact h.isWordCharacter_of_mem c (List.mem_reverse.mp hc)
    have hlength : (first :: others).length = s.word.length := by
      rw [← hword, List.length_reverse]
    have hposition : s.position - s.word.length + (first :: others).length = s.position := by
      have := h.length_word_le
      omega
    rw [closeWord_of_reverse_eq_cons hword h.length_word_le, State.meaning, hword,
      Token.readFrom_word _ hmem hends, hposition]
    cases Token.ofWord (s.position - s.word.length) first others with
    | error fault => rfl
    | ok token =>
      simp only [Except.map, State.meaning]
      cases hrest : Token.readFrom s.position s.rest with
      | error fault => simp [hrest]
      | ok tokens => simp [hrest]

/-- Where the pending word ends well, a state stands for the tokens with that word and the
unread rest. -/
theorem meaning_of_closeWord_eq_ok (h : Tracks text s) (hends : Token.EndsWord s.rest)
    (hclosed : s.closeWord s.position = .ok closed) :
    s.meaning = (Token.readFrom s.position s.rest).map (closed.tokens.reverse ++ ·) := by
  rcases eq_of_closeWord hclosed with ⟨hnone, hposition, hrest⟩
  rw [meaning_eq_of_endsWord h hends, hclosed, ← hposition, ← hrest]
  exact meaning_of_word_eq_nil hnone

/-- Where the pending word is faulty, a state stands for the fault. -/
theorem meaning_of_closeWord_eq_error (h : Tracks text s) (hends : Token.EndsWord s.rest)
    (hfault : s.closeWord s.position = .error fault) : s.meaning = .error fault := by
  rw [meaning_eq_of_endsWord h hends, hfault]

/-! ## What a step can do -/

/-- The moves: end the pending word at a blank or at an operator, or make it longer. -/
theorem step_eq_next (h : step s = .next t) :
    (∃ c rest closed, s.rest = c :: rest ∧ Text.isBlank c = true ∧
      s.closeWord s.position = .ok closed ∧ t = closed.skip rest) ∨
    (∃ op after closed, Operator.read? s.rest = some (op, after) ∧
      s.closeWord s.position = .ok closed ∧ t = closed.emit op after) ∨
    (∃ c rest, s.rest = c :: rest ∧ isWordCharacter c = true ∧ t = s.extendWord c rest) := by
  unfold step at h
  split at h
  next => split at h <;> cases h
  next c rest hrest =>
    split at h
    next hblank =>
      split at h
      next closed hclosed =>
        cases h
        exact .inl ⟨c, rest, closed, hrest, hblank, hclosed, rfl⟩
      next => cases h
    next =>
      split at h
      next op after hread =>
        split at h
        next closed hclosed =>
          cases h
          exact .inr (.inl ⟨op, after, closed, by rw [hrest, hread], hclosed, rfl⟩)
        next => cases h
      next =>
        split at h
        next hword =>
          cases h
          exact .inr (.inr ⟨c, rest, hrest, hword, rfl⟩)
        next => split at h <;> cases h

/-- The ends: the end of the text, a faulty pending word, or a character that starts no
token. -/
theorem step_eq_done {r : Except LexicalFault (List Token)} (h : step s = .done r) :
    (s.rest = [] ∧ r = (s.closeWord s.position).map fun closed => closed.tokens.reverse) ∨
    (∃ fault, Token.EndsWord s.rest ∧ s.closeWord s.position = .error fault ∧
      r = .error fault) ∨
    (∃ c rest closed, s.rest = c :: rest ∧ Text.isBlank c = false ∧
      Operator.read? (c :: rest) = none ∧ isWordCharacter c = false ∧
      s.closeWord s.position = .ok closed ∧
      r = .error (.invalidCharacter c (.character s.position))) := by
  unfold step at h
  split at h
  next hrest =>
    left
    split at h <;> cases h <;> simp_all [Except.map]
  next c rest hrest =>
    split at h
    next hblank =>
      split at h
      next => cases h
      next fault hfault =>
        cases h
        refine .inr (.inl ⟨fault, ?_, hfault, rfl⟩)
        simp [Token.EndsWord, hrest, isWordCharacter_of_isBlank hblank]
    next hblank =>
      split at h
      next op after hread =>
        split at h
        next => cases h
        next fault hfault =>
          cases h
          refine .inr (.inl ⟨fault, ?_, hfault, rfl⟩)
          have hmem := Operator.mem_symbol_of_read? hread
          simp [Token.EndsWord, hrest, Operator.isWordCharacter_of_mem_symbol hmem]
      next hread =>
        split at h
        next => cases h
        next hword =>
          rw [Bool.not_eq_true] at hblank hword
          split at h
          next closed hclosed =>
            cases h
            exact .inr (.inr ⟨c, rest, closed, hrest, hblank, hread, hword, hclosed, rfl⟩)
          next fault hfault =>
            cases h
            exact .inr (.inl ⟨fault, by simp [Token.EndsWord, hrest, hword], hfault, rfl⟩)

/-- Every move keeps the place of the pending word. -/
theorem tracks_of_step (h : Tracks text s) (hstep : step s = .next t) : Tracks text t := by
  rcases h.exists_before with ⟨before, hsplit, hposition⟩
  rcases step_eq_next hstep with ⟨c, rest, closed, hrest, _, hclosed, rfl⟩ |
    ⟨op, after, closed, hread, hclosed, rfl⟩ | ⟨c, rest, hrest, hword, rfl⟩
  · rcases eq_of_closeWord hclosed with ⟨hnone, hsame, _⟩
    refine ⟨by simp [State.skip, hnone], before ++ s.word.reverse ++ [c], ?_, ?_⟩
    · simp [State.skip, hnone, hsplit, hrest]
    · simp [State.skip, hnone, hsame, hposition, Nat.add_assoc]
  · rcases eq_of_closeWord hclosed with ⟨hnone, hsame, _⟩
    have hsymbol := Operator.eq_symbol_append_of_read? hread
    refine ⟨by simp [State.emit, hnone], before ++ s.word.reverse ++ op.symbol.toList, ?_, ?_⟩
    · simp [State.emit, hnone, hsplit, hsymbol]
    · simp [State.emit, hnone, hsame, hposition, Operator.length_symbol, Nat.add_assoc]
  · refine ⟨?_, before, ?_, ?_⟩
    · intro d hd
      rcases List.mem_cons.mp hd with rfl | hd
      · exact hword
      · exact h.isWordCharacter_of_mem d hd
    · simp [State.extendWord, hsplit, hrest]
    · simp [State.extendWord, hposition, Nat.add_assoc]

/-- Every move keeps what the state stands for. -/
theorem meaning_of_step (h : Tracks text s) (hstep : step s = .next t) :
    t.meaning = s.meaning := by
  rcases step_eq_next hstep with ⟨c, rest, closed, hrest, hblank, hclosed, rfl⟩ |
    ⟨op, after, closed, hread, hclosed, rfl⟩ | ⟨c, rest, hrest, hword, rfl⟩
  · rcases eq_of_closeWord hclosed with ⟨hnone, hposition, _⟩
    have hends : Token.EndsWord s.rest := by
      simp [Token.EndsWord, hrest, isWordCharacter_of_isBlank hblank]
    have hskip : (closed.skip rest).word = [] := hnone
    rw [meaning_of_closeWord_eq_ok h hends hclosed, meaning_of_word_eq_nil hskip, hrest,
      Token.readFrom_blank _ hblank, ← hposition]
    rfl
  · rcases eq_of_closeWord hclosed with ⟨hnone, hposition, _⟩
    have hends : Token.EndsWord s.rest := by
      intro c hc
      rcases List.head?_eq_some_iff.mp hc with ⟨rest, hrest⟩
      rw [hrest] at hread
      exact Operator.isWordCharacter_of_mem_symbol (Operator.mem_symbol_of_read? hread)
    have hemit : (closed.emit op after).word = [] := hnone
    rw [meaning_of_closeWord_eq_ok h hends hclosed, meaning_of_word_eq_nil hemit,
      Token.readFrom_operator _ hread, ← hposition]
    simp only [State.emit]
    cases Token.readFrom (closed.position + op.width) after with
    | error fault => rfl
    | ok tokens => simp [Except.map]
  · have hposition : s.position + 1 - (c :: s.word).length = s.position - s.word.length := by
      have := h.length_word_le
      simp only [List.length_cons]
      omega
    simp only [State.meaning, State.extendWord, hposition, hrest]
    simp

/-- A state whose step ends the run stands for the result. -/
theorem meaning_of_step_done {r : Except LexicalFault (List Token)} (h : Tracks text s)
    (hstep : step s = .done r) : s.meaning = r := by
  rcases step_eq_done hstep with ⟨hrest, rfl⟩ | ⟨fault, hends, hfault, rfl⟩ |
    ⟨c, rest, closed, hrest, hblank, hread, hword, hclosed, rfl⟩
  · have hends : Token.EndsWord s.rest := by simp [Token.EndsWord, hrest]
    cases hclosed : s.closeWord s.position with
    | error fault => exact meaning_of_closeWord_eq_error h hends hclosed
    | ok closed =>
      rw [meaning_of_closeWord_eq_ok h hends hclosed, hrest]
      simp [Except.map]
  · exact meaning_of_closeWord_eq_error h hends hfault
  · have hends : Token.EndsWord s.rest := by simp [Token.EndsWord, hrest, hword]
    rw [meaning_of_closeWord_eq_ok h hends hclosed, hrest,
      Token.readFrom_foreign _ hblank hread hword]
    rfl

/-- The first state of a scan tracks the text. -/
theorem tracks_start (text : List Char) : Tracks text (.start text) where
  isWordCharacter_of_mem := by simp [State.start]
  exists_before := ⟨[], by simp [State.start], rfl⟩

end Scanner

/-- Scanning character by character is reading token by token. -/
theorem Token.scan_eq_readFrom (text : String) :
    Token.scan text = Token.readFrom 0 text.toList := by
  have hrun : Scanner.machine.run (.start text.toList) =
      (Scanner.State.start text.toList).meaning := by
    apply Machine.run_eq_of_keeps (Scanner.tracks_start text.toList)
    · intro s t h hstep
      exact ⟨Scanner.tracks_of_step h hstep, Scanner.meaning_of_step h hstep⟩
    · intro s r h hstep
      exact Scanner.meaning_of_step_done h hstep
  rw [Token.scan, hrun, Scanner.meaning_of_word_eq_nil rfl]
  cases hread : Token.readFrom 0 text.toList with
  | error fault => simp [Scanner.State.start, hread, Except.map]
  | ok tokens => simp [Scanner.State.start, hread, Except.map]

end InfixArithmetic
