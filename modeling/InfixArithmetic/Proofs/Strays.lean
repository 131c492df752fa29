import InfixArithmetic.Proofs.Concatenation
import InfixArithmetic.Proofs.Layout

/-!
# Stray characters

A text that splits into tokens is made of blanks, decimal digits and the characters of
operators.  Any other character is stray, and the first stray character of a text decides
the fault: if it goes on with a number, the whole word around it is an invalid number, and
otherwise the character itself is invalid.

Main results:

- `LexicalFault.ofStray`: the fault that the first stray character stands for.
- `Token.exists_readFrom_eq_ok`: without stray characters there is no fault.
- `Token.readFrom_stray`: the first stray character is reported as that fault.
- `Token.scan_by_first_stray`: the outcome of scanning for every text.
-/

namespace InfixArithmetic

/-- Whether a character is neither a blank nor a decimal digit nor one of the characters
that operators are written with. -/
def isStray (c : Char) : Bool :=
  !(Text.isBlank c || c.isDigit || c == '+' || c == '-' || c == '*' || c == '/')

/-- The longest run of characters of words at the front of a text. -/
def frontWord (text : List Char) : List Char :=
  text.takeWhile isWordCharacter

/-- The longest run of characters of words at the end of a text. -/
def backWord (text : List Char) : List Char :=
  (text.reverse.takeWhile isWordCharacter).reverse

/-- The fault that the first stray character of a text stands for, given what stands before
and behind it.  A stray character of words directly behind a digit spoils a number, which
reaches as far as there are characters of words on both sides. -/
def LexicalFault.ofStray (before : List Char) (c : Char) (after : List Char) : LexicalFault :=
  if isWordCharacter c && before.getLast?.any Char.isDigit then
    .invalidNumber ⟨before.length - (backWord before).length,
      before.length + (frontWord (c :: after)).length⟩
  else
    .invalidCharacter c ⟨before.length, before.length + 1⟩

variable {c : Char} {text before after rest run : List Char}

/-! ## Characters -/

theorem isStray_eq_true_iff :
    isStray c = true ↔ Text.isBlank c = false ∧ c.isDigit = false ∧
      c ≠ '+' ∧ c ≠ '-' ∧ c ≠ '*' ∧ c ≠ '/' := by
  simp [isStray, and_assoc]

/-- No operator starts with a stray character. -/
theorem Operator.read?_of_isStray (h : isStray c = true) (rest : List Char) :
    Operator.read? (c :: rest) = none :=
  Operator.read?_cons_eq_none_iff.mpr (isStray_eq_true_iff.mp h).2.2

/-- Where nothing can be read, the character is stray. -/
theorem isStray_of_read? (hblank : Text.isBlank c = false)
    (hread : Operator.read? (c :: rest) = none) (hdigit : c.isDigit = false) :
    isStray c = true :=
  isStray_eq_true_iff.mpr ⟨hblank, hdigit, Operator.read?_cons_eq_none_iff.mp hread⟩

/-- The characters of words that are not stray are the digits. -/
theorem isDigit_of_isStray_eq_false (h : isStray c = false) (hword : isWordCharacter c = true) :
    c.isDigit = true := by
  cases hdigit : c.isDigit with
  | true => rfl
  | false =>
    rw [isStray_of_read? (isBlank_of_isWordCharacter hword)
      (Operator.read?_of_isWordCharacter hword []) hdigit] at h
    cases h

/-! ## Words around a place -/

theorem frontWord_cons (h : isWordCharacter c = true) (text : List Char) :
    frontWord (c :: text) = c :: frontWord text := by
  simp [frontWord, h]

theorem isWordCharacter_of_mem_frontWord (h : c ∈ frontWord text) : isWordCharacter c = true :=
  List.all_eq_true.mp List.all_takeWhile c h

theorem isWordCharacter_of_mem_backWord (h : c ∈ backWord text) : isWordCharacter c = true :=
  List.all_eq_true.mp List.all_takeWhile c (List.mem_reverse.mp h)

/-- A text is cut in front of the word at its end, where no word goes on. -/
theorem exists_eq_append_backWord (text : List Char) :
    ∃ front, text = front ++ backWord text ∧
      ∀ d ∈ front.getLast?, isWordCharacter d = false := by
  refine ⟨(text.reverse.dropWhile isWordCharacter).reverse, ?_, ?_⟩
  · rw [backWord, ← List.reverse_append, List.takeWhile_append_dropWhile, List.reverse_reverse]
  · rw [List.getLast?_reverse]
    exact Token.endsWord_dropWhile text.reverse

/-- A digit at the end of a text belongs to the word there. -/
theorem backWord_ne_nil {d : Char} (hd : d ∈ text.getLast?) (hdigit : d.isDigit = true) :
    backWord text ≠ [] := by
  rw [Option.mem_def, ← List.head?_reverse] at hd
  rcases List.head?_eq_some_iff.mp hd with ⟨others, hothers⟩
  simp [backWord, hothers, isWordCharacter_of_isDigit hdigit]

/-- What follows the word around the stray character does not matter. -/
theorem LexicalFault.ofStray_congr {other : List Char}
    (h : isWordCharacter c = true → frontWord other = frontWord after) :
    LexicalFault.ofStray before c other = .ofStray before c after := by
  unfold LexicalFault.ofStray
  split
  next hspoils =>
    have hword : isWordCharacter c = true := (Bool.and_eq_true_iff.mp hspoils).1
    rw [frontWord_cons hword, frontWord_cons hword, h hword]
  next => rfl

namespace Token

/-! ## Reading up to the first stray character -/

/-- A text without stray characters splits into tokens. -/
theorem exists_readFrom_eq_ok (h : ∀ c ∈ text, isStray c = false) (position : Nat) :
    ∃ tokens, readFrom position text = .ok tokens := by
  induction text using textInduction generalizing position with
  | nil => exact ⟨[], readFrom_nil position⟩
  | blank c rest hblank ih =>
    rw [readFrom_blank _ hblank]
    exact ih (fun d hd => h d (List.mem_cons_of_mem c hd)) _
  | operator text op after hread ih =>
    have hafter : ∀ d ∈ after, isStray d = false := by
      intro d hd
      apply h
      rw [Operator.eq_symbol_append_of_read? hread]
      exact List.mem_append_right _ hd
    rcases ih hafter (position + op.width) with ⟨tokens, htokens⟩
    rw [readFrom_operator _ hread, htokens]
    exact ⟨_, rfl⟩
  | word first others rest hword hends ih =>
    have hdigits : ∀ d ∈ first :: others, d.isDigit = true := by
      intro d hd
      exact isDigit_of_isStray_eq_false (h d (List.mem_append_left _ hd)) (hword d hd)
    have hrest : ∀ d ∈ rest, isStray d = false := by
      intro d hd
      exact h d (List.mem_append_right _ hd)
    rcases ih hrest (position + (first :: others).length) with ⟨tokens, htokens⟩
    let n : Numeral := ⟨first :: others, List.cons_ne_nil first others, hdigits⟩
    have hnumeral : (Lexeme.number n).EndsBefore rest := hends
    have hread : readFrom position (first :: others ++ rest) =
        (readFrom (position + (first :: others).length) rest).map
          (.number n.literal ⟨position, position + (first :: others).length⟩ :: ·) :=
      readFrom_lexeme position hnumeral
    rw [hread, htokens]
    exact ⟨_, rfl⟩
  | foreign c rest hblank hread hword =>
    have hdigit : c.isDigit = false := isDigit_of_isWordCharacter_eq_false hword
    have hstray := h c List.mem_cons_self
    rw [isStray_of_read? hblank hread hdigit] at hstray
    cases hstray

/-- What follows a text without stray characters is read after it, if the two cannot run
into each other. -/
theorem readFrom_append_eq_error {fault : LexicalFault} (h : ∀ d ∈ before, isStray d = false)
    (hapart : Apart before rest) (hfault : readFrom before.length rest = .error fault) :
    readFrom 0 (before ++ rest) = .error fault := by
  rcases exists_readFrom_eq_ok h 0 with ⟨tokens, htokens⟩
  rw [readFrom_append hapart, Nat.zero_add, htokens, hfault]
  rfl

/-- A stray character in front is an invalid character. -/
theorem readFrom_cons_stray (position : Nat) (h : isStray c = true) :
    readFrom position (c :: after) = .error (.invalidCharacter c (.character position)) := by
  rcases isStray_eq_true_iff.mp h with ⟨hblank, hdigit, _⟩
  by_cases hword : isWordCharacter c = true
  · have hmem : ∀ d ∈ c :: frontWord after, isWordCharacter d = true :=
      List.forall_mem_cons.mpr ⟨hword, fun d hd => isWordCharacter_of_mem_frontWord hd⟩
    have hjudge : ofWord position c (frontWord after) =
        .error (.invalidCharacter c (.character position)) := by
      simp [ofWord, hdigit]
    have hread := readFrom_word position hmem (endsWord_dropWhile after)
    rw [List.cons_append, frontWord, List.takeWhile_append_dropWhile, ← frontWord, hjudge] at hread
    exact hread
  · exact readFrom_foreign position hblank (Operator.read?_of_isStray h after)
      (by simpa using hword)

/-- A word of digits that runs on with a stray character is an invalid number. -/
theorem readFrom_run_stray (position : Nat) (hrun : run ≠ [])
    (hdigits : ∀ d ∈ run, d.isDigit = true) (h : isStray c = true)
    (hword : isWordCharacter c = true) :
    readFrom position (run ++ c :: after) =
      .error (.invalidNumber
        ⟨position, position + (run.length + (frontWord (c :: after)).length)⟩) := by
  rcases List.exists_cons_of_ne_nil hrun with ⟨first, others, rfl⟩
  have hfront : frontWord (c :: after) = c :: frontWord after := frontWord_cons hword after
  have hmem : ∀ d ∈ first :: (others ++ c :: frontWord after), isWordCharacter d = true := by
    intro d hd
    rw [← List.cons_append] at hd
    rcases List.mem_append.mp hd with hd | hd
    · exact isWordCharacter_of_isDigit (hdigits d hd)
    · rw [← hfront] at hd
      exact isWordCharacter_of_mem_frontWord hd
  have hnone : Literal.read? (first :: (others ++ c :: frontWord after)) = none := by
    rw [← Option.not_isSome_iff_eq_none, Literal.read?_isSome_iff]
    intro hall
    have hdigit := hall c (by simp)
    rw [(isStray_eq_true_iff.mp h).2.1] at hdigit
    cases hdigit
  have hjudge : ofWord position first (others ++ c :: frontWord after) =
      .error (.invalidNumber
        ⟨position, position + (first :: (others ++ c :: frontWord after)).length⟩) := by
    simp only [ofWord, hdigits first List.mem_cons_self, if_true, hnone]
  have hsplit : first :: (others ++ c :: frontWord after) ++ after.dropWhile isWordCharacter =
      first :: others ++ c :: after := by
    simp [frontWord, List.takeWhile_append_dropWhile]
  have hread := readFrom_word position hmem (endsWord_dropWhile after)
  rw [hsplit, hjudge] at hread
  rw [hread, hfront]
  simp only [List.length_cons, List.length_append]
  congr 3
  omega

/-- A text without a word at its end is apart from a word. -/
theorem apart_of_word (hcut : ∀ d ∈ before.getLast?, isWordCharacter d = false)
    (hword : ∀ e ∈ rest.head?, isWordCharacter e = true) : Apart before rest := by
  intro d hd e he
  constructor
  · rintro ⟨hd', _⟩
    rw [hcut d hd] at hd'
    cases hd'
  · rintro ⟨_, rfl⟩
    have hstar : '*' ∈ Operator.mul.symbol.toList := List.mem_cons_self
    have hword' := hword '*' he
    rw [Operator.isWordCharacter_of_mem_symbol hstar] at hword'
    cases hword'

/-- A stray character that spoils a number is reported with the whole word around it. -/
theorem readFrom_stray_of_digit {d : Char} (hbefore : ∀ e ∈ before, isStray e = false)
    (h : isStray c = true) (hword : isWordCharacter c = true) (hd : d ∈ before.getLast?)
    (hdigit : d.isDigit = true) :
    readFrom 0 (before ++ c :: after) =
      .error (.invalidNumber ⟨before.length - (backWord before).length,
        before.length + (frontWord (c :: after)).length⟩) := by
  -- The digits in front of the character are its word; what stands before them is read alone.
  rcases exists_eq_append_backWord before with ⟨front, hsplit, hcut⟩
  have hne : backWord before ≠ [] := backWord_ne_nil hd hdigit
  have hlength : before.length = front.length + (backWord before).length := by
    rw [← List.length_append, ← hsplit]
  have hfront : ∀ e ∈ front, isStray e = false := by
    intro e he
    apply hbefore e
    rw [hsplit]
    exact List.mem_append_left _ he
  have hdigits : ∀ e ∈ backWord before, e.isDigit = true := by
    intro e he
    refine isDigit_of_isStray_eq_false (hbefore e ?_) (isWordCharacter_of_mem_backWord he)
    rw [hsplit]
    exact List.mem_append_right front he
  have hapart : Apart front (backWord before ++ c :: after) := by
    rcases List.exists_cons_of_ne_nil hne with ⟨first, others, hrun⟩
    have hfirst : isWordCharacter first = true :=
      isWordCharacter_of_mem_backWord (hrun ▸ List.mem_cons_self)
    rw [hrun]
    exact apart_of_word hcut (by simpa using hfirst)
  have hread := readFrom_append_eq_error hfront hapart
    (readFrom_run_stray front.length hne hdigits h hword)
  rw [← List.append_assoc, ← hsplit] at hread
  rw [hread, hlength, Nat.add_sub_cancel, Nat.add_assoc]

/-- The first stray character is reported. -/
theorem readFrom_stray (hbefore : ∀ d ∈ before, isStray d = false) (h : isStray c = true) :
    readFrom 0 (before ++ c :: after) = .error (.ofStray before c after) := by
  unfold LexicalFault.ofStray
  split
  next hspoils =>
    rcases Bool.and_eq_true_iff.mp hspoils with ⟨hword, hlast⟩
    rcases (Option.any_eq_true _ _).mp hlast with ⟨d, hd, hdigit⟩
    exact readFrom_stray_of_digit hbefore h hword hd hdigit
  next hspoils =>
    -- Only digits belong to words before the character, so none of them runs into it.
    refine readFrom_append_eq_error hbefore ?_ (readFrom_cons_stray _ h)
    intro d hd e he
    obtain rfl : c = e := by simpa using he
    have hstray : isStray d = false := hbefore d (List.mem_of_getLast? hd)
    constructor
    · rintro ⟨hword, hword'⟩
      have hdigit : d.isDigit = true := isDigit_of_isStray_eq_false hstray hword
      rw [Option.mem_def] at hd
      simp [hword', hd, hdigit] at hspoils
    · rintro ⟨_, rfl⟩
      exact absurd h (by decide)

/-- A text splits into tokens exactly if it has no stray character. -/
theorem exists_readFrom_eq_ok_iff :
    (∃ tokens, readFrom 0 text = .ok tokens) ↔ ∀ c ∈ text, isStray c = false := by
  constructor
  · rintro ⟨tokens, htokens⟩
    cases hfind : text.find? isStray with
    | none => simpa using List.find?_eq_none.mp hfind
    | some c =>
      rcases List.find?_eq_some_iff_append.mp hfind with ⟨hc, before, after, rfl, hbefore⟩
      rw [readFrom_stray (by simpa using hbefore) hc] at htokens
      cases htokens
  · intro h
    exact exists_readFrom_eq_ok h 0

/-- A text splits into tokens exactly if it has no stray character, and otherwise the first
stray character is reported.  What stands behind the word around that character, or behind
the character itself if it belongs to no word, has no influence on the fault. -/
theorem scan_by_first_stray (text : String) :
    ((∃ tokens, Token.scan text = .ok tokens) ↔ ∀ c ∈ text.toList, isStray c = false) ∧
    ∀ before c after, text.toList = before ++ c :: after →
      (∀ d ∈ before, isStray d = false) → isStray c = true →
        Token.scan text = .error (.ofStray before c after) ∧
        ∀ (other : String) (rest : List Char), other.toList = before ++ c :: rest →
          (isWordCharacter c = true → frontWord rest = frontWord after) →
            Token.scan other = Token.scan text := by
  rw [scan_eq_readFrom]
  refine ⟨exists_readFrom_eq_ok_iff, ?_⟩
  intro before c after htext hbefore hc
  have hscan : readFrom 0 text.toList = .error (.ofStray before c after) := by
    rw [htext]
    exact readFrom_stray hbefore hc
  refine ⟨hscan, ?_⟩
  intro other rest hother hword
  rw [hscan, scan_eq_readFrom, hother, readFrom_stray hbefore hc,
    LexicalFault.ofStray_congr hword]

/-- The letter spoils the number before it, together with the point and the digit behind
it, and what is wrong further on does not show. -/
theorem scan_by_first_stray_number :
    (∀ d ∈ ['2', '*', '1', '3'], isStray d = false) ∧ isStray 'x' = true ∧
      Token.scan "2*13x.4$" = .error (.invalidNumber ⟨2, 7⟩) := by
  have hbefore : ∀ d ∈ ['2', '*', '1', '3'], isStray d = false := by
    intro d hd
    simp only [List.mem_cons, List.not_mem_nil, or_false] at hd
    rcases hd with rfl | rfl | rfl | rfl <;> decide
  have hstray : isStray 'x' = true := by decide
  have hfault : LexicalFault.ofStray ['2', '*', '1', '3'] 'x' ['.', '4', '$'] =
      .invalidNumber ⟨2, 7⟩ := by decide +kernel
  have hscan := ((scan_by_first_stray "2*13x.4$").2 _ _ ['.', '4', '$'] rfl hbefore hstray).1
  rw [hfault] at hscan
  exact ⟨hbefore, hstray, hscan⟩

end Token

end InfixArithmetic
