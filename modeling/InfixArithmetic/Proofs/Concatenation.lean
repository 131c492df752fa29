import InfixArithmetic.Proofs.Scanning

/-!
# Scanning texts that stand side by side

Two texts that cannot run into each other are scanned independently: the first fault
is reported, and otherwise the tokens follow one another.  What the second text yields is
moved by the length of the first.

Main results:

- `Token.readFrom_append`: reading two texts side by side.
- `Token.readFrom_shift`: reading a text that starts at a later position.
- `Token.scan_append`: scanning two texts side by side, with or without blanks between
  them.
-/

namespace InfixArithmetic

/-- The span with room for some characters made at a place: what starts at the place or
behind it is moved. -/
def Span.makeRoom (place width : Nat) (s : Span) : Span :=
  if place ≤ s.start then s.shift width else s

namespace Token

variable {position distance : Nat} {c : Char} {a b gap rest text : List Char}

/-- Two texts that cannot run into each other: the last character of the first and the
first character of the second do not both belong to words, and are not both stars. -/
def Apart (a b : List Char) : Prop :=
  ∀ c ∈ a.getLast?, ∀ d ∈ b.head?,
    ¬ (isWordCharacter c = true ∧ isWordCharacter d = true) ∧ ¬ (c = '*' ∧ d = '*')

/-! ## Outcomes of reading -/

/-- What reading has led to, with every span replaced. -/
def mapOutcome (f : Span → Span) :
    Except LexicalFault (List Token) → Except LexicalFault (List Token)
  | .ok tokens => .ok (tokens.map (mapSpan f))
  | .error fault => .error (fault.mapSpan f)

/-- What reading one text and then another leads to. -/
def appendOutcome :
    Except LexicalFault (List Token) → Except LexicalFault (List Token) →
      Except LexicalFault (List Token)
  | .error fault, _ => .error fault
  | .ok tokens, .ok others => .ok (tokens ++ others)
  | .ok _, .error fault => .error fault

/-- Every span of an outcome has a property. -/
def SpansSatisfy (holds : Span → Prop) : Except LexicalFault (List Token) → Prop
  | .ok tokens => ∀ t ∈ tokens, holds t.span
  | .error fault => holds fault.span

@[simp]
theorem nil_appendOutcome (outcome : Except LexicalFault (List Token)) :
    appendOutcome (.ok []) outcome = outcome := by
  cases outcome <;> rfl

theorem map_cons_appendOutcome (t : Token) (first second : Except LexicalFault (List Token)) :
    appendOutcome (first.map (t :: ·)) second = (appendOutcome first second).map (t :: ·) := by
  cases first <;> cases second <;> rfl

theorem mapOutcome_map_cons (f : Span → Span) (t : Token)
    (outcome : Except LexicalFault (List Token)) :
    mapOutcome f (outcome.map (t :: ·)) = (mapOutcome f outcome).map (t.mapSpan f :: ·) := by
  cases outcome <;> rfl

theorem mapOutcome_appendOutcome (f : Span → Span)
    (first second : Except LexicalFault (List Token)) :
    mapOutcome f (appendOutcome first second) =
      appendOutcome (mapOutcome f first) (mapOutcome f second) := by
  cases first <;> cases second <;> simp [mapOutcome, appendOutcome]

theorem spansSatisfy_map_cons {holds : Span → Prop} {t : Token}
    {outcome : Except LexicalFault (List Token)} (ht : holds t.span)
    (h : SpansSatisfy holds outcome) : SpansSatisfy holds (outcome.map (t :: ·)) := by
  cases outcome with
  | error fault => exact h
  | ok tokens =>
    intro u hu
    rcases List.mem_cons.mp hu with rfl | hu
    · exact ht
    · exact h u hu

theorem SpansSatisfy.mono {first second : Span → Prop} (h : ∀ s, first s → second s)
    {outcome : Except LexicalFault (List Token)} (hfirst : SpansSatisfy first outcome) :
    SpansSatisfy second outcome := by
  cases outcome with
  | error fault => exact h _ hfirst
  | ok tokens =>
    intro t ht
    exact h _ (hfirst t ht)

/-- Replacements that agree on the spans of an outcome give the same outcome. -/
theorem mapOutcome_congr {f g : Span → Span} {outcome : Except LexicalFault (List Token)}
    (h : SpansSatisfy (fun s => f s = g s) outcome) :
    mapOutcome f outcome = mapOutcome g outcome := by
  cases outcome with
  | error fault => cases fault <;> simp_all [mapOutcome, SpansSatisfy, LexicalFault.mapSpan,
      LexicalFault.span]
  | ok tokens =>
    have hsame : ∀ t ∈ tokens, t.mapSpan f = t.mapSpan g := by
      intro t ht
      have hspan : f t.span = g t.span := h t ht
      cases t <;> simp_all [mapSpan, span]
    simp only [mapOutcome, List.map_congr_left hsame]

@[simp]
theorem mapOutcome_id (outcome : Except LexicalFault (List Token)) :
    mapOutcome id outcome = outcome := by
  cases outcome with
  | error fault => cases fault <;> rfl
  | ok tokens => simp [mapOutcome]

/-! ## Texts apart -/

theorem Apart.of_append {front : List Char} (h : Apart (front ++ a) b) : Apart a b := by
  intro c hc d hd
  refine h c ?_ d hd
  rw [Option.mem_def] at hc ⊢
  rw [List.getLast?_append, hc]
  rfl

/-- A word at the end of the first text does not go on in the second. -/
theorem Apart.endsWord (h : Apart a b) (hne : a ≠ [])
    (hword : ∀ c ∈ a, isWordCharacter c = true) : EndsWord b := by
  intro d hd
  have hlast : a.getLast hne ∈ a.getLast? := by simp [List.getLast?_eq_some_getLast hne]
  rw [Bool.eq_false_iff]
  intro hd'
  exact (h _ hlast d hd).1 ⟨hword _ (List.getLast_mem hne), hd'⟩

/-- An operator in the first text does not go on in the second. -/
theorem Apart.read?_append {op : Operator} {after : List Char} (h : Apart a b)
    (hread : Operator.read? a = some (op, after)) :
    Operator.read? (a ++ b) = some (op, after ++ b) := by
  unfold Operator.read? at hread
  split at hread <;> cases hread
  case h_4 rest hstar =>
    -- Only a single star at the very end could have been part of a longer operator.
    cases after with
    | cons c after =>
      have hc : c ≠ '*' := by
        rintro rfl
        exact hstar after rfl
      simp [Operator.read?, hc]
    | nil =>
      cases b with
      | nil => rfl
      | cons d b =>
        have hd : d ≠ '*' := by
          rintro rfl
          exact (h '*' rfl '*' rfl).2 ⟨rfl, rfl⟩
        simp [Operator.read?, hd]
  all_goals rfl

/-- Reading two texts apart is reading the one and then the other. -/
theorem readFrom_append (h : Apart a b) (position : Nat) :
    readFrom position (a ++ b) =
      appendOutcome (readFrom position a) (readFrom (position + a.length) b) := by
  induction a using textInduction generalizing position with
  | nil => simp
  | blank c rest hblank ih =>
    have hrest : Apart rest b := by
      rw [← List.singleton_append] at h
      exact h.of_append
    rw [List.cons_append, readFrom_blank _ hblank, readFrom_blank _ hblank, ih hrest,
      List.length_cons, Nat.add_assoc, Nat.add_comm 1]
  | operator text op after hread ih =>
    have hsplit := Operator.eq_symbol_append_of_read? hread
    have hafter : Apart after b := by
      rw [hsplit] at h
      exact h.of_append
    have hlength : position + op.width + after.length = position + text.length := by
      rw [Operator.length_of_read? hread, Nat.add_assoc]
    rw [readFrom_operator _ (h.read?_append hread), readFrom_operator _ hread, ih hafter,
      hlength, map_cons_appendOutcome]
  | word first others rest hword hends ih =>
    -- The last word of the first text ends only because the second does not go on with it.
    have hends' : EndsWord (rest ++ b) := by
      cases rest with
      | cons d rest => exact hends
      | nil =>
        rw [List.append_nil] at h
        exact h.endsWord (List.cons_ne_nil _ _) hword
    have hlength : position + (first :: others).length + rest.length =
        position + (first :: others ++ rest).length := by
      rw [List.length_append, Nat.add_assoc]
    rw [List.append_assoc, readFrom_word _ hword hends', readFrom_word _ hword hends]
    cases ofWord position first others with
    | error fault => rfl
    | ok token => simp only [ih h.of_append, hlength, map_cons_appendOutcome]
  | foreign c rest hblank hread hword =>
    have hread' : Operator.read? (c :: (rest ++ b)) = none :=
      Operator.read?_cons_eq_none hread (rest ++ b)
    rw [List.cons_append, readFrom_foreign _ hblank hread' hword,
      readFrom_foreign _ hblank hread hword]
    rfl

/-! ## Moving the start -/

/-- The judgement of a word moves with the word. -/
theorem ofWord_shift (distance position : Nat) (first : Char) (others : List Char) :
    ofWord (position + distance) first others =
      match ofWord position first others with
      | .ok token => .ok (token.mapSpan (.shift distance))
      | .error fault => .error (fault.mapSpan (.shift distance)) := by
  have hlength : position + distance + (first :: others).length =
      position + (first :: others).length + distance := by omega
  unfold ofWord
  simp only [hlength]
  by_cases hdigit : first.isDigit = true
  · rw [if_pos hdigit, if_pos hdigit]
    cases Literal.read? (first :: others) <;> rfl
  · rw [if_neg hdigit, if_neg hdigit]
    simp [LexicalFault.mapSpan, Span.shift, Span.character, Nat.add_right_comm]

/-- A text that starts later yields the same, moved. -/
theorem readFrom_shift (distance position : Nat) (text : List Char) :
    readFrom (position + distance) text =
      mapOutcome (.shift distance) (readFrom position text) := by
  induction text using textInduction generalizing position with
  | nil => simp [mapOutcome]
  | blank c rest hblank ih =>
    rw [readFrom_blank _ hblank, readFrom_blank _ hblank, Nat.add_right_comm, ih]
  | operator text op after hread ih =>
    rw [readFrom_operator _ hread, readFrom_operator _ hread, mapOutcome_map_cons,
      Nat.add_right_comm, ih]
    rfl
  | word first others rest hword hends ih =>
    rw [readFrom_word _ hword hends, readFrom_word _ hword hends, ofWord_shift]
    cases ofWord position first others with
    | error fault => rfl
    | ok token =>
      simp only [mapOutcome_map_cons, ← ih, Nat.add_right_comm]
  | foreign c rest hblank hread hword =>
    rw [readFrom_foreign _ hblank hread hword, readFrom_foreign _ hblank hread hword]
    simp [mapOutcome, LexicalFault.mapSpan, Span.shift, Span.character, Nat.add_right_comm]

/-- What a word amounts to starts with the word. -/
theorem start_ofWord (position : Nat) (first : Char) (others : List Char) :
    match ofWord position first others with
    | .ok token => token.span.start = position
    | .error fault => fault.span.start = position := by
  unfold ofWord
  by_cases hdigit : first.isDigit = true
  · simp only [hdigit, if_true]
    cases Literal.read? (first :: others) <;> rfl
  · simp [hdigit, LexicalFault.span]

/-- Everything that a text yields starts inside the text. -/
theorem spansSatisfy_readFrom (position : Nat) (text : List Char) :
    SpansSatisfy (fun s => position ≤ s.start ∧ s.start < position + text.length)
      (readFrom position text) := by
  induction text using textInduction generalizing position with
  | nil => simp [SpansSatisfy]
  | blank c rest hblank ih =>
    rw [readFrom_blank _ hblank]
    refine (ih (position + 1)).mono fun s hs => ?_
    simp only [List.length_cons]
    omega
  | operator text op after hread ih =>
    have length := Operator.length_of_read? hread
    have positive := op.width_pos
    rw [readFrom_operator _ hread]
    apply spansSatisfy_map_cons
    · simp only [span]
      omega
    · refine (ih (position + op.width)).mono fun s hs => ?_
      omega
  | word first others rest hword hends ih =>
    have hstart := start_ofWord position first others
    rw [readFrom_word _ hword hends]
    cases hjudge : ofWord position first others with
    | error fault =>
      simp only [hjudge] at hstart
      simp only [SpansSatisfy, hstart, List.cons_append, List.length_cons]
      omega
    | ok token =>
      simp only [hjudge] at hstart
      apply spansSatisfy_map_cons
      · simp only [hstart, List.cons_append, List.length_cons]
        omega
      · refine (ih (position + (first :: others).length)).mono fun s hs => ?_
        simp only [List.length_append, List.length_cons] at hs ⊢
        omega
  | foreign c rest hblank hread hword =>
    rw [readFrom_foreign _ hblank hread hword]
    simp [SpansSatisfy, LexicalFault.span, Span.character]

/-! ## Texts side by side -/

/-- Blanks between two texts keep them apart. -/
theorem Apart.append_of_blank (h : Apart a b) (hgap : ∀ c ∈ gap, Text.isBlank c = true) :
    Apart a (gap ++ b) := by
  cases gap with
  | nil => exact h
  | cons blank gap =>
    intro c hc d hd
    obtain rfl : blank = d := by simpa using hd
    have hblank : Text.isBlank blank = true := hgap blank List.mem_cons_self
    constructor
    · rintro ⟨_, hword⟩
      rw [isWordCharacter_of_isBlank hblank] at hword
      cases hword
    · rintro ⟨_, rfl⟩
      exact absurd hblank (by decide)

/-- Blanks between two texts only move what the second text yields. -/
theorem readFrom_append_blank_append (h : Apart a b)
    (hgap : ∀ c ∈ gap, Text.isBlank c = true) :
    readFrom 0 (a ++ gap ++ b) =
      mapOutcome (.makeRoom a.length gap.length) (readFrom 0 (a ++ b)) := by
  have hfirst : SpansSatisfy (fun s => s.makeRoom a.length gap.length = id s) (readFrom 0 a) := by
    refine (spansSatisfy_readFrom 0 a).mono fun s hs => ?_
    exact if_neg (by omega)
  have hsecond : SpansSatisfy (fun s => s.makeRoom a.length gap.length = s.shift gap.length)
      (readFrom a.length b) := by
    refine (spansSatisfy_readFrom a.length b).mono fun s hs => ?_
    exact if_pos hs.1
  rw [List.append_assoc, readFrom_append (h.append_of_blank hgap), readFrom_append h,
    mapOutcome_appendOutcome, mapOutcome_congr hfirst, mapOutcome_id, Nat.zero_add,
    mapOutcome_congr hsecond, readFrom_append_of_blank _ hgap, readFrom_shift]

/-- Two texts that cannot run into each other are scanned one after the other.  A fault in
the first is the fault of both.  Otherwise the tokens of the second, or its fault, are
moved by the length of the first.  Blanks put between the two make room, and change
nothing else. -/
theorem scan_append (a b : String) (h : Apart a.toList b.toList) :
    (Token.scan (a ++ b) =
      match Token.scan a, Token.scan b with
      | .error fault, _ => .error fault
      | .ok tokens, .ok others => .ok (tokens ++ others.map (mapSpan (.shift a.length)))
      | .ok _, .error fault => .error (fault.mapSpan (.shift a.length))) ∧
    ∀ gap : String, (∀ c ∈ gap.toList, Text.isBlank c = true) →
      Token.scan (a ++ gap ++ b) =
        mapOutcome (.makeRoom a.length gap.length) (Token.scan (a ++ b)) := by
  constructor
  · have hshift : readFrom (0 + a.toList.length) b.toList =
        mapOutcome (.shift a.length) (readFrom 0 b.toList) := by
      rw [readFrom_shift, String.length_toList]
    rw [scan_eq_readFrom, scan_eq_readFrom, scan_eq_readFrom, String.toList_append,
      readFrom_append h, hshift]
    cases readFrom 0 a.toList <;> cases readFrom 0 b.toList <;> rfl
  · intro gap hgap
    rw [scan_eq_readFrom, scan_eq_readFrom, String.toList_append, String.toList_append,
      String.toList_append, readFrom_append_blank_append h hgap, String.length_toList,
      String.length_toList]

/-- A star and a word with a letter in it can stand side by side. -/
theorem scan_append_star_word : Apart "7*".toList "3x".toList ∧
    Token.scan ("7*" ++ "3x") = .error (.invalidNumber ⟨2, 4⟩) := by
  have hapart : Apart "7*".toList "3x".toList := by
    intro c hc d hd
    have hstar : '*' = c := by simpa using hc
    have hthree : '3' = d := by simpa using hd
    subst hstar hthree
    decide +kernel
  have hfirst : Token.scan "7*" =
      .ok [.number (.whole 7) ⟨0, 1⟩, .operator .mul ⟨1, 2⟩] := by cbv
  have hsecond : Token.scan "3x" = .error (.invalidNumber ⟨0, 2⟩) := by cbv
  refine ⟨hapart, ?_⟩
  rw [(scan_append "7*" "3x" hapart).1, hfirst, hsecond]
  rfl

end Token

end InfixArithmetic
