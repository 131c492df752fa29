import InfixArithmetic.Proofs.Slices

/-!
# Where pending words end

The scanner ends the pending word in four places: at the end of the text, at a blank, at an
operator and at a character that starts no token.  Each of them finds the position at which
the word stops in its own way.  In every state of a scan this position is as far from the
start of the text as the word needs, and the word is just what the text holds before it.

Main results:

- `Scanner.EndsWordAt`: the places where the pending word is ended.
- `Scanner.step_of_endsWordAt`: a step in such a place ends the word and then goes on.
- `Scanner.tracks_of_reaches`: where the pending word stands in every state of a scan.
- `Scanner.word_before_stop`: the word that is ended in a scan.
-/

namespace InfixArithmetic

namespace Scanner

variable {s closed : State} {stop : Nat}

/-! ## Ending a word -/

/-- A step from the state ends the pending word right before a position.  At the end of the
text this is the number of characters read, at a blank the position of the character read
last, at an operator the start of its token, and at a character that starts no token the
start of the fault. -/
inductive EndsWordAt (s : State) : Nat → Prop where
  | finish : s.rest = [] → EndsWordAt s s.position
  | blank {c : Char} {rest : List Char} : s.rest = c :: rest → Text.isBlank c = true →
      EndsWordAt s ((s.skip rest).position - 1)
  | operator {op : Operator} {after : List Char} : Operator.read? s.rest = some (op, after) →
      EndsWordAt s (Token.operator op ⟨s.position, s.position + op.width⟩).span.start
  | foreign {c : Char} {rest : List Char} : s.rest = c :: rest → Text.isBlank c = false →
      Operator.read? (c :: rest) = none → isWordCharacter c = false →
      EndsWordAt s (LexicalFault.invalidCharacter c (.character s.position)).span.start

/-- What a step does once the pending word has been ended. -/
def State.resume (s : State) : Move State (Except LexicalFault (List Token)) :=
  match s.rest with
  | [] => .done (.ok s.tokens.reverse)
  | c :: rest =>
    if Text.isBlank c then
      .next (s.skip rest)
    else
      match Operator.read? (c :: rest) with
      | some (op, after) => .next (s.emit op after)
      | none => .done (.error (.invalidCharacter c (.character s.position)))

/-- In all four places the word is ended before the current position. -/
theorem EndsWordAt.eq_position (h : EndsWordAt s stop) : stop = s.position := by
  cases h <;> rfl

/-- Where an operator is read the rest does not start with a blank. -/
theorem exists_cons_of_read? {text after : List Char} {op : Operator}
    (h : Operator.read? text = some (op, after)) :
    ∃ c rest, text = c :: rest ∧ Text.isBlank c = false := by
  cases text with
  | nil => cases h
  | cons c rest =>
    exact ⟨c, rest, rfl, Operator.isBlank_of_mem_symbol (Operator.mem_symbol_of_read? h)⟩

/-- In each of the four places the step ends the pending word there.  A fault in the word is
the result, and otherwise the step goes on. -/
theorem step_of_endsWordAt (h : EndsWordAt s stop) :
    step s =
      match s.closeWord stop with
      | .ok closed => closed.resume
      | .error fault => .done (.error fault) := by
  rw [h.eq_position]
  cases hclosed : s.closeWord s.position with
  | error fault =>
    cases h with
    | finish hrest => simp [step, hrest, hclosed]
    | blank hrest hblank => simp [step, hrest, hblank, hclosed]
    | operator hread =>
      rcases exists_cons_of_read? hread with ⟨c, rest, hrest, hblank⟩
      rw [hrest] at hread
      simp [step, hrest, hblank, hread, hclosed]
    | foreign hrest hblank hread hword => simp [step, hrest, hblank, hread, hword, hclosed]
  | ok closed =>
    rcases eq_of_closeWord hclosed with ⟨_, hposition, hsame⟩
    cases h with
    | finish hrest => simp [step, State.resume, hrest, hsame, hclosed]
    | blank hrest hblank => simp [step, State.resume, hrest, hsame, hblank, hclosed]
    | operator hread =>
      rcases exists_cons_of_read? hread with ⟨c, rest, hrest, hblank⟩
      rw [hrest] at hread
      simp [step, State.resume, hrest, hsame, hblank, hread, hclosed]
    | foreign hrest hblank hread hword =>
      simp [step, State.resume, hrest, hsame, hposition, hblank, hread, hword, hclosed]

/-- Every step ends the pending word in one of the four places or makes it longer. -/
theorem endsWordAt_or_extends (s : State) :
    (∃ stop, EndsWordAt s stop) ∨
      ∃ c rest, s.rest = c :: rest ∧ isWordCharacter c = true ∧
        step s = .next (s.extendWord c rest) := by
  cases hrest : s.rest with
  | nil => exact .inl ⟨_, .finish hrest⟩
  | cons c rest =>
    by_cases hblank : Text.isBlank c = true
    · exact .inl ⟨_, .blank hrest hblank⟩
    · cases hread : Operator.read? (c :: rest) with
      | some item => exact .inl ⟨_, .operator (by rw [hrest, hread])⟩
      | none =>
        by_cases hword : isWordCharacter c = true
        · exact .inr ⟨c, rest, rfl, hword, by simp [step, hrest, hblank, hread, hword]⟩
        · exact .inl ⟨_, .foreign hrest (by simpa using hblank) hread (by simpa using hword)⟩

/-! ## Words in a scan -/

/-- In every state of a scan the pending word stands right before the unread rest. -/
theorem tracks_of_reaches {text : List Char} (h : machine.Reaches (.start text) s) :
    Tracks text s := by
  apply h.invariant
  · exact tracks_start text
  · exact tracks_of_step

/-- The pending word is what the text holds right before the position. -/
theorem Tracks.toList_slice {text : String} (h : Tracks text.toList s) :
    (Span.slice ⟨s.position - s.word.length, s.position⟩ text).toList = s.word.reverse := by
  rcases h.exists_before with ⟨before, htext, hposition⟩
  rw [List.append_assoc] at htext
  have hstart : s.position - s.word.length = before.length := by omega
  have hslice := Span.toList_slice_middle htext
  rw [List.length_reverse, ← hposition, ← hstart] at hslice
  exact hslice

/-- A word of digits becomes a literal. -/
theorem closeWord_of_isDigit (hword : s.word ≠ []) (hdigits : ∀ c ∈ s.word, c.isDigit = true)
    (stop : Nat) :
    ∃ value, Literal.read? s.word.reverse = some value ∧
      s.closeWord stop = .ok
        { s with tokens := .number value ⟨stop - s.word.length, stop⟩ :: s.tokens, word := [] } := by
  have hsome : (Literal.read? s.word.reverse).isSome = true := by
    rw [Literal.read?_isSome_iff]
    intro c hc
    exact hdigits c (List.mem_reverse.mp hc)
  rcases Option.isSome_iff_exists.mp hsome with ⟨value, hvalue⟩
  refine ⟨value, hvalue, ?_⟩
  cases hreverse : s.word.reverse with
  | nil => exact absurd (List.reverse_eq_nil_iff.mp hreverse) hword
  | cons first others =>
    have hmem : first ∈ s.word := by
      rw [← List.mem_reverse, hreverse]
      exact List.mem_cons_self
    rw [hreverse] at hvalue
    simp [State.closeWord, hreverse, hdigits first hmem, hvalue]

/-- In every state of a scan the next step makes the pending word longer or ends it.  If the
word is ended right before a position, this position is not smaller than the length of the
word, and the word consists of characters of words and is what the text holds in the span
that stops there and is as long as the word.  If all its characters are digits, it becomes a
literal with this span and is no fault. -/
theorem word_before_stop (text : String) (h : machine.Reaches (.start text.toList) s) :
    ((∃ stop, EndsWordAt s stop) ∨
      ∃ c rest, s.rest = c :: rest ∧ isWordCharacter c = true ∧
        step s = .next (s.extendWord c rest)) ∧
    ∀ stop, EndsWordAt s stop →
      step s =
        (match s.closeWord stop with
        | .ok closed => closed.resume
        | .error fault => .done (.error fault)) ∧
      s.word.length ≤ stop ∧
      (Span.slice ⟨stop - s.word.length, stop⟩ text).toList = s.word.reverse ∧
      (∀ c ∈ s.word, isWordCharacter c = true) ∧
      (s.word ≠ [] → (∀ c ∈ s.word, c.isDigit = true) →
        ∃ value, Literal.read? s.word.reverse = some value ∧
          s.closeWord stop = .ok
            { s with
              tokens := .number value ⟨stop - s.word.length, stop⟩ :: s.tokens
              word := [] }) := by
  have htracks := tracks_of_reaches h
  refine ⟨endsWordAt_or_extends s, ?_⟩
  intro stop hends
  refine ⟨step_of_endsWordAt hends, ?_, ?_, htracks.isWordCharacter_of_mem, ?_⟩
  · rw [hends.eq_position]
    exact htracks.length_word_le
  · rw [hends.eq_position]
    exact htracks.toList_slice
  · intro hword hdigits
    exact closeWord_of_isDigit hword hdigits stop

/-- A number is ended by two stars behind an ideographic space and another number. -/
theorem word_before_stop_stars :
    machine.Reaches (.start "7\u300042**3".toList)
        ⟨[.number (.whole 7) ⟨0, 1⟩], ['2', '4'], 4, ['*', '*', '3']⟩ ∧
      (Span.slice ⟨2, 4⟩ "7\u300042**3").toList = ['4', '2'] := by
  have hreach : machine.Reaches (.start "7\u300042**3".toList)
      ⟨[.number (.whole 7) ⟨0, 1⟩], ['2', '4'], 4, ['*', '*', '3']⟩ :=
    (((Machine.Reaches.refl.tail rfl).tail rfl).tail rfl).tail rfl
  have hends : EndsWordAt ⟨[.number (.whole 7) ⟨0, 1⟩], ['2', '4'], 4, ['*', '*', '3']⟩ 4 :=
    .operator rfl
  exact ⟨hreach, ((word_before_stop "7\u300042**3" hreach).2 4 hends).2.2.1⟩

end Scanner

end InfixArithmetic
