import InfixArithmetic.Proofs.Rendering
import InfixArithmetic.Proofs.Tiling
import InfixArithmetic.Proofs.Turns

/-!
# Where faults lie

Every fault of a text concerns a nonempty span of the text, or the one position behind it.
The span of a single token, or of a piece that is no token, has no blank in it and so lies
in one row.  Only the tokens left over behind a complete expression may take several rows.
A fault is shown as the rows of its span.

Main results:

- `Text.Addressable`: texts whose positions are machine words.
- `Token.coversRun_of_readFrom`: a lexical fault takes up a run of characters.
- `Span.CoversRun.rowAt_eq`: such a run lies in one row.
- `Fault.exists_of_calculate`: the faults of a text by the stage in which they are found.
- `Fault.LiesIn` and `Fault.ShownIn`: where the span of a fault lies, and what is shown.
- `Fault.liesIn_and_shownIn_of_calculate`: every fault of a text lies in it and is shown
  as the rows of its span.
-/

namespace InfixArithmetic

open Text

/-! ## Positions as words -/

/-- The positions of a text, up to the one behind its end, and the word after that are all
below the greatest word.  Every text that fits into memory is addressable: it has fewer than
`2 ^ 63` bytes, and each of its characters takes at least one. -/
def Text.Addressable (text : String) : Prop :=
  text.length + 1 < UInt64.size

instance (text : String) : Decidable (Text.Addressable text) :=
  inferInstanceAs (Decidable (text.length + 1 < UInt64.size))

/-- Behind a position of an addressable text, counting on does not wrap. -/
theorem Text.Addressable.succ_lt {text : String} {position : Nat} (h : Text.Addressable text)
    (hposition : position ≤ text.length) : position + 1 < UInt64.size :=
  Nat.lt_of_le_of_lt (Nat.succ_le_succ hposition) h

/-! ## Runs without blanks -/

/-- The span takes up a run of characters without blanks, in a text that starts at a
position. -/
def Span.CoversRun (position : Nat) (text : List Char) (s : Span) : Prop :=
  ∃ front run rest, text = front ++ (run ++ rest) ∧ run ≠ [] ∧
    (∀ c ∈ run, Text.isBlank c = false) ∧
    s = ⟨position + front.length, position + front.length + run.length⟩

namespace Span

variable {position : Nat} {before text : List Char} {s : Span}

theorem CoversRun.append_left (h : CoversRun (position + before.length) text s) :
    CoversRun position (before ++ text) s := by
  rcases h with ⟨front, run, rest, rfl, hrun, hblank, rfl⟩
  refine ⟨before ++ front, run, rest, by simp, hrun, hblank, ?_⟩
  rw [List.length_append, Nat.add_assoc position]

/-- A run is nonempty and lies in the text. -/
theorem CoversRun.bounds (h : CoversRun 0 text s) :
    s.start < s.stop ∧ s.stop ≤ text.length := by
  rcases h with ⟨front, run, rest, rfl, hrun, _, rfl⟩
  have hpositive : 0 < run.length := List.length_pos_iff.mpr hrun
  simp only [List.length_append]
  omega

/-- A run lies in one row, because newlines are blank. -/
theorem CoversRun.rowAt_eq (h : CoversRun 0 text s) :
    rowAt text (s.stop - 1) = rowAt text s.start := by
  rcases h with ⟨front, run, rest, rfl, hrun, hblank, rfl⟩
  have hnewline : '\n' ∉ run := by
    intro hmem
    exact absurd (hblank '\n' hmem) (by decide)
  have hpositive : 0 < run.length := List.length_pos_iff.mpr hrun
  have hlast : 0 + front.length + run.length - 1 = front.length + (run.length - 1) := by omega
  rw [hlast, Nat.zero_add]
  exact rowAt_append_add hnewline (by omega) front rest

end Span

/-- Lexemes have no blank in them. -/
theorem Lexeme.isBlank_of_mem_text {lexeme : Lexeme} {c : Char} (h : c ∈ lexeme.text) :
    Text.isBlank c = false := by
  cases lexeme with
  | number n => exact isBlank_of_isWordCharacter (isWordCharacter_of_isDigit (n.isDigit_of_mem c h))
  | operator op => exact Operator.isBlank_of_mem_symbol h

namespace Token

variable {position : Nat} {text : List Char} {tokens : List Token} {t : Token}
  {fault : LexicalFault}

/-- A scanned token takes up a run of characters. -/
theorem coversRun_of_scan {text : String} (h : Token.scan text = .ok tokens) (ht : t ∈ tokens) :
    t.span.CoversRun 0 text.toList := by
  rcases exists_split_of_scan h ht with ⟨front, lexeme, rest, htext, rfl, _, _⟩
  refine ⟨front, lexeme.text, rest, htext, lexeme.text_ne_nil, ?_, ?_⟩
  · intro c hc
    exact Lexeme.isBlank_of_mem_text hc
  · rw [Lexeme.span_token, Nat.zero_add]

/-- A fault behind a token is a fault of what stands behind it. -/
theorem eq_error_of_map_cons {outcome : Except LexicalFault (List Token)}
    (h : outcome.map (t :: ·) = .error fault) : outcome = .error fault := by
  cases outcome with
  | error other =>
    cases h
    rfl
  | ok others => cases h

/-- A word that is no literal is at fault as a whole or with its first character. -/
theorem coversRun_of_ofWord {first : Char} {others rest : List Char}
    (hword : ∀ c ∈ first :: others, isWordCharacter c = true)
    (h : ofWord position first others = .error fault) :
    fault.span.CoversRun position (first :: others ++ rest) := by
  have hblank : ∀ c ∈ first :: others, Text.isBlank c = false := by
    intro c hc
    exact isBlank_of_isWordCharacter (hword c hc)
  unfold ofWord at h
  split at h
  next =>
    split at h
    next => cases h
    next =>
      cases h
      exact ⟨[], first :: others, rest, rfl, List.cons_ne_nil first others, hblank, rfl⟩
  next =>
    cases h
    exact ⟨[], [first], others ++ rest, rfl, List.cons_ne_nil first [],
      List.forall_mem_singleton.mpr (hblank first List.mem_cons_self), rfl⟩

/-- The fault that keeps a text from being split takes up a run of its characters. -/
theorem coversRun_of_readFrom (h : readFrom position text = .error fault) :
    fault.span.CoversRun position text := by
  induction text using textInduction generalizing position with
  | nil =>
    rw [readFrom_nil] at h
    cases h
  | blank c rest hblank ih =>
    rw [readFrom_blank _ hblank] at h
    exact @Span.CoversRun.append_left _ [c] _ _ (ih h)
  | operator text op after hread ih =>
    rw [readFrom_operator _ hread] at h
    have hafter := ih (eq_error_of_map_cons h)
    rw [Operator.eq_symbol_append_of_read? hread]
    rw [← Operator.length_symbol] at hafter
    exact hafter.append_left
  | word first others rest hword hends ih =>
    rw [readFrom_word _ hword hends] at h
    cases hjudge : ofWord position first others with
    | error other =>
      rw [hjudge] at h
      cases h
      exact coversRun_of_ofWord hword hjudge
    | ok token =>
      rw [hjudge] at h
      exact (ih (eq_error_of_map_cons h)).append_left
  | foreign c rest hblank hread hword =>
    rw [readFrom_foreign _ hblank hread hword] at h
    cases h
    exact ⟨[], [c], rest, rfl, List.cons_ne_nil c [], List.forall_mem_singleton.mpr hblank, rfl⟩

/-- No scanned token reaches behind the last one. -/
theorem stop_le_stopOf {text : String} (h : Token.scan text = .ok tokens) (ht : t ∈ tokens) :
    t.span.stop ≤ stopOf tokens := by
  rcases List.eq_nil_or_concat tokens with rfl | ⟨before, last, rfl⟩
  · cases ht
  · have hpairwise := (scan_eq_ok_iff.mp h).pairwise
    have hlast : last.span.start < last.span.stop :=
      (coversRun_of_scan h (by simp)).bounds.1
    have hstop : stopOf (before ++ [last]) = last.span.stop := stopOf_append_cons before last []
    rw [List.concat_eq_append] at ht hpairwise ⊢
    rw [hstop]
    rcases List.mem_append.mp ht with hbefore | hhere
    · have := (List.pairwise_append.mp hpairwise).2.2 t hbefore last List.mem_cons_self
      omega
    · rw [List.mem_singleton.mp hhere]

/-- The last token ends in the text. -/
theorem stopOf_le_length {text : String} (h : Token.scan text = .ok tokens) :
    stopOf tokens ≤ text.length := by
  rw [stopOf, ← String.length_toList]
  cases hlast : tokens.getLast? with
  | none => exact Nat.zero_le _
  | some last => exact (coversRun_of_scan h (List.mem_of_getLast? hlast)).bounds.2

end Token

/-- In an addressable text, tokens stop below the greatest word. -/
theorem Token.stop_add_one_lt_size {text : String} {tokens : List Token} {t : Token}
    (haddressable : Text.Addressable text) (h : Token.scan text = .ok tokens) (ht : t ∈ tokens) :
    t.span.stop + 1 < UInt64.size := by
  have hstop : t.span.stop ≤ text.length :=
    Nat.le_trans (Token.stop_le_stopOf h ht) (Token.stopOf_le_length h)
  exact haddressable.succ_lt hstop

/-! ## Faults of a text -/

namespace Fault

variable {text : String} {fault : Fault}

/-- A text that is not calculated does not split into tokens, or lacks an operand at its
end, or has a token out of turn. -/
theorem exists_of_calculate (h : calculate text = .error fault) :
    (∃ lexical, fault = .lexical lexical ∧ Token.readFrom 0 text.toList = .error lexical) ∨
    ∃ tokens, Token.scan text = .ok tokens ∧
      (fault = .grammar (.unexpectedEnd (.single (Token.stopOf tokens))) ∨
        (∃ t ∈ tokens, fault = .grammar (.unexpectedToken t)) ∨
        ∃ t ∈ tokens, fault = .grammar (.trailingInput ⟨t.span.start, Token.stopOf tokens⟩)) := by
  unfold calculate Expr.ofText at h
  cases hscan : Token.scan text with
  | error lexical =>
    simp only [hscan] at h
    cases h
    rw [Token.scan_eq_readFrom] at hscan
    exact .inl ⟨lexical, rfl, hscan⟩
  | ok tokens =>
    refine .inr ⟨tokens, rfl, ?_⟩
    rcases Parser.parse_cases tokens with ⟨_, _, hparse⟩ | ⟨i, t, hfirst, _, hparse⟩ |
      ⟨i, t, hfirst, _, hparse⟩ | ⟨_, _, e, hparse⟩
    · simp only [hscan, hparse] at h
      cases h
      exact .inl rfl
    · simp only [hscan, hparse] at h
      cases h
      exact .inr (.inl ⟨t, List.mem_of_getElem? hfirst.getElem?_eq, rfl⟩)
    · simp only [hscan, hparse] at h
      cases h
      exact .inr (.inr ⟨t, List.mem_of_getElem? hfirst.getElem?_eq, rfl⟩)
    · simp only [hscan, hparse] at h
      cases h

/-- Where the span of a fault lies: it is nonempty, it ends in the text or, where an operand
is missing at the end, one position behind it, and only tokens left over may take more than
one row. -/
structure LiesIn (text : String) (fault : Fault) : Prop where
  start_lt_stop : fault.span.start < fault.span.stop
  stop_le : fault.span.stop ≤ text.length + 1
  stop_le_length : (∀ s, fault ≠ .grammar (.unexpectedEnd s)) → fault.span.stop ≤ text.length
  rowAt_eq : (∀ s, fault ≠ .grammar (.trailingInput s)) →
    rowAt text.toList (fault.span.stop - 1) = rowAt text.toList fault.span.start

/-- A fault that takes up a run of characters lies in the text. -/
theorem liesIn_of_coversRun (h : fault.span.CoversRun 0 text.toList) : LiesIn text fault := by
  have hbounds := h.bounds
  rw [String.length_toList] at hbounds
  exact ⟨hbounds.1, Nat.le_succ_of_le hbounds.2, fun _ => hbounds.2, fun _ => h.rowAt_eq⟩

/-- The fault of a text lies in the text. -/
theorem liesIn_of_calculate (haddressable : Addressable text)
    (h : calculate text = .error fault) : LiesIn text fault := by
  rcases exists_of_calculate h with ⟨lexical, rfl, hread⟩ |
    ⟨tokens, hscan, rfl | ⟨t, ht, rfl⟩ | ⟨t, ht, rfl⟩⟩
  · exact liesIn_of_coversRun (Token.coversRun_of_readFrom hread)
  · have hstop := Token.stopOf_le_length hscan
    -- The position behind the last token is a word, and so is the one after it.
    rw [Span.single_eq_character (haddressable.succ_lt hstop)]
    exact {
      start_lt_stop := Nat.lt_succ_self _
      stop_le := Nat.succ_le_succ hstop
      stop_le_length := fun hother => absurd rfl (hother _)
      rowAt_eq := fun _ => rfl }
  · exact liesIn_of_coversRun (Token.coversRun_of_scan hscan ht)
  · have hstop := Token.stopOf_le_length hscan
    have hstart := (Token.coversRun_of_scan hscan ht).bounds.1
    exact {
      start_lt_stop := Nat.lt_of_lt_of_le hstart (Token.stop_le_stopOf hscan ht)
      stop_le := Nat.le_succ_of_le hstop
      stop_le_length := fun _ => hstop
      rowAt_eq := fun hother => absurd rfl (hother _) }

/-- In an addressable text, faults stop at a word. -/
theorem stop_lt_size (haddressable : Addressable text) (h : calculate text = .error fault) :
    fault.span.stop < UInt64.size :=
  Nat.lt_of_le_of_lt (liesIn_of_calculate haddressable h).stop_le haddressable

/-! ## What is shown of a fault -/

/-- How a fault is shown: as the rows from that of its first position to that of its last,
one after the other, each with at least one caret below it. -/
structure ShownIn (text : String) (fault : Fault) : Prop where
  spans_eq : fault.diagnostic.spans = [fault.span]
  rowAt_le : rowAt text.toList fault.span.start ≤ rowAt text.toList (fault.span.stop - 1)
  rowAt_lt : rowAt text.toList (fault.span.stop - 1) < (rows text.toList).length
  render_eq : fault.diagnostic.render text =
    String.join ((List.range' (rowAt text.toList fault.span.start)
      (rowAt text.toList (fault.span.stop - 1) + 1 - rowAt text.toList fault.span.start)).map
        (Diagnostic.rowPicture characterWidth .red fault.span text.toList)) ++
      Diagnostic.footer .red fault.description
  exists_carets : ∀ i, ∃ indent carets, 0 < carets ∧
    Diagnostic.rowPicture characterWidth .red fault.span text.toList i =
      Diagnostic.picture .red (i + 1) (withoutReturn (row text.toList i)) indent carets

/-- A fault that lies in the text is shown as the rows of its span. -/
theorem LiesIn.shownIn (h : LiesIn text fault) : ShownIn text fault where
  spans_eq := rfl
  rowAt_le := rowAt_mono (Nat.le_sub_one_of_lt h.start_lt_stop)
  rowAt_lt := rowAt_lt_length_rows _ _
  render_eq := by
    have hstop : fault.span.stop ≤ text.toList.length + 1 := by
      rw [String.length_toList]
      exact h.stop_le
    rw [diagnostic, Diagnostic.render, Diagnostic.renderWith_single_span,
      filter_meets_rowSpan h.start_lt_stop hstop]
  exists_carets := fun _ => ⟨_, _, Nat.lt_of_lt_of_le Nat.one_pos (Nat.le_max_left 1 _), rfl⟩

/-- The fault of a text lies in the text, and is shown as the rows of its span.  The text may
be any that fits into memory, since all those are addressable. -/
theorem liesIn_and_shownIn_of_calculate (haddressable : Addressable text)
    (h : calculate text = .error fault) : LiesIn text fault ∧ ShownIn text fault := by
  have hlies := liesIn_of_calculate haddressable h
  exact ⟨hlies, hlies.shownIn⟩

/-- The two numbers left over stand in two rows. -/
theorem liesIn_and_shownIn_leftover :
    Addressable "1 2\n3" ∧ calculate "1 2\n3" = .error (.grammar (.trailingInput ⟨2, 5⟩)) ∧
      LiesIn "1 2\n3" (.grammar (.trailingInput ⟨2, 5⟩)) ∧
      ShownIn "1 2\n3" (.grammar (.trailingInput ⟨2, 5⟩)) := by
  have hcalculate : calculate "1 2\n3" = .error (.grammar (.trailingInput ⟨2, 5⟩)) := by cbv
  have haddressable : Addressable "1 2\n3" := by decide
  exact ⟨haddressable, hcalculate, liesIn_and_shownIn_of_calculate haddressable hcalculate⟩

end Fault

end InfixArithmetic
