import InfixArithmetic.Proofs.Rendering

/-!
# Carets below spans

The marks below a line are placed in one pass over it: a span takes what no span before it
has taken.  If the spans are sorted and each of them takes characters of some width, nothing
of this shows, and a caret stands exactly in the columns of the characters that lie in a
span.  A span that lies within one before it has nothing left to take.  It still gets its
one caret, which moves everything behind it.  All of this holds whatever table of widths
counts the columns.

Main results:

- `Text.withoutEscapes` and `Diagnostic.caretLine`: the caret line as a terminal shows it.
- `Mark.placeFrom_append`: marks are placed one stretch of spans after the other.
- `Mark.flatMap_drawn_placeFrom`: where the carets of sorted spans stand.
- `Diagnostic.caret_below_iff_mem_span`: a caret stands below exactly the characters in the
  spans.
- `Diagnostic.contained_span_adds_caret`: what a span adds that lies within another one.
-/

namespace InfixArithmetic

namespace Text

/-! ## Text as a terminal shows it -/

/-- The characters that a terminal shows of a text, given whether the text starts inside an
escape sequence.  A sequence goes from the escape character to the next `m`. -/
def shownFrom (hidden : Bool) : List Char → List Char
  | [] => []
  | c :: cs =>
    if hidden then shownFrom (c != 'm') cs
    else if c = '\x1b' then shownFrom true cs
    else c :: shownFrom false cs

/-- The characters of a text without its escape sequences. -/
def withoutEscapes (text : String) : List Char :=
  shownFrom false text.toList

/-- Characters other than escape characters are shown. -/
theorem shownFrom_append {cs : List Char} (h : '\x1b' ∉ cs) (rest : List Char) :
    shownFrom false (cs ++ rest) = cs ++ shownFrom false rest := by
  induction cs with
  | nil => rfl
  | cons c cs ih =>
    rw [List.mem_cons, not_or] at h
    simp [shownFrom, Ne.symm h.1, ih h.2]

/-- Switching to a color is not shown. -/
theorem shownFrom_escape (color : Color) (rest : List Char) :
    shownFrom false (color.escape.toList ++ rest) = shownFrom false rest := by
  cases color <;> rfl

/-- Switching back to plain text is not shown. -/
theorem shownFrom_reset (rest : List Char) :
    shownFrom false (Color.reset.toList ++ rest) = shownFrom false rest :=
  rfl

/-! ## Carets below wanted characters -/

/-- What stands below characters, the first of which stands at `start`: as many carets or
blanks as each of them takes columns, and carets if its position is wanted. -/
def underlining (width : Char → Option Nat) (wanted : Nat → Bool) (start : Nat) :
    List Char → List Char
  | [] => []
  | c :: cs =>
    List.replicate (columnWidth width c) (if wanted start then '^' else ' ') ++
      underlining width wanted (start + 1) cs

/-- The character at a position of a line takes up a column. -/
def Occupies (width : Char → Option Nat) (line : List Char) (position column : Nat) : Prop :=
  columns width (line.take position) ≤ column ∧ column < columns width (line.take (position + 1))

variable {width : Char → Option Nat} {wanted other : Nat → Bool} {start : Nat} {cs : List Char}

/-- Characters are underlined one stretch after the other. -/
theorem underlining_take_add (wanted : Nat → Bool) (start count more : Nat) (cs : List Char) :
    underlining width wanted start (cs.take (count + more)) =
      underlining width wanted start (cs.take count) ++
        underlining width wanted (start + count) ((cs.drop count).take more) := by
  induction cs generalizing start count with
  | nil => simp [underlining]
  | cons c cs ih =>
    cases count with
    | zero => simp [underlining]
    | succ count =>
      have hcount : count + 1 + more = count + more + 1 := by omega
      have hstart : start + (count + 1) = start + 1 + count := by omega
      rw [hcount, hstart, List.take_succ_cons, List.take_succ_cons, List.drop_succ_cons,
        underlining, underlining, ih, List.append_assoc]

/-- A stretch of a line is underlined in two parts. -/
theorem underlining_extract_append {first middle stop : Nat} (hfirst : first ≤ middle)
    (hstop : middle ≤ stop) (wanted : Nat → Bool) (line : List Char) :
    underlining width wanted first (line.extract first stop) =
      underlining width wanted first (line.extract first middle) ++
        underlining width wanted middle (line.extract middle stop) := by
  rcases Nat.exists_eq_add_of_le hfirst with ⟨count, rfl⟩
  rcases Nat.exists_eq_add_of_le hstop with ⟨more, rfl⟩
  have hall : first + count + more - first = count + more := by omega
  rw [List.extract, List.extract, List.extract, hall, underlining_take_add,
    Nat.add_sub_cancel_left, Nat.add_sub_cancel_left, List.drop_drop]

/-- Below characters that are all wanted there are carets only, and below characters that are
all unwanted there are blanks only. -/
theorem underlining_eq_replicate {answer : Bool}
    (h : ∀ p, start ≤ p → p < start + cs.length → wanted p = answer) :
    underlining width wanted start cs =
      List.replicate (columns width cs) (if answer then '^' else ' ') := by
  induction cs generalizing start with
  | nil => rfl
  | cons c cs ih =>
    rw [List.length_cons] at h
    have hfirst : wanted start = answer := h start (Nat.le_refl start) (by omega)
    have hothers : ∀ p, start + 1 ≤ p → p < start + 1 + cs.length → wanted p = answer := by
      intro p hlow hhigh
      exact h p (by omega) (by omega)
    rw [underlining, hfirst, ih hothers, columns_cons, List.replicate_append_replicate]

/-- A stretch of a line whose positions are all wanted, or all unwanted. -/
theorem underlining_extract_eq_replicate {first stop : Nat} {answer : Bool}
    (h : ∀ p, first ≤ p → p < stop → wanted p = answer) (line : List Char) :
    underlining width wanted first (line.extract first stop) =
      List.replicate (columns width (line.extract first stop)) (if answer then '^' else ' ') := by
  apply underlining_eq_replicate
  intro p hlow hhigh
  have hlength : (line.extract first stop).length ≤ stop - first := List.length_take_le _ _
  exact h p hlow (by omega)

/-- Only the positions of the characters count. -/
theorem underlining_congr (h : ∀ p, start ≤ p → wanted p = other p) :
    underlining width wanted start cs = underlining width other start cs := by
  induction cs generalizing start with
  | nil => rfl
  | cons c cs ih =>
    have hothers : ∀ p, start + 1 ≤ p → wanted p = other p := by
      intro p hp
      exact h p (by omega)
    rw [underlining, underlining, h start (Nat.le_refl start), ih hothers]

/-- The first character takes up the first columns. -/
theorem occupies_cons_zero {c : Char} {column : Nat} :
    Occupies width (c :: cs) 0 column ↔ column < columnWidth width c := by
  simp [Occupies]

/-- The other characters take up the columns behind those of the first one. -/
theorem occupies_cons_succ {c : Char} {i column : Nat} :
    Occupies width (c :: cs) (i + 1) column ↔
      columnWidth width c ≤ column ∧ Occupies width cs i (column - columnWidth width c) := by
  simp only [Occupies, List.take_succ_cons, columns_cons]
  omega

/-- The columns of a character do not depend on what stands behind it. -/
theorem occupies_take {line : List Char} {count position column : Nat} (h : position < count) :
    Occupies width (line.take count) position column ↔ Occupies width line position column := by
  rw [Occupies, Occupies, List.take_take, List.take_take, Nat.min_eq_left (Nat.le_of_lt h),
    Nat.min_eq_left (Nat.succ_le_of_lt h)]

/-- A caret stands in the columns of the wanted characters. -/
theorem getElem?_underlining {column : Nat} :
    (underlining width wanted start cs)[column]? = some '^' ↔
      ∃ i, Occupies width cs i column ∧ wanted (start + i) = true := by
  induction cs generalizing start column with
  | nil => simp [underlining, Occupies]
  | cons c cs ih =>
    rcases Nat.lt_or_ge column (columnWidth width c) with hlt | hge
    · have hget : (underlining width wanted start (c :: cs))[column]? =
          some (if wanted start then '^' else ' ') := by
        rw [underlining, List.getElem?_append_left (by rwa [List.length_replicate]),
          List.getElem?_replicate, if_pos hlt]
      rw [hget]
      constructor
      · intro h
        refine ⟨0, occupies_cons_zero.mpr hlt, ?_⟩
        by_contra hnot
        rw [Nat.add_zero] at hnot
        rw [if_neg hnot] at h
        exact absurd h (by decide)
      · rintro ⟨i, hoccupies, hwanted⟩
        cases i with
        | zero =>
          rw [Nat.add_zero] at hwanted
          rw [if_pos hwanted]
        | succ i => exact absurd (occupies_cons_succ.mp hoccupies).1 (Nat.not_le.mpr hlt)
    · rw [underlining, List.getElem?_append_right (by rwa [List.length_replicate]),
        List.length_replicate, ih]
      constructor
      · rintro ⟨i, hoccupies, hwanted⟩
        refine ⟨i + 1, occupies_cons_succ.mpr ⟨hge, hoccupies⟩, ?_⟩
        rwa [Nat.add_comm i 1, ← Nat.add_assoc]
      · rintro ⟨i, hoccupies, hwanted⟩
        cases i with
        | zero => exact absurd (occupies_cons_zero.mp hoccupies) (Nat.not_lt.mpr hge)
        | succ i =>
          refine ⟨i, (occupies_cons_succ.mp hoccupies).2, ?_⟩
          rwa [Nat.add_comm i 1, ← Nat.add_assoc] at hwanted

end Text

open Text

variable {width : Char → Option Nat}

/-! ## Marks in a row -/

namespace Span

/-- Whether a position lies in one of the spans. -/
def anyHolds (spans : List Span) (position : Nat) : Bool :=
  spans.any fun s => s.start ≤ position && position < s.stop

variable {spans more : List Span} {s : Span} {position : Nat}

theorem anyHolds_eq_true_iff :
    anyHolds spans position = true ↔ ∃ s ∈ spans, s.start ≤ position ∧ position < s.stop := by
  simp [anyHolds]

/-- Before the first start no position lies in a span. -/
theorem anyHolds_of_lt_start {first : Nat} (hfirst : ∀ s ∈ spans, first ≤ s.start)
    (h : position < first) : anyHolds spans position = false := by
  rw [Bool.eq_false_iff, Ne, anyHolds_eq_true_iff]
  rintro ⟨s, hs, hstart, _⟩
  have := hfirst s hs
  omega

/-- Behind a span only the other spans count. -/
theorem anyHolds_cons_of_stop_le (h : s.stop ≤ position) :
    anyHolds (s :: more) position = anyHolds more position := by
  simp [anyHolds, Nat.not_lt.mpr h]

end Span

namespace Mark

/-- The columns that a mark takes. -/
def drawn (m : Mark) : List Char :=
  List.replicate m.indent ' ' ++ List.replicate m.carets '^'

/-- The largest of a position and of the ends of spans, which is how far a line is read when
the spans are marked. -/
def reach (position : Nat) : List Span → Nat
  | [] => position
  | s :: more => reach (max (max position s.start) s.stop) more

/-- Each of the spans holds characters of the line that take columns and lie behind the end
of the span before it. -/
def TakesMore (width : Char → Option Nat) (line : List Char) (reached : Nat) : List Span → Prop
  | [] => True
  | s :: more =>
    0 < columns width (line.extract (max reached s.start) s.stop) ∧
      TakesMore width line s.stop more

variable {position : Nat} {unread line : List Char} {spans before after more : List Span} {s : Span}

theorem le_reach (position : Nat) (spans : List Span) : position ≤ reach position spans := by
  induction spans generalizing position with
  | nil => exact Nat.le_refl position
  | cons s more ih =>
    have := ih (max (max position s.start) s.stop)
    rw [reach]
    omega

/-- All spans end before the reach. -/
theorem stop_le_reach (h : s ∈ spans) : s.stop ≤ reach position spans := by
  induction spans generalizing position with
  | nil => cases h
  | cons t more ih =>
    rw [reach]
    rcases List.mem_cons.mp h with rfl | h
    · have := le_reach (max (max position s.start) s.stop) more
      omega
    · exact ih h

/-- The first span takes what lies between the position and its end, and the others take
from behind that. -/
theorem placeFrom_drop_cons (line : List Char) (position : Nat) (s : Span) (more : List Span) :
    placeFrom width position (line.drop position) (s :: more) =
      ⟨columns width (line.extract position s.start),
        max 1 (columns width (line.extract (max position s.start) s.stop))⟩ ::
        placeFrom width (max (max position s.start) s.stop)
          (line.drop (max (max position s.start) s.stop)) more := by
  have hstart : position + (s.start - position) = max position s.start := by omega
  have hstop : max position s.start + (s.stop - max position s.start) =
      max (max position s.start) s.stop := by omega
  simp only [placeFrom, List.drop_drop, hstart, hstop]

/-- Marks are placed one stretch of spans after the other. -/
theorem placeFrom_append (line : List Char) (position : Nat) (before after : List Span) :
    placeFrom width position (line.drop position) (before ++ after) =
      placeFrom width position (line.drop position) before ++
        placeFrom width (reach position before) (line.drop (reach position before)) after := by
  induction before generalizing position with
  | nil => rfl
  | cons s before ih =>
    rw [List.cons_append, placeFrom_drop_cons, placeFrom_drop_cons, ih, reach, List.cons_append]

/-- The spans behind some others take from behind the reach of those. -/
theorem place_append (line : List Char) (before after : List Span) :
    place width line (before ++ after) =
      place width line before ++ placeFrom width (reach 0 before) (line.drop (reach 0 before)) after :=
  placeFrom_append line 0 before after

/-- A span that ends before the position has nothing to take, and gets one caret. -/
theorem placeFrom_cons_of_le (hstart : s.start ≤ position) (hstop : s.stop ≤ position) :
    placeFrom width position unread (s :: more) = ⟨0, 1⟩ :: placeFrom width position unread more := by
  simp [placeFrom, Nat.max_eq_left hstart, Nat.max_eq_left hstop, Nat.sub_eq_zero_of_le hstart,
    Nat.sub_eq_zero_of_le hstop]

/-- A mark is shown as blanks and carets. -/
theorem shownFrom_text (color : Color) (m : Mark) (rest : List Char) :
    shownFrom false ((m.text color).toList ++ rest) = m.drawn ++ shownFrom false rest := by
  have hspace : '\x1b' ∉ List.replicate m.indent ' ' := by simp
  have hcarets : '\x1b' ∉ List.replicate m.carets '^' := by simp
  simp only [text, Color.paint, space, underline, String.toList_append, String.toList_ofList,
    List.append_assoc]
  rw [shownFrom_append hspace, shownFrom_escape, shownFrom_append hcarets, shownFrom_reset,
    drawn, List.append_assoc]

/-- Marks are shown one after the other. -/
theorem withoutEscapes_join (color : Color) (marks : List Mark) :
    withoutEscapes (String.join (marks.map (text color))) = marks.flatMap drawn := by
  induction marks with
  | nil => rfl
  | cons m marks ih =>
    rw [List.map_cons, String.join_cons, withoutEscapes, String.toList_append, shownFrom_text,
      List.flatMap_cons, ← ih, withoutEscapes]

/-- A stretch that would end before its start is empty, as it is when it ends there. -/
theorem extract_max (line : List Char) (first stop : Nat) :
    line.extract first (max first stop) = line.extract first stop := by
  rw [List.extract, List.extract]
  congr 1
  omega

/-- A stretch that takes columns is not empty. -/
theorem lt_of_columns_extract_pos {first stop : Nat}
    (h : 0 < columns width (line.extract first stop)) : first < stop := by
  by_contra hnot
  rw [List.extract, Nat.sub_eq_zero_of_le (Nat.le_of_not_lt hnot), List.take_zero,
    columns_nil] at h
  exact Nat.lt_irrefl 0 h

/-- The carets of sorted spans, each of which takes more than those before it, stand below
the characters in the spans. -/
theorem flatMap_drawn_placeFrom (hsorted : spans.Pairwise fun s t => s.start ≤ t.start)
    (htakes : TakesMore width line position spans) :
    (placeFrom width position (line.drop position) spans).flatMap drawn =
      underlining width (Span.anyHolds spans) position
        (line.extract position (reach position spans)) := by
  induction spans generalizing position with
  | nil => simp [placeFrom, reach, underlining]
  | cons s more ih =>
    rcases htakes with ⟨htaken, hmore⟩
    rcases List.pairwise_cons.mp hsorted with ⟨hfirst, hothers⟩
    have hlt : max position s.start < s.stop := lt_of_columns_extract_pos htaken
    have hmax : max (max position s.start) s.stop = s.stop := Nat.max_eq_right (Nat.le_of_lt hlt)
    have hreach := le_reach s.stop more
    -- The line falls into what stands before the span, in it and behind it.
    have hbefore : ∀ p, position ≤ p → p < max position s.start →
        Span.anyHolds (s :: more) p = false := by
      intro p hlow hhigh
      refine Span.anyHolds_of_lt_start ?_ (by omega : p < s.start)
      exact List.forall_mem_cons.mpr ⟨Nat.le_refl s.start, hfirst⟩
    have hinside : ∀ p, max position s.start ≤ p → p < s.stop →
        Span.anyHolds (s :: more) p = true := by
      intro p hlow hhigh
      rw [Span.anyHolds_eq_true_iff]
      exact ⟨s, List.mem_cons_self, by omega, hhigh⟩
    have hbehind : ∀ p, s.stop ≤ p → Span.anyHolds (s :: more) p = Span.anyHolds more p :=
      fun p hp => Span.anyHolds_cons_of_stop_le hp
    rw [placeFrom_drop_cons, reach, hmax, Nat.max_eq_right htaken, ← extract_max line position,
      List.flatMap_cons, ih hothers hmore,
      underlining_extract_append (Nat.le_max_left position s.start)
        (Nat.le_trans (Nat.le_of_lt hlt) hreach),
      underlining_extract_append (Nat.le_of_lt hlt) hreach,
      underlining_extract_eq_replicate hbefore, underlining_extract_eq_replicate hinside,
      underlining_congr hbehind, ← List.append_assoc]
    rfl

end Mark

/-! ## Caret lines -/

namespace Diagnostic

/-- What stands behind the margin below a line: the marks of the spans. -/
def caretLine (width : Char → Option Nat) (color : Color) (line : List Char)
    (spans : List Span) : String :=
  .join ((Mark.place width line spans).map (Mark.text color))

variable {spans before after : List Span} {s t : Span}

/-- The caret line as a terminal shows it. -/
theorem withoutEscapes_caretLine (width : Char → Option Nat) (color : Color) (line : List Char)
    (spans : List Span) :
    withoutEscapes (caretLine width color line spans) = (Mark.place width line spans).flatMap Mark.drawn :=
  Mark.withoutEscapes_join color (Mark.place width line spans)

/-- Nothing but blanks and carets stands in a caret line. -/
theorem eq_of_mem_caretLine {color : Color} {line : List Char} {c : Char}
    (h : c ∈ withoutEscapes (caretLine width color line spans)) : c = '^' ∨ c = ' ' := by
  rw [withoutEscapes_caretLine] at h
  rcases List.mem_flatMap.mp h with ⟨m, _, hm⟩
  rcases List.mem_append.mp hm with hindent | hcarets
  · exact .inr (List.mem_replicate.mp hindent).2
  · exact .inl (List.mem_replicate.mp hcarets).2

/-- Below a line that is marked with sorted spans, each of which takes in more of the line
than those before it, a caret stands in exactly those columns that are taken up by a character
in one of the spans.  All other columns up to the last caret are blank.  Columns are counted
from behind the margin.  The spans may overlap and may go on behind the line; that each takes
in more means that their ends increase. -/
theorem caret_below_iff_mem_span (width : Char → Option Nat) (color : Color) (line : SourceLine)
    (hsorted : spans.Pairwise fun s t => s.start ≤ t.start)
    (htakes : Mark.TakesMore width line.text 0 spans) :
    markedLine width color line spans =
        numberedMargin line.number ++ .ofList line.text ++ "\n" ++
          margin ++ caretLine width color line.text spans ++ "\n" ∧
      (∀ column : Nat, (withoutEscapes (caretLine width color line.text spans))[column]? = some '^' ↔
        ∃ p, Occupies width line.text p column ∧ ∃ s ∈ spans, s.start ≤ p ∧ p < s.stop) ∧
      ∀ column < (withoutEscapes (caretLine width color line.text spans)).length,
        (withoutEscapes (caretLine width color line.text spans))[column]? = some '^' ∨
          (withoutEscapes (caretLine width color line.text spans))[column]? = some ' ' := by
  have hdrawn : withoutEscapes (caretLine width color line.text spans) =
      underlining width (Span.anyHolds spans) 0 (line.text.extract 0 (Mark.reach 0 spans)) := by
    rw [withoutEscapes_caretLine]
    exact Mark.flatMap_drawn_placeFrom hsorted htakes
  refine ⟨rfl, ?_, ?_⟩
  · intro column
    rw [hdrawn, getElem?_underlining]
    constructor
    · rintro ⟨p, hoccupies, hholds⟩
      rw [Nat.zero_add, Span.anyHolds_eq_true_iff] at hholds
      rcases hholds with ⟨s, hs, hstart, hstop⟩
      have hreach : p < Mark.reach 0 spans := Nat.lt_of_lt_of_le hstop (Mark.stop_le_reach hs)
      exact ⟨p, (occupies_take hreach).mp hoccupies, s, hs, hstart, hstop⟩
    · rintro ⟨p, hoccupies, s, hs, hstart, hstop⟩
      have hreach : p < Mark.reach 0 spans := Nat.lt_of_lt_of_le hstop (Mark.stop_le_reach hs)
      refine ⟨p, (occupies_take hreach).mpr hoccupies, ?_⟩
      rw [Nat.zero_add, Span.anyHolds_eq_true_iff]
      exact ⟨s, hs, hstart, hstop⟩
  · intro column hcolumn
    rw [List.getElem?_eq_getElem hcolumn, Option.some_inj, Option.some_inj]
    exact eq_of_mem_caretLine (List.getElem_mem hcolumn)

/-- The second span starts within the first one, the third one goes on behind the line, and
the ideograph takes two columns. -/
theorem caret_below_iff_mem_span_overlapping :
    [⟨0, 2⟩, ⟨1, 3⟩, ⟨4, 9⟩].Pairwise (fun s t : Span => s.start ≤ t.start) ∧
      Mark.TakesMore characterWidth ['1', '界', '+', ' ', '2'] 0 [⟨0, 2⟩, ⟨1, 3⟩, ⟨4, 9⟩] ∧
      (withoutEscapes (caretLine characterWidth .red ['1', '界', '+', ' ', '2']
        [⟨0, 2⟩, ⟨1, 3⟩, ⟨4, 9⟩]))[5]? = some '^' := by
  have hsorted : [⟨0, 2⟩, ⟨1, 3⟩, ⟨4, 9⟩].Pairwise (fun s t : Span => s.start ≤ t.start) := by
    decide
  have htakes : Mark.TakesMore characterWidth ['1', '界', '+', ' ', '2'] 0 [⟨0, 2⟩, ⟨1, 3⟩, ⟨4, 9⟩] :=
    ⟨by decide +kernel, by decide +kernel, by decide +kernel, trivial⟩
  have hcaret := (caret_below_iff_mem_span characterWidth .red ⟨1, ⟨0, 6⟩, ['1', '界', '+', ' ', '2']⟩
    hsorted htakes).2.1 5
  refine ⟨hsorted, htakes, hcaret.mpr ⟨4, ?_, ⟨4, 9⟩, by decide, by decide, by decide⟩⟩
  exact ⟨by decide +kernel, by decide +kernel⟩

/-- A span that lies within one of the spans, put behind all spans that start no later, has
nothing left to underline.  It adds just one caret, directly behind the marks of the spans
before it, and moves all marks behind it by one column. -/
theorem contained_span_adds_caret (width : Char → Option Nat) (color : Color)
    (line : List Char) (ht : t ∈ before ++ after)
    (hstart : t.start ≤ s.start) (hstop : s.stop ≤ t.stop) (hs : s.start < s.stop)
    (hplace : ∀ u ∈ after, s.start < u.start) :
    ∃ behind, withoutEscapes (caretLine width color line (before ++ after)) =
        withoutEscapes (caretLine width color line before) ++ behind ∧
      withoutEscapes (caretLine width color line (before ++ s :: after)) =
        withoutEscapes (caretLine width color line before) ++ '^' :: behind := by
  have hbefore : t ∈ before := by
    rcases List.mem_append.mp ht with hmem | hmem
    · exact hmem
    · exact absurd (hplace t hmem) (Nat.not_lt.mpr hstart)
  have hreach : s.stop ≤ Mark.reach 0 before := Nat.le_trans hstop (Mark.stop_le_reach hbefore)
  refine ⟨(Mark.placeFrom width (Mark.reach 0 before) (line.drop (Mark.reach 0 before))
    after).flatMap Mark.drawn, ?_, ?_⟩
  · rw [withoutEscapes_caretLine, withoutEscapes_caretLine, Mark.place_append,
      List.flatMap_append]
  · rw [withoutEscapes_caretLine, withoutEscapes_caretLine, Mark.place_append,
      List.flatMap_append,
      Mark.placeFrom_cons_of_le (Nat.le_trans (Nat.le_of_lt hs) hreach) hreach,
      List.flatMap_cons]
    rfl

/-- A span may start together with the one that it lies in. -/
theorem contained_span_adds_caret_same_start :
    (⟨0, 3⟩ : Span) ∈ [⟨0, 3⟩] ++ [⟨4, 5⟩] ∧ (∀ u ∈ ([⟨4, 5⟩] : List Span), 0 < u.start) ∧
      ∃ behind, withoutEscapes (caretLine characterWidth .blue ['1', '+', '2'] ([⟨0, 3⟩] ++ [⟨4, 5⟩])) =
          withoutEscapes (caretLine characterWidth .blue ['1', '+', '2'] [⟨0, 3⟩]) ++ behind ∧
        withoutEscapes (caretLine characterWidth .blue ['1', '+', '2'] ([⟨0, 3⟩] ++ ⟨0, 1⟩ :: [⟨4, 5⟩])) =
          withoutEscapes (caretLine characterWidth .blue ['1', '+', '2'] [⟨0, 3⟩]) ++ '^' :: behind := by
  have hmem : (⟨0, 3⟩ : Span) ∈ [⟨0, 3⟩] ++ [⟨4, 5⟩] := by decide
  have hplace : ∀ u ∈ ([⟨4, 5⟩] : List Span), 0 < u.start := by decide
  refine ⟨hmem, hplace, ?_⟩
  exact contained_span_adds_caret characterWidth .blue ['1', '+', '2'] (s := ⟨0, 1⟩) hmem
    (Nat.le_refl 0) (by decide) (by decide) hplace

/-- The one caret of a span that lies within another one stands below none of the characters
in the spans, and with it the next caret misses its character. -/
theorem contained_span_moves_caret :
    [⟨0, 3⟩, ⟨1, 2⟩, ⟨4, 5⟩].Pairwise (fun s t : Span => s.start ≤ t.start) ∧
      (∀ s ∈ ([⟨0, 3⟩, ⟨1, 2⟩, ⟨4, 5⟩] : List Span), s.start < s.stop ∧
        0 < columns characterWidth (List.extract ['a', 'b', 'c', ' ', 'd'] s.start s.stop)) ∧
      withoutEscapes (caretLine characterWidth .red ['a', 'b', 'c', ' ', 'd'] [⟨0, 3⟩, ⟨4, 5⟩]) =
        ['^', '^', '^', ' ', '^'] ∧
      withoutEscapes (caretLine characterWidth .red ['a', 'b', 'c', ' ', 'd'] [⟨0, 3⟩, ⟨1, 2⟩, ⟨4, 5⟩]) =
        ['^', '^', '^', '^', ' ', '^'] := by
  decide +kernel

end Diagnostic

end InfixArithmetic
