import InfixArithmetic.Diagnostic.SourceLine
import Mathlib.Algebra.Ring.Nat
import Mathlib.Data.List.Basic

/-!
# Positions and lines

The newlines of a text cut it into rows.  A row takes the positions of its characters and
one more, which is that of the newline behind it or the end of the text.  So every position
lies in exactly one row, and the index of this row is the number of newlines before the
position.  The source lines that are shown of a text are its rows in order.

Main results:

- `Text.rowInduction`: induction along the rows of a text.
- `Text.rowStart_le_iff`: a row starts before a position exactly if enough newlines do.
- `Text.filter_meets_rowSpan`: the rows that a nonempty span meets follow one another.
- `SourceLine.ofText_eq`: the source lines of a text are its numbered rows.
-/

namespace InfixArithmetic

namespace Text

/-! ## Rows -/

/-- The rows of a text, which its newlines separate. -/
def rows (text : List Char) : List (List Char) :=
  text.splitOn '\n'

/-- The characters of the row with an index.  Rows are indexed from zero. -/
def row (text : List Char) (i : Nat) : List Char :=
  (rows text).getD i []

/-- Where a row starts: each row before it takes its characters and one newline. -/
def rowStart (text : List Char) (i : Nat) : Nat :=
  (((rows text).take i).map fun before => before.length + 1).sum

/-- The positions of a row: those of its characters and the one behind them. -/
def rowSpan (text : List Char) (i : Nat) : Span where
  start := rowStart text i
  stop := rowStart text i + (row text i).length + 1

/-- The index of the row in which a position lies: the number of newlines before it. -/
def rowAt (text : List Char) (position : Nat) : Nat :=
  (text.take position).count '\n'

variable {text front rest : List Char} {position i : Nat}

/-- A text is one row, or a row and a newline with a text behind it. -/
@[elab_as_elim]
theorem rowInduction {motive : List Char → Prop}
    (last : ∀ front, '\n' ∉ front → motive front)
    (newline : ∀ front rest, '\n' ∉ front → motive rest → motive (front ++ '\n' :: rest))
    (text : List Char) : motive text := by
  by_cases hmem : '\n' ∈ text
  · rcases List.eq_append_cons_of_mem hmem with ⟨front, rest, htext, hfront⟩
    have shorter : rest.length < text.length := by
      rw [htext, List.length_append, List.length_cons]
      omega
    rw [htext]
    exact newline front rest hfront (rowInduction last newline rest)
  · exact last text hmem
termination_by text.length

theorem rows_of_not_mem (h : '\n' ∉ front) : rows front = [front] :=
  List.splitOn_eq_singleton h

theorem rows_append_newline (h : '\n' ∉ front) (rest : List Char) :
    rows (front ++ '\n' :: rest) = front :: rows rest :=
  List.splitOn_append_cons_self_of_not_mem h rest

/-- A text without a newline is its first row. -/
theorem row_zero_of_not_mem (h : '\n' ∉ front) : row front 0 = front := by
  rw [row, rows_of_not_mem h, List.getD_cons_zero]

/-- The first row ends at the first newline. -/
theorem row_append_newline_zero (h : '\n' ∉ front) (rest : List Char) :
    row (front ++ '\n' :: rest) 0 = front := by
  rw [row, rows_append_newline h, List.getD_cons_zero]

/-- Behind the first newline come the rows of the rest of the text. -/
theorem row_append_newline_succ (h : '\n' ∉ front) (rest : List Char) (i : Nat) :
    row (front ++ '\n' :: rest) (i + 1) = row rest i := by
  rw [row, rows_append_newline h, List.getD_cons_succ, row]

@[simp]
theorem rowStart_zero (text : List Char) : rowStart text 0 = 0 :=
  rfl

/-- Behind the first newline, rows start as they do in the rest of the text. -/
theorem rowStart_append_newline (h : '\n' ∉ front) (rest : List Char) (i : Nat) :
    rowStart (front ++ '\n' :: rest) (i + 1) = front.length + 1 + rowStart rest i := by
  rw [rowStart, rows_append_newline h, List.take_succ_cons, List.map_cons, List.sum_cons,
    rowStart]

/-- A row stops where the next one starts. -/
theorem rowStart_succ (h : i < (rows text).length) :
    rowStart text (i + 1) = (rowSpan text i).stop := by
  have hrow : row text i = (rows text)[i] := by simp [row, h]
  rw [rowStart, List.take_succ_eq_append_getElem h, List.map_append, List.sum_append,
    List.map_singleton, List.sum_singleton, ← hrow, rowSpan, rowStart, Nat.add_assoc]

/-! ## Rows and positions -/

/-- Before the first newline all positions lie in the first row. -/
theorem rowAt_append_of_le (h : '\n' ∉ front) (hposition : position ≤ front.length)
    (rest : List Char) : rowAt (front ++ rest) position = 0 := by
  rw [rowAt, List.take_append_of_le_length hposition, List.count_eq_zero]
  intro hmem
  exact h (List.mem_of_mem_take hmem)

/-- Behind the first newline, positions lie in rows as they do in the rest of the text. -/
theorem rowAt_append_newline (h : '\n' ∉ front) (rest : List Char) (distance : Nat) :
    rowAt (front ++ '\n' :: rest) (front.length + (distance + 1)) = rowAt rest distance + 1 := by
  rw [rowAt, List.take_length_add_append, List.count_append, List.count_eq_zero.mpr h,
    List.take_succ_cons, List.count_cons_self, Nat.zero_add, rowAt]

/-- A row starts at a position or before it exactly if as many newlines as there are rows
before the row stand before the position. -/
theorem rowStart_le_iff (h : position ≤ text.length) :
    rowStart text i ≤ position ↔ i ≤ rowAt text position := by
  induction text using rowInduction generalizing position i with
  | last front hfront =>
    cases i with
    | zero => simp
    | succ i =>
      have hat : rowAt front position = 0 := by simpa using rowAt_append_of_le hfront h []
      have hstart : rowStart front (i + 1) = front.length + 1 := by
        simp [rowStart, rows_of_not_mem hfront]
      omega
  | newline front rest hfront ih =>
    cases i with
    | zero => simp
    | succ i =>
      rw [rowStart_append_newline hfront]
      rcases Nat.lt_or_ge front.length position with hbehind | hbefore
      · rcases Nat.exists_eq_add_of_lt hbehind with ⟨distance, rfl⟩
        have hdistance : distance ≤ rest.length := by
          rw [List.length_append, List.length_cons] at h
          omega
        rw [Nat.add_assoc front.length distance 1, rowAt_append_newline hfront,
          Nat.add_le_add_iff_right, ← ih hdistance]
        omega
      · rw [rowAt_append_of_le hfront hbefore]
        omega

/-- There is one row more than there are newlines. -/
theorem length_rows (text : List Char) : (rows text).length = text.count '\n' + 1 := by
  induction text using rowInduction with
  | last front hfront => simp [rows_of_not_mem hfront, List.count_eq_zero.mpr hfront]
  | newline front rest hfront ih =>
    rw [rows_append_newline hfront, List.length_cons, ih, List.count_append,
      List.count_eq_zero.mpr hfront, List.count_cons_self, Nat.zero_add]

/-- Every position lies in one of the rows. -/
theorem rowAt_lt_length_rows (text : List Char) (position : Nat) :
    rowAt text position < (rows text).length := by
  rw [length_rows, rowAt]
  exact Nat.lt_succ_of_le ((List.take_sublist position text).count_le '\n')

/-- Later positions lie in the same row or in later ones. -/
theorem rowAt_mono {first last : Nat} (h : first ≤ last) : rowAt text first ≤ rowAt text last :=
  (List.take_sublist_take_left h).count_le '\n'

/-- Positions with no newline between them lie in the same row. -/
theorem rowAt_append_add {run : List Char} {distance : Nat} (h : '\n' ∉ run)
    (hdistance : distance ≤ run.length) (front rest : List Char) :
    rowAt (front ++ (run ++ rest)) (front.length + distance) =
      rowAt (front ++ (run ++ rest)) front.length := by
  have hnone : '\n' ∉ run.take distance := fun hmem => h (List.mem_of_mem_take hmem)
  rw [rowAt, rowAt, List.take_length_add_append, List.take_left, List.count_append,
    List.take_append_of_le_length hdistance, List.count_eq_zero.mpr hnone, Nat.add_zero]

/-! ## Rows and spans -/

/-- A nonempty span in a text meets the rows from that of its first position to that of
its last. -/
theorem meets_rowSpan_iff {s : Span} (hs : s.start < s.stop) (hstop : s.stop ≤ text.length + 1)
    (hi : i < (rows text).length) :
    s.meets (rowSpan text i) = true ↔ rowAt text s.start ≤ i ∧ i ≤ rowAt text (s.stop - 1) := by
  have hfirst : rowStart text (i + 1) ≤ s.start ↔ i + 1 ≤ rowAt text s.start :=
    rowStart_le_iff (by omega)
  have hlast : rowStart text i ≤ s.stop - 1 ↔ i ≤ rowAt text (s.stop - 1) :=
    rowStart_le_iff (by omega)
  rw [rowStart_succ hi] at hfirst
  rw [Span.meets_iff, ← hlast]
  simp only [rowSpan] at hfirst ⊢
  omega

/-- The numbers of a range that lie between two of them follow one another. -/
theorem filter_range_between {first last count : Nat} {holds : Nat → Bool}
    (hfirst : first ≤ last) (hlast : last < count)
    (hholds : ∀ i < count, holds i = true ↔ first ≤ i ∧ i ≤ last) :
    (List.range count).filter holds = List.range' first (last + 1 - first) := by
  rcases Nat.exists_eq_add_of_le hfirst with ⟨width, rfl⟩
  rcases Nat.exists_eq_add_of_lt hlast with ⟨after, rfl⟩
  have hwidth : first + width + 1 - first = width + 1 := by omega
  have hcut : List.range (first + width + after + 1) = List.range' 0 first ++
      (List.range' first (width + 1) ++ List.range' (first + (width + 1)) after) := by
    have hjoin := @List.range'_append_1 0 first (width + 1 + after)
    rw [Nat.zero_add] at hjoin
    rw [List.range'_append_1, hjoin, List.range_eq_range']
    congr 1
    omega
  have houtside (low length : Nat) (hcount : low + length ≤ first + width + after + 1)
      (hnot : ∀ i, low ≤ i → i < low + length → ¬ (first ≤ i ∧ i ≤ first + width)) :
      (List.range' low length).filter holds = [] := by
    rw [List.filter_eq_nil_iff]
    intro i hi
    rw [List.mem_range'_1] at hi
    rw [hholds i (by omega)]
    exact hnot i hi.1 hi.2
  have hbetween : (List.range' first (width + 1)).filter holds = List.range' first (width + 1) := by
    rw [List.filter_eq_self]
    intro i hi
    rw [List.mem_range'_1] at hi
    rw [hholds i (by omega)]
    omega
  rw [hcut, List.filter_append, List.filter_append, hbetween,
    houtside 0 first (by omega) fun i _ _ => by omega,
    houtside (first + (width + 1)) after (by omega) fun i _ _ => by omega, List.nil_append,
    List.append_nil, hwidth]

/-- The rows that a nonempty span in a text meets are those from the row of its first
position to the row of its last, one after the other. -/
theorem filter_meets_rowSpan {s : Span} (hs : s.start < s.stop)
    (hstop : s.stop ≤ text.length + 1) :
    (List.range (rows text).length).filter (fun i => s.meets (rowSpan text i)) =
      List.range' (rowAt text s.start)
        (rowAt text (s.stop - 1) + 1 - rowAt text s.start) :=
  filter_range_between (rowAt_mono (by omega)) (rowAt_lt_length_rows text (s.stop - 1))
    fun _ hi => meets_rowSpan_iff hs hstop hi

end Text

namespace SourceLine

open Text

/-! ## What is shown of a line -/

/-- Characters are shown as they are, less one carriage return if they end in one. -/
def ShownAs (raw text : List Char) : Prop :=
  raw = text ++ ['\r'] ∨ raw = text ∧ raw.getLast? ≠ some '\r'

/-- Only a carriage return at the end is left out. -/
theorem shownAs_shown (raw : List Char) : ShownAs raw (shown raw) := by
  unfold shown
  split
  next h => exact .inl (List.dropLast_append_getLast? '\r' h).symm
  next h => exact .inr ⟨rfl, h⟩

/-- What is shown of a line is the front of it. -/
theorem shown_prefix_self (raw : List Char) : shown raw <+: raw := by
  rcases shownAs_shown raw with hreturn | ⟨hall, -⟩
  · exact ⟨['\r'], hreturn.symm⟩
  · exact ⟨[], (List.append_nil _).trans hall.symm⟩

/-! ## Lines as rows -/

/-- The source line that a row of a text is shown as.  Lines are numbered from one. -/
def ofRow (text : List Char) (i : Nat) : SourceLine where
  number := i + 1
  span := rowSpan text i
  text := shown (row text i)

/-- Lines are placed one behind the other. -/
theorem place_eq (number start : Nat) (raws : List (List Char)) :
    place number start raws = (List.range raws.length).map fun i =>
      let before := (raws.take i).map fun raw => raw.length + 1
      ⟨number + i, ⟨start + before.sum, start + before.sum + (raws.getD i []).length + 1⟩,
        shown (raws.getD i [])⟩ := by
  induction raws generalizing number start with
  | nil => rfl
  | cons raw raws ih =>
    rw [place, ih, List.length_cons, List.range_succ_eq_map, List.map_cons, List.map_map]
    simp [Function.comp_def, Nat.add_assoc, Nat.add_comm 1]

/-- The source lines of a text are its rows in order. -/
theorem ofText_eq (text : List Char) :
    ofText text = (List.range (rows text).length).map (ofRow text) := by
  rw [ofText, place_eq]
  simp [rows, ofRow, rowSpan, rowStart, row, Nat.add_comm]

end SourceLine

end InfixArithmetic
