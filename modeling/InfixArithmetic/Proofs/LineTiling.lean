import InfixArithmetic.Proofs.Lines
import Mathlib.Data.List.Chain
import Mathlib.Data.List.Range

/-!
# Lines tile their text

The lines of a text account for all of its positions and for the one behind it.  They lie
one behind the other, and the characters of each are those of the text at its positions.
The last position of a line holds the newline that ends it, or lies behind the text.

Main results:

- `Text.exists_split_row`: a text around one of its rows.
- `SourceLine.Tiles`: how lines and text belong together.
- `SourceLine.tiles_ofText`: the lines of every text tile it.
-/

namespace InfixArithmetic

namespace Text

variable {text : List Char} {i : Nat}

/-! ## Rows in their text -/

/-- A row stands in the text where it starts, and behind it comes a newline unless it is
the last one. -/
theorem exists_split_row (h : i < (rows text).length) :
    ∃ before behind, text = before ++ (row text i ++ behind) ∧
      before.length = rowStart text i ∧
      (i + 1 = (rows text).length ∧ behind = [] ∨
        i + 1 < (rows text).length ∧ ∃ more, behind = '\n' :: more) := by
  induction text using rowInduction generalizing i with
  | last front hfront =>
    have hone : (rows front).length = 1 := by rw [rows_of_not_mem hfront, List.length_singleton]
    have hzero : i = 0 := by omega
    subst hzero
    exact ⟨[], [], by simp [row_zero_of_not_mem hfront], rfl, .inl ⟨hone.symm, rfl⟩⟩
  | newline front rest hfront ih =>
    rw [rows_append_newline hfront, List.length_cons] at h ⊢
    cases i with
    | zero =>
      have hrest : 0 < (rows rest).length := by
        rw [length_rows]
        exact Nat.succ_pos _
      exact ⟨[], '\n' :: rest, by rw [row_append_newline_zero hfront, List.nil_append], rfl,
        .inr ⟨by omega, rest, rfl⟩⟩
    | succ i =>
      -- The split of the rest, with the first row and its newline put in front.
      rcases ih (by omega : i < (rows rest).length) with ⟨before, behind, htext, hlength, hend⟩
      refine ⟨front ++ '\n' :: before, behind, ?_, ?_, by simpa using hend⟩
      · rw [row_append_newline_succ hfront, List.append_assoc, List.cons_append, ← htext]
      · rw [rowStart_append_newline hfront, List.length_append, List.length_cons, hlength]
        omega

/-- There is no newline in a row. -/
theorem newline_not_mem_row (text : List Char) (i : Nat) : '\n' ∉ row text i := by
  induction text using rowInduction generalizing i with
  | last front hfront =>
    cases i with
    | zero => rwa [row_zero_of_not_mem hfront]
    | succ i => simp [row, rows_of_not_mem hfront]
  | newline front rest hfront ih =>
    cases i with
    | zero => rwa [row_append_newline_zero hfront]
    | succ i =>
      rw [row_append_newline_succ hfront]
      exact ih i

/-- A row is what the text holds at the positions of the row, but for the last of them. -/
theorem extract_rowSpan (h : i < (rows text).length) :
    text.extract (rowSpan text i).start ((rowSpan text i).stop - 1) = row text i := by
  rcases exists_split_row h with ⟨before, behind, htext, hlength, -⟩
  have hcount : (rowSpan text i).stop - 1 - (rowSpan text i).start = (row text i).length := by
    simp only [rowSpan]
    omega
  rw [List.extract, hcount]
  generalize row text i = characters at htext
  simp only [rowSpan]
  rw [← hlength, htext, List.drop_left, List.take_left]

/-- The last position of a row with a row behind it holds a newline. -/
theorem getElem?_rowSpan_stop (h : i + 1 < (rows text).length) :
    text[(rowSpan text i).stop - 1]? = some '\n' := by
  rcases exists_split_row (Nat.lt_of_succ_lt h) with ⟨before, behind, htext, hlength, hend⟩
  rcases hend with ⟨hlast, -⟩ | ⟨-, more, rfl⟩
  · omega
  · have hstop : (rowSpan text i).stop - 1 = (before ++ row text i).length := by
      rw [List.length_append, hlength]
      rfl
    rw [hstop]
    generalize row text i = characters at htext
    rw [htext, ← List.append_assoc, List.getElem?_append_right (Nat.le_refl _), Nat.sub_self,
      List.getElem?_cons_zero]

/-- The last row stops behind the position at the end of the text. -/
theorem rowSpan_stop_last (h : i + 1 = (rows text).length) :
    (rowSpan text i).stop = text.length + 1 := by
  rcases exists_split_row (by omega : i < (rows text).length) with
    ⟨before, behind, htext, hlength, hend⟩
  rcases hend with ⟨-, rfl⟩ | ⟨hmore, -⟩
  · have htotal := congrArg List.length htext
    rw [List.append_nil, List.length_append, hlength] at htotal
    rw [htotal, rowSpan]
  · omega

end Text

namespace SourceLine

open Text

/-! ## Lines in their text -/

/-- The lines tile the text: they are numbered from one, the first starts at its first
position, each other one where the line before it stops, and the last stops behind the
position at the end.  Every line shows the characters between its start and its last
position, none of which is a newline, and every line but the last has a newline at its last
position. -/
structure Tiles (text : List Char) (lines : List SourceLine) : Prop where
  ne_nil : lines ≠ []
  numbers : lines.map number = List.range' 1 lines.length
  start_head : ∀ line ∈ lines.head?, line.span.start = 0
  start_next : lines.IsChain fun line next => next.span.start = line.span.stop
  stop_last : ∀ line ∈ lines.getLast?, line.span.stop = text.length + 1
  start_lt_stop : ∀ line ∈ lines, line.span.start < line.span.stop
  shownAs : ∀ line ∈ lines,
    ShownAs (text.extract line.span.start (line.span.stop - 1)) line.text
  newline_not_mem : ∀ line ∈ lines, '\n' ∉ line.text
  newline_last : ∀ line ∈ lines.dropLast, text[line.span.stop - 1]? = some '\n'

variable {text : List Char} {line : SourceLine}

/-- Every line is that of a row. -/
theorem exists_row_of_mem (h : line ∈ ofText text) :
    ∃ i < (rows text).length, ofRow text i = line := by
  rw [ofText_eq, List.mem_map] at h
  rcases h with ⟨i, hi, hline⟩
  exact ⟨i, List.mem_range.mp hi, hline⟩

/-- The lines of a text are those of the rows that end in a newline, and one more. -/
theorem ofText_eq_append (text : List Char) :
    ofText text =
      (List.range (text.count '\n')).map (ofRow text) ++ [ofRow text (text.count '\n')] := by
  rw [ofText_eq, length_rows, List.range_succ, List.map_append, List.map_singleton]

/-- The lines of every text tile it. -/
theorem tiles_ofText (text : List Char) : Tiles text (ofText text) where
  ne_nil := by simp [ofText_eq_append]
  numbers := by
    rw [ofText_eq, List.map_map, List.length_map, List.length_range, List.range'_eq_map_range]
    exact List.map_congr_left fun i _ => Nat.add_comm i 1
  start_head := by
    intro line hline
    rw [ofText_eq, length_rows, List.range_succ_eq_map, List.map_cons, List.head?_cons] at hline
    cases hline
    exact rowStart_zero text
  start_next := by
    rw [ofText_eq, List.isChain_map, List.isChain_range]
    intro i hi
    exact rowStart_succ (by omega)
  stop_last := by
    intro line hline
    rw [ofText_eq_append, List.getLast?_concat] at hline
    cases hline
    exact rowSpan_stop_last (length_rows text).symm
  start_lt_stop := by
    intro line hline
    rcases exists_row_of_mem hline with ⟨i, -, rfl⟩
    simp only [ofRow, rowSpan]
    omega
  shownAs := by
    intro line hline
    rcases exists_row_of_mem hline with ⟨i, hi, rfl⟩
    have hraw : text.extract (ofRow text i).span.start ((ofRow text i).span.stop - 1) =
      row text i := extract_rowSpan hi
    rw [hraw]
    exact shownAs_shown (row text i)
  newline_not_mem := by
    intro line hline hmem
    rcases exists_row_of_mem hline with ⟨i, -, rfl⟩
    exact newline_not_mem_row text i ((shown_prefix_self (row text i)).subset hmem)
  newline_last := by
    intro line hline
    rw [ofText_eq_append, List.dropLast_concat, List.mem_map] at hline
    rcases hline with ⟨i, hi, rfl⟩
    have hmore : i + 1 < (rows text).length := by
      rw [length_rows]
      exact Nat.succ_lt_succ (List.mem_range.mp hi)
    exact getElem?_rowSpan_stop hmore

/-- A carriage return counts but is not shown, and a newline at the end leaves one more line. -/
example : ofText ['1', '\r', '\n', '+', '\n'] =
    [⟨1, ⟨0, 3⟩, ['1']⟩, ⟨2, ⟨3, 5⟩, ['+']⟩, ⟨3, ⟨5, 6⟩, []⟩] := by
  decide

end SourceLine

end InfixArithmetic
