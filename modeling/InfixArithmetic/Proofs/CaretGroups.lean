import InfixArithmetic.Proofs.CaretLines

/-!
# Caret groups

However the spans on a line lie, each of them gets one group of carets, in the given order.
Behind the furthest position of the spans before it, a span passes over the characters up to
its start and underlines those up to its end.  What all spans pass over and underline makes up
the line up to the furthest position of all, so no character is counted twice.  Only a span
that underlines nothing of any width adds a column to those of the characters, for the caret
that it gets all the same.  Columns are counted by any table of widths.

Main results:

- `Mark.shares`: what each span gets of a line.
- `Mark.place_eq_map_mark`: the marks of spans are those of their shares.
- `Mark.flatMap_characters_shares`: the shares make up the line, as far as it is read.
- `Diagnostic.caret_groups_share_line`: the groups of a caret line and their columns.
-/

namespace InfixArithmetic

open Text

/-- The largest start or stop of the spans, or zero if there are none. -/
def Span.furthest (spans : List Span) : Nat :=
  (spans.flatMap fun s => [s.start, s.stop]).foldl max 0

variable {width : Char → Option Nat}

namespace Mark

/-! ## Shares of a line -/

/-- What a span gets of a line: characters that are passed over in front of its carets, and
characters that are underlined by them. -/
structure Share where
  passed : List Char
  underlined : List Char

/-- The characters of a share in their order. -/
def Share.characters (share : Share) : List Char :=
  share.passed ++ share.underlined

/-- The mark that stands below a share. -/
def Share.mark (width : Char → Option Nat) (share : Share) : Mark where
  indent := columns width share.passed
  carets := max 1 (columns width share.underlined)

/-- The share of a span, given the position up to which the line has been read. -/
def shareFrom (line : List Char) (position : Nat) (s : Span) : Share where
  passed := line.extract position s.start
  underlined := line.extract (max position s.start) s.stop

/-- The shares of spans in their order.  For each of them the line has been read up to the
furthest position of the spans before it. -/
def shares (line : List Char) (spans : List Span) : List Share :=
  spans.mapIdx fun i s => shareFrom line (Span.furthest (spans.take i)) s

/-- The shares of spans, given the position up to which the line has been read before the
first of them. -/
def sharesFrom (line : List Char) (position : Nat) (spans : List Span) : List Share :=
  spans.mapIdx fun i s => shareFrom line (reach position (spans.take i)) s

/-- A line is read up to the largest of all positions. -/
theorem reach_eq_foldl (position : Nat) (spans : List Span) :
    reach position spans = (spans.flatMap fun s => [s.start, s.stop]).foldl max position := by
  induction spans generalizing position with
  | nil => rfl
  | cons s more ih => simp [reach, ih]

/-- A line is read from its start up to the furthest position of the spans. -/
theorem reach_zero (spans : List Span) : reach 0 spans = Span.furthest spans :=
  reach_eq_foldl 0 spans

theorem sharesFrom_zero (line : List Char) (spans : List Span) :
    sharesFrom line 0 spans = shares line spans := by
  simp only [sharesFrom, shares, reach_zero]

/-- Behind its share, the first span leaves the line to the others. -/
theorem sharesFrom_cons (line : List Char) (position : Nat) (s : Span) (more : List Span) :
    sharesFrom line position (s :: more) =
      shareFrom line position s :: sharesFrom line (max (max position s.start) s.stop) more := by
  rw [sharesFrom, List.mapIdx_cons]
  rfl

/-- The marks of spans are those of their shares. -/
theorem placeFrom_drop_eq (width : Char → Option Nat) (line : List Char) (position : Nat) (spans : List Span) :
    placeFrom width position (line.drop position) spans =
      (sharesFrom line position spans).map (Share.mark width) := by
  induction spans generalizing position with
  | nil => rfl
  | cons s more ih =>
    rw [placeFrom_drop_cons, ih, sharesFrom_cons, List.map_cons]
    rfl

/-- The marks below a line are those of the shares in it. -/
theorem place_eq_map_mark (line : List Char) (spans : List Span) :
    place width line spans = (shares line spans).map (Share.mark width) := by
  rw [← sharesFrom_zero]
  exact placeFrom_drop_eq width line 0 spans

/-! ## Shares side by side -/

/-- Two stretches of a line that touch are one stretch. -/
theorem extract_append_extract {first middle stop : Nat} (hfirst : first ≤ middle)
    (hstop : middle ≤ stop) (line : List Char) :
    line.extract first middle ++ line.extract middle stop = line.extract first stop := by
  rcases Nat.exists_eq_add_of_le hfirst with ⟨count, rfl⟩
  rcases Nat.exists_eq_add_of_le hstop with ⟨more, rfl⟩
  have hall : first + count + more - first = count + more := by omega
  rw [List.extract, List.extract, List.extract, hall, Nat.add_sub_cancel_left,
    Nat.add_sub_cancel_left, List.take_add, List.drop_drop]

/-- A share is all that is read of the line for its span. -/
theorem characters_shareFrom (line : List Char) (position : Nat) (s : Span) :
    (shareFrom line position s).characters =
      line.extract position (max (max position s.start) s.stop) := by
  rw [Share.characters, shareFrom, ← extract_max line position s.start,
    ← extract_max line (max position s.start) s.stop]
  exact extract_append_extract (Nat.le_max_left _ _) (Nat.le_max_left _ _) line

/-- The shares lie side by side, from the position on as far as the line is read. -/
theorem flatMap_characters_sharesFrom (line : List Char) (position : Nat) (spans : List Span) :
    (sharesFrom line position spans).flatMap Share.characters =
      line.extract position (reach position spans) := by
  induction spans generalizing position with
  | nil => simp [sharesFrom, reach]
  | cons s more ih =>
    -- The share of the first span ends where the others start to read.
    have hmine : position ≤ max (max position s.start) s.stop := by omega
    rw [sharesFrom_cons, List.flatMap_cons, ih, characters_shareFrom, reach]
    exact extract_append_extract hmine (le_reach _ more) line

/-- The shares make up the line up to the furthest position of the spans. -/
theorem flatMap_characters_shares (line : List Char) (spans : List Span) :
    (shares line spans).flatMap Share.characters = line.take (Span.furthest spans) := by
  rw [← sharesFrom_zero, flatMap_characters_sharesFrom, reach_zero, List.extract, List.drop_zero,
    Nat.sub_zero]

end Mark

/-! ## Groups of carets -/

namespace Diagnostic

/-- A group of carets in color, behind blanks: blank columns for the characters of a share
that are passed over, and carets for those that are underlined, at least one. -/
def group (width : Char → Option Nat) (color : Color) (share : Mark.Share) : String :=
  .ofList (List.replicate (columns width share.passed) ' ') ++
    highlighted color (.ofList (List.replicate (max 1 (columns width share.underlined)) '^'))

/-- A caret line is made of the groups of the shares, one behind the other. -/
theorem caretLine_eq_join (width : Char → Option Nat) (color : Color) (line : List Char)
    (spans : List Span) :
    caretLine width color line spans = .join ((Mark.shares line spans).map (group width color)) := by
  have hgroup : Mark.text color ∘ Mark.Share.mark width = group width color := by
    funext share
    rw [Function.comp_apply, Mark.text, paint_eq_highlighted]
    rfl
  rw [caretLine, Mark.place_eq_map_mark, List.map_map, hgroup]

/-- A group has as many blanks and carets as its share takes columns, and one caret more if
nothing is underlined. -/
theorem count_group (width : Char → Option Nat) (color : Color) (share : Mark.Share) :
    (group width color share).toList.count ' ' + (group width color share).toList.count '^' =
      columns width share.characters + if columns width share.underlined = 0 then 1 else 0 := by
  have hblanks : (group width color share).toList.count ' ' = columns width share.passed := by
    cases color <;> simp [group, highlighted, List.count_replicate]
  have hcarets : (group width color share).toList.count '^' =
      max 1 (columns width share.underlined) := by
    cases color <;> simp [group, highlighted, List.count_replicate]
  rw [hblanks, hcarets, Mark.Share.characters, columns_append]
  split <;> omega

/-- Groups have as many blanks and carets as all their shares take columns, and one caret more
for each share with nothing underlined. -/
theorem count_join_group (width : Char → Option Nat) (color : Color)
    (shares : List Mark.Share) :
    (String.join (shares.map (group width color))).toList.count ' ' +
        (String.join (shares.map (group width color))).toList.count '^' =
      columns width (shares.flatMap Mark.Share.characters) +
        shares.countP fun share => columns width share.underlined = 0 := by
  induction shares with
  | nil => rfl
  | cons share others ih =>
    have hgroup := count_group width color share
    rw [List.map_cons, String.join_cons, String.toList_append, List.count_append,
      List.count_append, List.flatMap_cons, columns_append, List.countP_cons]
    simp only [decide_eq_true_eq]
    omega

/-- Below a line that is marked with any spans, in any order, there is one group of carets for
each span.  The shares of the line that the groups stand for follow one another without a gap
and end at the furthest position of the spans, or with the line.  So the blanks and carets are
as many as these characters take columns, and one more for each span whose share has nothing
to underline. -/
theorem caret_groups_share_line (width : Char → Option Nat) (color : Color) (line : SourceLine)
    (spans : List Span) :
    markedLine width color line spans =
        numberedMargin line.number ++ .ofList line.text ++ "\n" ++
          margin ++ caretLine width color line.text spans ++ "\n" ∧
      caretLine width color line.text spans =
        .join ((Mark.shares line.text spans).map (group width color)) ∧
      (Mark.shares line.text spans).flatMap Mark.Share.characters =
        line.text.take (Span.furthest spans) ∧
      (caretLine width color line.text spans).toList.count ' ' +
          (caretLine width color line.text spans).toList.count '^' =
        columns width (line.text.take (Span.furthest spans)) +
          (Mark.shares line.text spans).countP fun share => columns width share.underlined = 0 := by
  have hjoin := caretLine_eq_join width color line.text spans
  have hline := Mark.flatMap_characters_shares line.text spans
  refine ⟨rfl, hjoin, hline, ?_⟩
  rw [hjoin, count_join_group, hline]

/-- A reversed span passes over the line up to its start.  What lies before that is lost to
the spans behind it. -/
example : Mark.place characterWidth ['1', '+', '2'] [⟨2, 0⟩, ⟨0, 1⟩, ⟨1, 3⟩] =
    [⟨2, 1⟩, ⟨0, 1⟩, ⟨0, 1⟩] := by
  decide +kernel

end Diagnostic

end InfixArithmetic
