import InfixArithmetic.Proofs.Calculation
import InfixArithmetic.Proofs.Concatenation

/-!
# Slices of a text

Every part of an expression carries the span of the text it was read from.  The
characters in that span, taken as a text of their own, stand for the same part: they fall
into the same tokens, and these are grouped as they were inside the larger expression.

Main results:

- `Token.Layout.slice`: a stretch of tokens lies in the slice from its first token to its
  last.
- `Token.Layout.exists_of_shift`: tokens that lie in a text at a later position.
- `Expr.ofText_slice`: every part of an expression is read from its own slice.
-/

namespace InfixArithmetic

/-- The characters of a text that stand in a span. -/
def Span.slice (s : Span) (text : String) : String :=
  .ofList ((text.toList.take s.stop).drop s.start)

@[simp]
theorem Span.toList_slice (s : Span) (text : String) :
    (s.slice text).toList = (text.toList.take s.stop).drop s.start :=
  String.toList_ofList

/-- The middle of a text is the slice from where the front ends to where the rest begins. -/
theorem Span.toList_slice_middle {text : String} {front middle rest : List Char}
    (h : text.toList = front ++ (middle ++ rest)) :
    (Span.slice ⟨front.length, front.length + middle.length⟩ text).toList = middle := by
  rw [toList_slice, h, ← List.append_assoc, ← List.length_append, List.take_left,
    List.drop_left]

namespace Token

variable {text : List Char} {position distance : Nat} {tokens before after inner : List Token}

/-- A stretch of the tokens of a text lies in the slice from its first token to its last. -/
theorem Layout.slice {first last : Token} {others front : List Token}
    (h : Layout 0 text (before ++ inner ++ after)) (hfirst : inner = first :: others)
    (hlast : inner = front ++ [last]) :
    Layout first.span.start ((text.take last.span.stop).drop first.span.start) inner := by
  have hstop : before ++ inner ++ after = (before ++ front) ++ last :: after := by
    simp [hlast]
  rw [hstop] at h
  rcases h.exists_prefix with ⟨head, tail, rfl, hhead, hprefix⟩
  have hstart : before ++ front ++ [last] = before ++ first :: others := by
    rw [List.append_assoc, ← hlast, hfirst]
  rw [hstart] at hprefix
  rcases hprefix.exists_suffix with ⟨skipped, slice, rfl, hskipped, hslice⟩
  rw [← hhead, ← hskipped, Nat.zero_add, Nat.zero_add, List.take_left, List.drop_left, hfirst]
  rwa [← hskipped, Nat.zero_add] at hslice

/-- Tokens that lie in a text at a later position lie in it at every position, where they
are moved. -/
theorem Layout.exists_of_shift (h : Layout (position + distance) text tokens) :
    ∃ others, Layout position text others ∧ tokens = others.map (mapSpan (.shift distance)) := by
  have hread : mapOutcome (.shift distance) (readFrom position text) = .ok tokens := by
    rw [← readFrom_shift]
    exact readFrom_of_layout h
  cases hothers : readFrom position text with
  | error fault =>
    rw [hothers] at hread
    cases hread
  | ok others =>
    rw [hothers] at hread
    cases hread
    exact ⟨others, layout_of_readFrom hothers, rfl⟩

end Token

/-! ## Parts of expressions -/

/-- A derived expression is read from the slice from its first token to its last, with
the spans that it has there. -/
theorem Grammar.Derives.ofText_eq_of_slice {text : String} {before inner after : List Token}
    {node : Expr} (hlayout : Token.Layout 0 text.toList (before ++ inner ++ after))
    (hderives : Grammar.Derives .sum inner node) :
    Expr.ofText (node.span.slice text) = .ok (node.mapSpans (.back node.span.start)) ∧
      (node.mapSpans (.back node.span.start)).mapSpans (.shift node.span.start) = node := by
  rcases hderives.exists_first with ⟨first, others, hfirst, hstart⟩
  rcases hderives.exists_last with ⟨front, last, hlast, hstop⟩
  have hspan : node.span = ⟨first.span.start, last.span.stop⟩ := by
    rw [hderives.span_eq, hstart, hstop]
  have hslice := hlayout.slice hfirst hlast
  rw [← Nat.zero_add first.span.start] at hslice
  rcases Token.Layout.exists_of_shift hslice with ⟨moved, hmoved, hinner⟩
  rw [Nat.zero_add] at hmoved
  -- The slice is read from position zero, which undoes the shift of the tokens inside the text.
  have hback : inner.map (Token.mapSpan (.back first.span.start)) = moved := by
    rw [hinner, List.map_map, Token.mapSpan_comp_mapSpan, Span.back_comp_shift,
      Token.mapSpan_id, List.map_id]
  have hnode : Grammar.Derives .sum moved (node.mapSpans (.back first.span.start)) := by
    rw [← hback]
    exact hderives.mapSpans fun _ _ => rfl
  have hagain : Grammar.Derives .sum inner
      ((node.mapSpans (.back first.span.start)).mapSpans (.shift first.span.start)) := by
    rw [hinner]
    exact hnode.mapSpans fun _ _ => rfl
  rw [hspan]
  refine ⟨Expr.ofText_eq_ok_iff.mpr ⟨moved, ?_, hnode⟩, hagain.unique hderives⟩
  rw [Span.toList_slice]
  exact hmoved

/-- The slice of a text that a part of its expression spans stands for that part.  Its
spans are those of the part moved back to the start of the slice, and no span of the part
starts before the slice. -/
theorem Expr.ofText_slice {text : String} {e node : Expr} (h : Expr.ofText text = .ok e)
    (hnode : node ∈ e.nodes) :
    Expr.ofText (node.span.slice text) = .ok (node.mapSpans (.back node.span.start)) ∧
      (node.mapSpans (.back node.span.start)).mapSpans (.shift node.span.start) = node := by
  rcases Expr.ofText_eq_ok_iff.mp h with ⟨tokens, hlayout, hderives⟩
  rcases hderives.exists_infix_of_mem_nodes hnode with ⟨inner, ⟨before, after, rfl⟩, hinner⟩
  exact hinner.ofText_eq_of_slice hlayout

/-- The product inside of a sum is read from the end of the text. -/
theorem Expr.ofText_slice_product :
    Expr.ofText "1 + 2* 3" = .ok (.binary .add ⟨0, 8⟩ (.literal (.whole 1) ⟨0, 1⟩)
        (.binary .mul ⟨4, 8⟩ (.literal (.whole 2) ⟨4, 5⟩) (.literal (.whole 3) ⟨7, 8⟩))) ∧
      Expr.ofText (Span.slice ⟨4, 8⟩ "1 + 2* 3") =
        .ok (.binary .mul ⟨0, 4⟩ (.literal (.whole 2) ⟨0, 1⟩) (.literal (.whole 3) ⟨3, 4⟩)) := by
  have hsum : Expr.ofText "1 + 2* 3" = .ok (.binary .add ⟨0, 8⟩ (.literal (.whole 1) ⟨0, 1⟩)
      (.binary .mul ⟨4, 8⟩ (.literal (.whole 2) ⟨4, 5⟩) (.literal (.whole 3) ⟨7, 8⟩))) := by cbv
  have hproduct := @Expr.ofText_slice _ _
    (.binary .mul ⟨4, 8⟩ (.literal (.whole 2) ⟨4, 5⟩) (.literal (.whole 3) ⟨7, 8⟩)) hsum
    (by simp [Expr.nodes])
  exact ⟨hsum, hproduct.1⟩

end InfixArithmetic
