import InfixArithmetic.Proofs.Reprinting

/-!
# Unique reading of what is printed

With parentheses around every operation, what is printed can be read in one way only.  A
printed expression determines not just its literals and operators but also how they are
grouped, whether or not the grammar would group them so, and it even determines where it
ends in a longer text.

Main results:

- `Numeral.append_inj` and `Operator.append_inj`: a text starts with at most one numeral and
  at most one operator that ends there.
- `Expr.text_append_inj`: a text starts with at most one printed expression, up to the
  places of its parts.
- `Expr.print_eq_iff`: expressions with exact literals are printed alike only if they differ
  in their spans only.
-/

namespace InfixArithmetic

variable {rest rest' : List Char}

/-! ## Numerals, operators and literals -/

theorem Token.endsWord_blank (rest : List Char) : Token.EndsWord (' ' :: rest) := by
  rintro c ⟨⟩
  exact isWordCharacter_of_isBlank (by decide)

theorem Token.endsWord_close (rest : List Char) : Token.EndsWord (')' :: rest) := by
  rintro c ⟨⟩
  decide +kernel

theorem Operator.endsBefore_blank (op : Operator) (rest : List Char) :
    (Lexeme.operator op).EndsBefore (' ' :: rest) :=
  (Lexeme.operator op).endsBefore_append (List.cons_ne_nil ' ' [])
    (List.forall_mem_singleton.mpr (by decide)) rest

/-- A text starts with the digits of at most one numeral that ends there. -/
theorem Numeral.append_inj {n m : Numeral} (h : Token.EndsWord rest)
    (h' : Token.EndsWord rest') (htext : n.digits ++ rest = m.digits ++ rest') :
    n.digits = m.digits ∧ rest = rest' := by
  have hword (k : Numeral) : ∀ c ∈ k.digits, isWordCharacter c = true :=
    fun c hc => isWordCharacter_of_isDigit (k.isDigit_of_mem c hc)
  have hdigits : n.digits = m.digits := by
    rw [← h.takeWhile_append (hword n), htext, h'.takeWhile_append (hword m)]
  rw [hdigits] at htext
  exact ⟨hdigits, List.append_cancel_left htext⟩

/-- A text starts with the symbol of at most one operator that ends there. -/
theorem Operator.append_inj {op op' : Operator} (h : (Lexeme.operator op).EndsBefore rest)
    (h' : (Lexeme.operator op').EndsBefore rest')
    (htext : op.symbol.toList ++ rest = op'.symbol.toList ++ rest') :
    op = op' ∧ rest = rest' := by
  have hread : Operator.read? (op.symbol.toList ++ rest) = some (op, rest) :=
    Operator.read?_symbol_append h
  rw [htext, Operator.read?_symbol_append h'] at hread
  cases hread
  exact ⟨rfl, rfl⟩

namespace Literal

variable {v w : Literal}

/-- A text starts with at most one literal that is read back and ends there. -/
theorem append_inj (hv : v.ReadsBack) (hw : w.ReadsBack) (h : Token.EndsWord rest)
    (h' : Token.EndsWord rest') (htext : v.text.toList ++ rest = w.text.toList ++ rest') :
    v = w ∧ rest = rest' := by
  rcases hv with ⟨n, hn, rfl⟩
  rcases hw with ⟨m, hm, rfl⟩
  rw [hn, hm] at htext
  obtain ⟨hdigits, hrest⟩ := Numeral.append_inj h h' htext
  exact ⟨by rw [Numeral.literal, Numeral.literal, hdigits], hrest⟩

/-- No literal that is read back starts with a parenthesis. -/
theorem ReadsBack.append_ne_open (h : v.ReadsBack) :
    v.text.toList ++ rest ≠ '(' :: rest' := by
  rcases h with ⟨n, hn, _⟩
  rcases List.exists_cons_of_ne_nil n.digits_ne_nil with ⟨first, others, hdigits⟩
  have hfirst : first.isDigit = true := n.isDigit_of_mem first (by simp [hdigits])
  rw [hn, hdigits]
  intro htext
  obtain rfl : first = '(' := (List.cons.inj htext).1
  exact absurd hfirst (by decide)

end Literal

/-! ## Expressions -/

namespace Expr

variable {e e' : Expr}

/-- All literals of the expression are kept exactly. -/
def Exact (e : Expr) : Prop :=
  ∀ v s, literal v s ∈ e.nodes → ∃ n, v = .whole n

@[simp]
theorem exact_literal (n : UInt64) (s : Span) : (literal (.whole n) s).Exact := by
  simp [Exact, nodes]

@[simp]
theorem exact_binary (op : Operator) (s : Span) (left right : Expr) :
    (binary op s left right).Exact ↔ left.Exact ∧ right.Exact := by
  simp only [Exact, nodes, List.mem_cons, List.mem_append, reduceCtorEq, false_or]
  constructor
  · intro h
    exact ⟨fun v s hv => h v s (.inl hv), fun v s hv => h v s (.inr hv)⟩
  · rintro ⟨hleft, hright⟩ v s (hv | hv)
    · exact hleft v s hv
    · exact hright v s hv

/-- Exact literals are read back. -/
theorem Exact.readsBack (h : e.Exact) : ∀ v s, literal v s ∈ e.nodes → v.ReadsBack := by
  intro v s hv
  obtain ⟨n, rfl⟩ := h v s hv
  exact Literal.readsBack_whole n

/-- How an operation is printed in front of a text. -/
theorem toList_text_binary_append (op : Operator) (s : Span) (left right : Expr)
    (rest : List Char) :
    (binary op s left right).text.toList ++ rest =
      '(' :: (left.text.toList ++ (' ' :: (op.symbol.toList ++
        (' ' :: (right.text.toList ++ (')' :: rest)))))) := by
  simp [text]

/-- A text starts with at most one printed expression whose literals are read back, up to
the places of its parts. -/
theorem text_append_inj (h : ∀ v s, literal v s ∈ e.nodes → v.ReadsBack)
    (h' : ∀ v s, literal v s ∈ e'.nodes → v.ReadsBack) (hrest : Token.EndsWord rest)
    (hrest' : Token.EndsWord rest')
    (htext : e.text.toList ++ rest = e'.text.toList ++ rest') :
    e.unplaced = e'.unplaced ∧ rest = rest' := by
  -- Behind each operand stands more than what follows the whole operation, so the rest of the
  -- text must be arbitrary.
  induction e generalizing e' rest rest' with
  | literal v s =>
    have hv : v.ReadsBack := h v s List.mem_cons_self
    cases e' with
    | literal w t =>
      obtain ⟨rfl, hsame⟩ := Literal.append_inj hv (h' w t List.mem_cons_self) hrest hrest' htext
      exact ⟨rfl, hsame⟩
    | binary op t left right =>
      rw [toList_text_binary_append] at htext
      exact absurd htext hv.append_ne_open
  | binary op s left right ihLeft ihRight =>
    cases e' with
    | literal w t =>
      have hw : w.ReadsBack := h' w t List.mem_cons_self
      rw [toList_text_binary_append] at htext
      exact absurd htext.symm hw.append_ne_open
    | binary op' t left' right' =>
      rw [toList_text_binary_append, toList_text_binary_append] at htext
      obtain ⟨hleft, hbehind⟩ := ihLeft (fun v s hv => h v s (by simp [nodes, hv]))
        (fun v s hv => h' v s (by simp [nodes, hv])) (Token.endsWord_blank _)
        (Token.endsWord_blank _) (List.cons.inj htext).2
      obtain ⟨rfl, hoperand⟩ := Operator.append_inj (op.endsBefore_blank _)
        (op'.endsBefore_blank _) (List.cons.inj hbehind).2
      obtain ⟨hright, hclose⟩ := ihRight (fun v s hv => h v s (by simp [nodes, hv]))
        (fun v s hv => h' v s (by simp [nodes, hv])) (Token.endsWord_close _)
        (Token.endsWord_close _) (List.cons.inj hoperand).2
      exact ⟨by rw [unplaced_binary, unplaced_binary, hleft, hright], (List.cons.inj hclose).2⟩

/-- Expressions whose literals are read back are determined by what is printed of them, up
to the places of their parts. -/
theorem unplaced_eq_of_print_eq (h : ∀ v s, literal v s ∈ e.nodes → v.ReadsBack)
    (h' : ∀ v s, literal v s ∈ e'.nodes → v.ReadsBack) (hprint : e.print = e'.print) :
    e.unplaced = e'.unplaced := by
  have hnil : Token.EndsWord [] := by simp [Token.EndsWord]
  rw [print_eq_text, print_eq_text] at hprint
  have htext : e.text.toList ++ [] = e'.text.toList ++ [] := by rw [hprint]
  exact (text_append_inj h h' hnil hnil htext).1

/-- Expressions with exact literals are printed alike exactly if they are equal up to the
places of their parts. -/
theorem print_eq_iff (h : e.Exact) (h' : e'.Exact) :
    e.print = e'.print ↔ e.unplaced = e'.unplaced :=
  ⟨unplaced_eq_of_print_eq h.readsBack h'.readsBack, print_eq_of_unplaced_eq⟩

/-- The same literals and operators in two groupings, one of which no text is read as. -/
theorem print_eq_iff_regrouped :
    ∃ e e' : Expr, e.Exact ∧ e'.Exact ∧ e.print = "(2 ** (3 * 4))" ∧
      e'.print = "((2 ** 3) * 4)" ∧ (e.print = e'.print ↔ e.unplaced = e'.unplaced) ∧
      e.unplaced ≠ e'.unplaced := by
  let e : Expr := .binary .pow ⟨0, 8⟩ (.literal (.whole 2) ⟨0, 1⟩)
    (.binary .mul ⟨5, 8⟩ (.literal (.whole 3) ⟨5, 6⟩) (.literal (.whole 4) ⟨7, 8⟩))
  let e' : Expr := .binary .mul ⟨0, 8⟩
    (.binary .pow ⟨0, 6⟩ (.literal (.whole 2) ⟨0, 1⟩) (.literal (.whole 3) ⟨5, 6⟩))
    (.literal (.whole 4) ⟨7, 8⟩)
  have h : e.Exact := by simp [e]
  have h' : e'.Exact := by simp [e']
  refine ⟨e, e', h, h', ?_, ?_, print_eq_iff h h', by simp [e, e']⟩
  · rw [print_eq_text]
    decide
  · rw [print_eq_text]
    decide

end Expr

end InfixArithmetic
