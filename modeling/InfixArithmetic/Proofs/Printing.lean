import InfixArithmetic.Expr.Printer
import InfixArithmetic.Proofs.Moving

/-!
# What expressions are printed as

Printing takes its steps with a list of pieces and the text written so far.  Each piece has a
text of its own that it is going to add, and no step changes what is written and what is
going to be added taken together, so the steps write the text that is given by recursion.
That text shows the literals, the operators and how they are grouped, but not where they
stand.

Main results:

- `Printer.completed_of_step`: every step keeps the text that is being written.
- `Expr.print_eq_text`: printing gives the text by recursion.
- `Expr.printing_ends_with_text`: printing ends with the text by recursion, of which some
  beginning is written in every state on the way.
- `Expr.print_eq_of_unplaced_eq`: expressions that differ in their spans only are printed
  alike.
-/

namespace InfixArithmetic

/-! ## The states of a printing -/

namespace Printer

/-- What a piece adds to the text. -/
def Piece.text : Piece → String
  | visit e => e.text
  | operator op => " " ++ op.symbol ++ " "
  | close => ")"

/-- What pieces add to the text one after another. -/
def textOf : List Piece → String
  | [] => ""
  | piece :: pieces => piece.text ++ textOf pieces

/-- The text that is being written: what is written already and what the pieces add. -/
def State.completed (s : State) : String :=
  s.written ++ textOf s.pieces

variable {s t : State}

/-- Every step keeps the text that is being written. -/
theorem completed_of_step (h : step s = .next t) : t.completed = s.completed := by
  rcases s with ⟨pieces, written⟩
  cases pieces with
  | nil => cases h
  | cons piece pieces =>
    cases piece with
    | visit e =>
      cases e with
      | literal v place =>
        cases h
        simp only [State.completed, textOf, Piece.text, Expr.text, String.append_assoc]
      | binary op place left right =>
        -- The parenthesis is written, and the pieces add the rest of the operation.
        cases h
        simp only [State.completed, textOf, Piece.text, Expr.text, String.append_assoc]
    | operator op =>
      cases h
      simp only [State.completed, textOf, Piece.text, String.append_assoc]
    | close =>
      cases h
      simp only [State.completed, textOf, Piece.text, String.append_assoc]

/-- In every state of a printing the text of the expression is being written. -/
theorem completed_of_reaches {e : Expr} (h : machine.Reaches (.start e) s) :
    s.completed = e.text := by
  apply h.invariant
  · simp only [State.completed, State.start, textOf, Piece.text, String.empty_append,
      String.append_empty]
  · intro t u ht hstep
    rw [completed_of_step hstep, ht]

/-- A result is delivered when no piece is left, and it is what is written. -/
theorem eq_of_step_done {text : String} (h : step s = .done text) :
    s.pieces = [] ∧ text = s.written := by
  unfold step at h
  split at h
  next hs =>
    cases h
    exact ⟨hs, rfl⟩
  all_goals cases h

/-- Every printing comes to a state in which nothing is left to do and the text of the
expression is written. -/
theorem exists_last (e : Expr) :
    ∃ s, machine.Reaches (.start e) s ∧ s.pieces = [] ∧ s.written = e.text ∧
      machine.step s = .done e.text := by
  have hstart : machine.Reaches (.start e) (.start e) := .refl
  obtain ⟨s, hreach, hdone⟩ := hstart.exists_done
  obtain ⟨hpieces, hresult⟩ := eq_of_step_done hdone
  have hwritten : s.written = e.text := by
    rw [← completed_of_reaches hreach, State.completed, hpieces, textOf, String.append_empty]
  exact ⟨s, hreach, hpieces, hwritten, by rw [hdone, hresult, hwritten]⟩

end Printer

namespace Expr

/-- Printing gives the text of the expression. -/
theorem print_eq_text (e : Expr) : e.print = e.text := by
  obtain ⟨s, hreach, _, _, hdone⟩ := Printer.exists_last e
  rw [print, hreach.run_eq, Machine.run_done hdone]

/-- Printing ends, and when it ends the text by recursion is written.  In every state on the
way what is written and what the pieces add make up just this text. -/
theorem printing_ends_with_text (e : Expr) :
    e.print = e.text ∧
      (∃ s, Printer.machine.Reaches (.start e) s ∧ s.pieces = [] ∧ s.written = e.text ∧
        Printer.machine.step s = .done e.text) ∧
      ∀ s, Printer.machine.Reaches (.start e) s →
        s.written ++ Printer.textOf s.pieces = e.text := by
  refine ⟨e.print_eq_text, Printer.exists_last e, ?_⟩
  intro s hreach
  exact Printer.completed_of_reaches hreach

/-! ## Expressions up to their spans -/

/-- The expression without its places: all spans in it are made the same. -/
def unplaced (e : Expr) : Expr :=
  e.mapSpans fun _ => ⟨0, 0⟩

@[simp]
theorem unplaced_literal (v : Literal) (s : Span) :
    (literal v s).unplaced = literal v ⟨0, 0⟩ :=
  rfl

@[simp]
theorem unplaced_binary (op : Operator) (s : Span) (left right : Expr) :
    (binary op s left right).unplaced = binary op ⟨0, 0⟩ left.unplaced right.unplaced :=
  rfl

@[simp]
theorem text_mapSpans (f : Span → Span) (e : Expr) : (e.mapSpans f).text = e.text := by
  induction e with
  | literal v s => rfl
  | binary op s left right ihLeft ihRight => simp only [mapSpans, text, ihLeft, ihRight]

/-- Expressions that differ in their spans only are printed alike. -/
theorem print_eq_of_unplaced_eq {e e' : Expr} (h : e.unplaced = e'.unplaced) :
    e.print = e'.print := by
  have htext : e.unplaced.text = e'.unplaced.text := by rw [h]
  rwa [unplaced, unplaced, text_mapSpans, text_mapSpans, ← print_eq_text,
    ← print_eq_text] at htext

end Expr

end InfixArithmetic
