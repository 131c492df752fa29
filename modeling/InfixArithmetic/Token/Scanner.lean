import InfixArithmetic.Fault
import InfixArithmetic.Machine
import InfixArithmetic.Text.Alphanumeric
import InfixArithmetic.Text.Blank

/-!
# From text to tokens

The scanner reads a text from left to right.  Letters, numbers, points and
underscores are gathered into a pending word, which is judged only when it ends:
a word of decimal digits is a literal, a word that merely starts with a digit is
an invalid number, and any other word is reported at its first character.

Main results:

- `Scanner.machine`: scanning as a step machine that always ends.
- `Token.scan`: the tokens of a text, or the first fault in it.
-/

namespace InfixArithmetic

/-- Whether a character belongs to a word: letters, numbers, points and
underscores do. -/
def isWordCharacter (c : Char) : Bool :=
  Text.isAlphanumeric c || c == '.' || c == '_'

namespace Scanner

/-- How far the scanner has come: the finished tokens and the characters of the
pending word, both newest first, and the unread text with the position at which
it starts. -/
structure State where
  tokens : List Token
  word : List Char
  position : Nat
  rest : List Char

/-- The scanner before it has read anything. -/
def State.start (text : List Char) : State where
  tokens := []
  word := []
  position := 0
  rest := text

/-- Ends the pending word right before the position `stop`.  A pending word
becomes a number token or a fault; without one nothing changes. -/
def State.closeWord (s : State) (stop : Nat) : Except LexicalFault State :=
  match s.word.reverse with
  | [] => .ok s
  | first :: others =>
    let span : Span := ⟨stop - s.word.length, stop⟩
    if first.isDigit then
      match Literal.read? (first :: others) with
      | some value => .ok { s with tokens := .number value span :: s.tokens, word := [] }
      | none => .error (.invalidNumber span)
    else
      .error (.invalidCharacter first (.character span.start))

/-- Adds one character to the pending word. -/
def State.extendWord (s : State) (c : Char) (rest : List Char) : State :=
  { s with word := c :: s.word, position := s.position + 1, rest }

/-- Passes over a blank. -/
def State.skip (s : State) (rest : List Char) : State :=
  { s with position := s.position + 1, rest }

/-- Emits an operator that starts at the current position. -/
def State.emit (s : State) (op : Operator) (rest : List Char) : State :=
  let stop := s.position + op.width
  { s with tokens := .operator op ⟨s.position, stop⟩ :: s.tokens, position := stop, rest }

/-- Reads one character, or one operator of two.  Everything but a character of
a word ends the pending word first, and a fault in that word comes before a fault
in the character. -/
def step (s : State) : Move State (Except LexicalFault (List Token)) :=
  match s.rest with
  | [] =>
    match s.closeWord s.position with
    | .ok closed => .done (.ok closed.tokens.reverse)
    | .error fault => .done (.error fault)
  | c :: rest =>
    if Text.isBlank c then
      match s.closeWord s.position with
      | .ok closed => .next (closed.skip rest)
      | .error fault => .done (.error fault)
    else
      match Operator.read? (c :: rest) with
      | some (op, rest) =>
        match s.closeWord s.position with
        | .ok closed => .next (closed.emit op rest)
        | .error fault => .done (.error fault)
      | none =>
        if isWordCharacter c then
          .next (s.extendWord c rest)
        else
          match s.closeWord s.position with
          | .ok _ => .done (.error (.invalidCharacter c (.character s.position)))
          | .error fault => .done (.error fault)

/-- Every move reads at least one character. -/
theorem length_rest_lt_of_step {s t : State} (h : step s = .next t) :
    t.rest.length < s.rest.length := by
  unfold step at h
  split at h
  next =>
    split at h <;> simp at h
  next c rest hrest =>
    rw [hrest]
    split at h
    next =>
      split at h
      next closed _ =>
        simp only [Move.next.injEq] at h
        subst h
        simp [State.skip]
      next => simp at h
    next =>
      split at h
      next op after hread =>
        split at h
        next closed _ =>
          simp only [Move.next.injEq] at h
          subst h
          have length := Operator.length_of_read? hread
          have positive := op.width_pos
          simp only [State.emit]
          omega
        next => simp at h
      next =>
        split at h
        next =>
          simp only [Move.next.injEq] at h
          subst h
          simp [State.extendWord]
        next =>
          split at h <;> simp at h

/-- The scanner as a step machine, ranked by the length of the unread text. -/
def machine : Machine State (Except LexicalFault (List Token)) where
  step := step
  rank s := s.rest.length
  rank_lt := length_rest_lt_of_step

end Scanner

/-- The tokens of a text, or the first fault that keeps it from being split. -/
def Token.scan (text : String) : Except LexicalFault (List Token) :=
  Scanner.machine.run (.start text.toList)

end InfixArithmetic
