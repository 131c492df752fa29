/-!
# Character spans

Every token, expression and fault carries the stretch of the text it stands for.
Positions count characters from zero, and a span stops before its `stop`.

Spans are plain pairs of positions.  Scanning and parsing only build ordered
ones, but a span given from outside may be reversed or lie past the end of the
text, so the operations below are total and assume no order.

Positions are machine words of 64 bits.  Those in a text stay far below the
greatest word: a text in memory has fewer than `2 ^ 63` characters, and nothing
computed from it goes further than one position behind its end, as
`Token.stop_add_one_lt_size` and `Fault.stop_lt_size` say.  The scanner and the rows
of a diagnostic only meet such positions, and sums of theirs are plain sums
(`Span.character`).  The parser also takes tokens whose spans come from
elsewhere and may stop at the greatest word.  Its sum, `Span.next`, is the sum of
words without a check for overflow, which wraps there; a build with such checks stops
instead.  `Span.next_eq` says that it wraps nowhere else.
-/

namespace InfixArithmetic

/-- The character positions from `start` up to, but not including, `stop`. -/
structure Span where
  start : Nat
  stop : Nat
deriving DecidableEq, Inhabited

namespace Span

/-- The span of the character that stands at `position` in a text. -/
def character (position : Nat) : Span :=
  ⟨position, position + 1⟩

/-- The word that follows `position`.  The first word follows the greatest one. -/
def next (position : Nat) : Nat :=
  (position + 1) % UInt64.size

/-- The span of the single position `position`, which may be any word. -/
def single (position : Nat) : Span :=
  ⟨position, next position⟩

/-- The span from the start of `first` to the end of `last`. -/
def cover (first last : Span) : Span :=
  ⟨first.start, last.stop⟩

/-- The single position that directly follows a span, given as a word. -/
def after (s : Span) : Span :=
  single s.stop

/-- Two spans meet when each starts before the other stops.  Nonempty ordered
spans meet exactly when they share a position. -/
def meets (a b : Span) : Bool :=
  a.start < b.stop && b.start < a.stop

/-- A span written with two dots, as in `4..7`. -/
def text (s : Span) : String :=
  s!"{s.start}..{s.stop}"

@[simp]
theorem start_character (position : Nat) : (character position).start = position :=
  rfl

@[simp]
theorem stop_character (position : Nat) : (character position).stop = position + 1 :=
  rfl

/-- Below the greatest word nothing wraps. -/
theorem next_eq {position : Nat} (h : position + 1 < UInt64.size) :
    next position = position + 1 :=
  Nat.mod_eq_of_lt h

@[simp]
theorem start_single (position : Nat) : (single position).start = position :=
  rfl

@[simp]
theorem stop_single (position : Nat) : (single position).stop = next position :=
  rfl

/-- Below the greatest word a single position is a single character. -/
theorem single_eq_character {position : Nat} (h : position + 1 < UInt64.size) :
    single position = character position := by
  rw [single, next_eq h, character]

@[simp]
theorem start_cover (first last : Span) : (cover first last).start = first.start :=
  rfl

@[simp]
theorem stop_cover (first last : Span) : (cover first last).stop = last.stop :=
  rfl

/-- Meeting as a statement about positions. -/
theorem meets_iff {a b : Span} :
    a.meets b = true ↔ a.start < b.stop ∧ b.start < a.stop := by
  simp [meets]

/-- Meeting does not depend on the order of the two spans. -/
theorem meets_comm (a b : Span) : a.meets b = b.meets a := by
  simp [meets, Bool.and_comm]

end Span

end InfixArithmetic
