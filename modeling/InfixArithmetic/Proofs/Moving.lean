import InfixArithmetic.Expr.Basic
import InfixArithmetic.Fault

/-!
# Moving spans

A text that stands inside a longer text has the same tokens, expressions and faults,
but their spans are moved.  The operations here replace every span of a piece of data.

Main results:

- `Span.shift` and `Span.back`: moving a span up and down.
- `Token.mapSpan`, `LexicalFault.mapSpan` and `Expr.mapSpans`: replacing the spans of
  tokens, faults and expressions.
-/

namespace InfixArithmetic

namespace Span

/-- The span moved up by a distance. -/
def shift (distance : Nat) (s : Span) : Span where
  start := s.start + distance
  stop := s.stop + distance

/-- The span moved down by a distance. -/
def back (distance : Nat) (s : Span) : Span where
  start := s.start - distance
  stop := s.stop - distance

theorem back_comp_shift (distance : Nat) : back distance ∘ shift distance = id := by
  funext s
  simp [shift, back]

end Span

namespace Token

/-- The token at another place. -/
def mapSpan (f : Span → Span) : Token → Token
  | number value s => .number value (f s)
  | operator op s => .operator op (f s)

@[simp]
theorem mapSpan_id : mapSpan id = id := by
  funext t
  cases t <;> rfl

@[simp]
theorem span_mapSpan (f : Span → Span) (t : Token) : (t.mapSpan f).span = f t.span := by
  cases t <;> rfl

@[simp]
theorem mapSpan_comp_mapSpan (g f : Span → Span) :
    mapSpan g ∘ mapSpan f = mapSpan (g ∘ f) := by
  funext t
  cases t <;> rfl

end Token

namespace LexicalFault

/-- The same fault at another place. -/
def mapSpan (f : Span → Span) : LexicalFault → LexicalFault
  | invalidCharacter c s => .invalidCharacter c (f s)
  | invalidNumber s => .invalidNumber (f s)

@[simp]
theorem span_mapSpan (f : Span → Span) (fault : LexicalFault) :
    (fault.mapSpan f).span = f fault.span := by
  cases fault <;> rfl

end LexicalFault

namespace Expr

/-- The expression with every span in it replaced. -/
def mapSpans (f : Span → Span) : Expr → Expr
  | literal v s => .literal v (f s)
  | binary op s left right => .binary op (f s) (left.mapSpans f) (right.mapSpans f)

end Expr

end InfixArithmetic
