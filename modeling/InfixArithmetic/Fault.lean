import InfixArithmetic.Token.Basic

/-!
# Faults

What can be wrong with a text: it may not split into tokens, or the tokens may
not form one expression.  Each fault knows the span it concerns, a one-line
message for programs and a description for the user.
-/

namespace InfixArithmetic

/-- Why a text does not split into tokens. -/
inductive LexicalFault where
  /-- A character that starts no token. -/
  | invalidCharacter (character : Char) (span : Span)
  /-- A run of digits that runs on with something that is no digit. -/
  | invalidNumber (span : Span)
deriving DecidableEq

/-- Why tokens do not form exactly one expression. -/
inductive GrammarFault where
  /-- The tokens end where an operand is due. -/
  | unexpectedEnd (span : Span)
  /-- An operator stands where an operand is due. -/
  | unexpectedToken (token : Token)
  /-- A complete expression is followed by more tokens, as in `3 4`. -/
  | trailingInput (span : Span)
deriving BEq

/-- Why a text is not an expression. -/
inductive Fault where
  | lexical (fault : LexicalFault)
  | grammar (fault : GrammarFault)
deriving BEq

namespace LexicalFault

/-- The part of the text that is at fault. -/
def span : LexicalFault → Span
  | invalidCharacter _ s => s
  | invalidNumber s => s

/-- The fault and its place in one line. -/
def message : LexicalFault → String
  | invalidCharacter c s => s!"invalid character '{c}' at {s.text}"
  | invalidNumber s => s!"invalid number literal at {s.text}"

/-- The fault as it is explained below the marked text. -/
def description : LexicalFault → String
  | invalidCharacter c _ => s!"Found an invalid character '{c}'"
  | invalidNumber _ => "Invalid number literal, only integers are supported"

end LexicalFault

namespace GrammarFault

/-- The part of the text that is at fault. -/
def span : GrammarFault → Span
  | unexpectedEnd s => s
  | unexpectedToken t => t.span
  | trailingInput s => s

/-- The fault and its place in one line. -/
def message : GrammarFault → String
  | unexpectedEnd s => s!"unexpected end of input at {s.text}"
  | unexpectedToken t => s!"unexpected token '{t.text}' at {t.span.start}"
  | trailingInput s => s!"trailing input at {s.text}"

/-- The fault as it is explained below the marked text. -/
def description : GrammarFault → String
  | unexpectedEnd _ => "Missing an operand"
  | unexpectedToken t => s!"Found an unexpected operator '{t.text}'"
  | trailingInput _ => "Missing an operator"

end GrammarFault

namespace Fault

/-- Whether the text could not even be split into tokens. -/
def isLexical : Fault → Bool
  | lexical _ => true
  | grammar _ => false

/-- The part of the text that is at fault. -/
def span : Fault → Span
  | lexical f => f.span
  | grammar f => f.span

/-- The fault and its place in one line. -/
def message : Fault → String
  | lexical f => f.message
  | grammar f => f.message

/-- The fault as it is explained below the marked text. -/
def description : Fault → String
  | lexical f => f.description
  | grammar f => f.description

end Fault

end InfixArithmetic
