import InfixArithmetic.Text.Blank

/-!
# Quoted text

A text is quoted in the journal so that it takes one line and every blank in it
can be told apart.
-/

namespace InfixArithmetic
namespace Text

/-- A character by its code point in hexadecimal, as in `\u{3000}`. -/
def codeEscape (c : Char) : List Char :=
  '\\' :: 'u' :: '\x7b' :: Nat.toDigits 16 c.toNat ++ ['\x7d']

/-- A character as it is written between quotes.  Tabs and line ends are written
by letter and the other blanks, except for the space, by code point. -/
def escape (c : Char) : List Char :=
  match c with
  | '\t' => ['\\', 't']
  | '\n' => ['\\', 'n']
  | '\r' => ['\\', 'r']
  | '"' => ['\\', '"']
  | '\\' => ['\\', '\\']
  | ' ' => [' ']
  | c => if isBlank c then codeEscape c else [c]

/-- A text in double quotes. -/
def quote (text : String) : String :=
  String.ofList ('"' :: text.toList.flatMap escape ++ ['"'])

end Text
end InfixArithmetic
