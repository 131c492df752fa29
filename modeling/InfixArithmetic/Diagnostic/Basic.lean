import InfixArithmetic.Diagnostic.Mark
import InfixArithmetic.Diagnostic.SourceLine
import InfixArithmetic.Fault

/-!
# Diagnostics

A diagnostic is a description together with the spans of a text it refers to.  It
is shown as the lines that meet one of the spans, each with its number in the
margin and with marks below it, followed by the description.
-/

namespace InfixArithmetic

/-- Something to tell the user about a text. -/
structure Diagnostic where
  color : Color
  description : String
  spans : List Span

namespace Diagnostic

/-- The margin of a line without a number. -/
def margin : String :=
  "   " ++ Color.blue.paint "│" ++ " "

/-- The margin of a numbered line.  Numbers have at least two digits. -/
def numberedMargin (number : Nat) : String :=
  let digits := Nat.repr number
  Color.blue.paint ((if number < 10 then "0" ++ digits else digits) ++ " │") ++ " "

/-- A line and the marks below it, placed by a table of widths. -/
def markedLine (width : Char → Option Nat) (color : Color) (line : SourceLine)
    (spans : List Span) : String :=
  numberedMargin line.number ++ String.ofList line.text ++ "\n" ++
    margin ++ String.join ((Mark.place width line.text spans).map (Mark.text color)) ++ "\n"

/-- The lines of a text that meet one of the spans. -/
def shownLines (d : Diagnostic) (text : List Char) : List SourceLine :=
  (SourceLine.ofText text).filter fun line => d.spans.any fun s => s.meets line.span

/-- The diagnostic for a text, with the marks placed by a table of widths. -/
def renderWith (width : Char → Option Nat) (d : Diagnostic) (text : String) : String :=
  let lines := (d.shownLines text.toList).map fun line =>
    markedLine width d.color line (line.clips d.spans)
  String.join lines ++ margin ++ d.color.paint d.description

/-- The diagnostic as it is shown for a text. -/
def render (d : Diagnostic) (text : String) : String :=
  d.renderWith Text.characterWidth text

end Diagnostic

/-- A fault marks its span in red. -/
def Fault.diagnostic (fault : Fault) : Diagnostic where
  color := .red
  description := fault.description
  spans := [fault.span]

end InfixArithmetic
