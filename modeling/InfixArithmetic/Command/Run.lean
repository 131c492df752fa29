import InfixArithmetic.Calculator
import InfixArithmetic.Command.Arguments
import InfixArithmetic.Diagnostic.Basic
import InfixArithmetic.Expr.Printer

/-!
# The command

What the calculator prints for a command line, and the exit code it ends with:
zero for a result, one for a failed calculation and two for misused options.
-/

namespace InfixArithmetic
namespace Command

/-- How the command ends and what it has printed. -/
structure Outcome where
  exitCode : UInt32
  output : String
deriving DecidableEq

/-- The command did what it was asked for. -/
def Outcome.success (output : String) : Outcome :=
  ⟨0, output⟩

/-- There is no expression to calculate, or the calculation failed. -/
def Outcome.failure (output : String) : Outcome :=
  ⟨1, output⟩

/-- The words of the command line do not follow the rules.  Nothing is printed. -/
def Outcome.misuse : Outcome :=
  ⟨2, ""⟩

/-- One line in red, about a problem that no text can be shown for. -/
def complaint (message : String) : Outcome :=
  .failure (Color.red.paint message ++ "\n")

/-- The name and version of the command. -/
def versionText : String :=
  "exprcalc 0.1.0\n"

/-- How the command is used. -/
def helpText : String :=
  String.join <| List.map (· ++ "\n") [
    "Parse and evaluate integer arithmetic expressions with standard operator precedence",
    "",
    "Usage: exprcalc [OPTIONS] [EXPRESSION]...",
    "",
    "Arguments:",
    "  [EXPRESSION]...  The expression, multiple words are joined with spaces",
    "",
    "Options:",
    "  -p, --path <PATH>  Read the expression from a file",
    "  -t, --tree         Print the fully parenthesized expression instead of its value",
    "  -h, --help         Print help",
    "  -V, --version      Print version"]

/-- What is to be printed for a text: its expression or its value. -/
def answer (tree : Bool) (text : String) : Except Fault String :=
  if tree then (Expr.ofText text).map Expr.print
  else (calculate text).map Decimal.positional

/-- Prints the answer for a text, or shows what is wrong with the text. -/
def present (tree : Bool) (text : String) : Outcome :=
  match answer tree text with
  | .ok output => .success (output ++ "\n")
  | .error fault => .failure (fault.diagnostic.render text ++ "\n\n")

/-- Runs the command on the words of its command line, which `read` turns into a
request.  `contents` gives the bytes of a file, or none if it cannot be read; bytes
that are not valid UTF-8 cannot be read either. -/
def runWith (read : List String → Request) (contents : String → Option ByteArray)
    (words : List String) : Outcome :=
  match read words with
  | .misuse => .misuse
  | .help => .success helpText
  | .version => .success versionText
  | .file tree path =>
    match (contents path).bind String.fromUTF8? with
    | some text => present tree text
    | none => complaint ("Error reading file: " ++ path)
  | .words _ [] => complaint "Missing an expression, see --help"
  | .words tree words => present tree (" ".intercalate words)

/-- Runs the command with its own reader of words. -/
def run (contents : String → Option ByteArray) (words : List String) : Outcome :=
  runWith Request.read contents words

end Command
end InfixArithmetic
