import InfixArithmetic.Command.Run

/-!
# The program

Reads the file that the command line names, if it names one, and prints what the
command answers.
-/

namespace InfixArithmetic
namespace Command

/-- The bytes of a file, or none if it cannot be read. -/
def readContents (path : String) : IO (Option ByteArray) := do
  try
    return some (← IO.FS.readBinFile path)
  catch _ =>
    return none

/-- Runs the command on the words of its command line and gives its exit code. -/
def execute (words : List String) : IO UInt32 := do
  let contents ← match Request.read words with
    | .file _ path => readContents path
    | _ => pure none
  let outcome := run (fun _ => contents) words
  IO.print outcome.output
  return outcome.exitCode

end Command
end InfixArithmetic

/-- The program is the command. -/
def main (words : List String) : IO UInt32 :=
  InfixArithmetic.Command.execute words
