import FlatMessage.CommandLine.Execution
import FlatMessage.CommandLine.Usage

/-!
# The program

The program reads its arguments, carries out the command they give and ends with an
exit code.  Help and the version are printed without reading or changing any file, and
arguments that are no command end the program with a code of their own.
-/

namespace FlatMessage.CommandLine

open Files (Tree)

/-- How the program ends. -/
structure Ending where
  code : UInt32
  /-- What is printed to the standard output. -/
  output : String
  /-- What is printed to the standard error. -/
  report : Option String
  deriving DecidableEq, Repr

/-- The exit code of arguments that are no command. -/
def usageCode : UInt32 :=
  2

/-- The report of arguments that are no command. -/
def usageReport : String :=
  "error: the arguments are not a command\n\n" ++ helpText .program

/-- The ending for arguments that are no command to carry out. -/
def Stop.ending : Stop → Ending
  | help topic => ⟨0, helpText topic, none⟩
  | version => ⟨0, versionText, none⟩
  | usage => ⟨usageCode, "", some usageReport⟩

/-- The ending of a command that was carried out. -/
def Outcome.ending (outcome : Outcome) : Ending where
  code := outcome.exitCode
  output := outcome.output
  report := outcome.failure.map fun error => "Error: " ++ error.message ++ "\n"

/-- Run the program with arguments on a file tree. -/
def program (tree : Tree) (arguments : List String) : Ending × Tree :=
  match Command.ofArguments arguments with
  | .error stop => (stop.ending, tree)
  | .ok command =>
      let (outcome, tree) := command.run tree
      (outcome.ending, tree)

end FlatMessage.CommandLine
