import FlatMessage.CommandLine.Execution

/-!
# The extent of a command

What a command reads and changes can be told before it is carried out.  A compile
command depends on its configuration first, which gives the schemas and destinations of
its runs.
-/

namespace FlatMessage.CommandLine

open Files (Tree)
open Project (Configuration Settings)

/-- What a command reads and changes. -/
structure Extent where
  /-- The locations of schemas, which refer to further ones. -/
  schemas : List String
  /-- The paths of other files that are read. -/
  texts : List String
  /-- The paths of directories that may be replaced. -/
  directories : List String
  /-- The paths of files that are written. -/
  files : List String
  deriving DecidableEq, Repr

/-- The path of the configuration that a command depends on. -/
def Command.configurationPath? : Command → Option String
  | .compile command => some (command.configuration.getD Configuration.defaultPath)
  | .encode _ => none

/-- The location of the schema of a run. -/
def schemaLocation? (schema base : String) : Option String :=
  (Schema.locate schema base).toOption

/-- The extent of a command, given a tree with its configuration. -/
def Command.extent (command : Command) (tree : Tree) : Extent :=
  match command with
  | .compile command =>
      let runs := (settingsOf tree command).toOption.getD []
      { schemas := runs.filterMap fun run => schemaLocation? run.schema run.base
        texts := []
        directories := runs.map Settings.destination
        files := [] }
  | .encode command =>
      { schemas := (schemaLocation? command.schema ".").toList
        texts := [command.source]
        directories := []
        files := command.destination.toList }

end FlatMessage.CommandLine
