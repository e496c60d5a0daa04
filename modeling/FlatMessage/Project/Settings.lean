import FlatMessage.Compiler.CompileError
import FlatMessage.Text.Blank

/-!
# Settings of a run

A run compiles the model set of one schema into a namespace and writes its documents
under a destination.  It can be restricted to messages that are listed by name,
between commas.
-/

namespace FlatMessage.Project

open Compiler (CompileError)

/-- What a run is asked to do, as far as it is said. -/
structure Request where
  schema : Option String
  /-- The directory that a relative schema is followed from. -/
  base : Option String
  destination : Option String
  space : Option String
  /-- The names of the messages to compile. -/
  messages : Option String
  flushSegments : Bool
  deriving DecidableEq, Repr, Inhabited

/-- The complete settings of a run. -/
structure Settings where
  schema : String
  base : String
  destination : String
  space : String
  /-- The names of the messages to compile; all of them when it is absent. -/
  filter : Option (List String)
  flushSegments : Bool
  deriving DecidableEq, Repr

/-- The names between the commas of a list. -/
def messageNames (list : String) : List String :=
  ((Text.split (· == ',') list).map Text.trim).filter (· ≠ "")

/-- A setting that has to be there. -/
def mandatory (name : String) : Option String → Except CompileError String
  | some value => .ok value
  | none => .error (.missingSetting name)

/-- The settings of a request. -/
def Settings.ofRequest (request : Request) : Except CompileError Settings := do
  let schema ← mandatory "schema" request.schema
  let destination ← mandatory "destination" request.destination
  let space ← mandatory "namespace" request.space
  match Naming.checkNamespace space with
  | .error illegal => .error (.illegalName illegal)
  | .ok () =>
      .ok
        { schema
          base := request.base.getD "."
          destination
          space
          filter := request.messages.map messageNames
          flushSegments := request.flushSegments }

/-- Whether a message is to be compiled. -/
def Settings.selects (settings : Settings) (message : String) : Bool :=
  match settings.filter with
  | none => true
  | some names => names.contains message

end FlatMessage.Project
