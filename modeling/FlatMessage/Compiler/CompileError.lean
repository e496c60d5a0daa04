import FlatMessage.Naming.Identifier
import FlatMessage.Schema.LoadError

/-!
# Failures of compiling

Why a model is not compiled, or a compilation run does not end: a schema is refused,
a name has no identifier, an encoder cannot be configured, the settings of the run
are incomplete, or its output cannot be written.
-/

namespace FlatMessage.Compiler

/-- Why a compilation fails. -/
inductive CompileError
  | parse (error : Schema.ParseError)
  | load (error : Schema.LoadError)
  | missingSetting (name : String)
  | declaration (error : Encoder.DeclarationError)
  | illegalName (illegal : Naming.IllegalName)
  | destinationNotDirectory (path : String)
  | unknownInterchange (type : String)
  | files (failure : Files.FileError)
  deriving DecidableEq, Repr

/-- The report of a failed compilation. -/
def CompileError.message : CompileError → String
  | parse error => s!"schema parse error: {error.message}"
  | load error => s!"schema error: {error.message}"
  | missingSetting name =>
      s!"schema error: mandatory property '{name}' not specified"
  | declaration error => error.message
  | illegalName illegal => illegal.message
  | destinationNotDirectory path => s!"destination '{path}' is not a directory"
  | unknownInterchange type => s!"unknown interchange type '{type}'"
  | files failure => s!"IO error: {failure.message}"

end FlatMessage.Compiler
