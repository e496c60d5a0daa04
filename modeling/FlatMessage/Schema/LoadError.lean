import FlatMessage.Files.FileError
import FlatMessage.Schema.ParseError
import FlatMessage.Schema.Validation

/-!
# Failures of loading

Why the documents of a model set are not loaded: one of them cannot be located, read
or understood, is not sound, imports itself, or repeats the key of another one.
-/

namespace FlatMessage.Schema

/-- Why a model set is not loaded. -/
inductive LoadError
  | document (location : String) (error : ParseError)
  | unreadable (location : String) (failure : Files.FileError)
  | unsupportedLocation (reference : String)
  | malformedManifest (location : String)
  /-- The documents being loaded, outermost first, and the one that is met again. -/
  | circular (chain : List String)
  | duplicateModel (key : String)
  | invalid (fault : ValidationFault)
  deriving DecidableEq, Repr

/-- The report of a failure to load. -/
def LoadError.message : LoadError → String
  | document location error => s!"failed to parse '{location}': {error.message}"
  | unreadable location failure => s!"cannot read '{location}': {failure.message}"
  | unsupportedLocation reference =>
      s!"unsupported schema location '{reference}'"
  | malformedManifest location => s!"invalid manifest '{location}': TOML parse error"
  | circular chain => "circular import detected: " ++ Text.join " -> " chain
  | duplicateModel key => s!"duplicate model '{key}'"
  | invalid fault => s!"validation error: {fault.message}"

end FlatMessage.Schema
