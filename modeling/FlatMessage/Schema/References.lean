import FlatMessage.Schema.Loading

/-!
# References between documents

The documents that a text refers to can be told from the text alone: a manifest lists
them, and a document imports them.  A text that is neither refers to nothing, and so
does a reference that denotes no location.
-/

namespace FlatMessage.Schema

/-- The references that a text at a location holds, in order. -/
def referencesIn (location text : String) : List String :=
  if isManifest location then
    match Manifest.ofText? text with
    | some manifest => manifest.documents
    | none => []
  else
    match Document.parse text with
    | .ok document => document.imports.map Import.resource
    | .error _ => []

/-- The locations that the text at a location refers to, in order. -/
def locationsIn (location text : String) : List String :=
  (referencesIn location text).filterMap fun reference =>
    Location.resolve? reference (Files.Path.directory location)

end FlatMessage.Schema
