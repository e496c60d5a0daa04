import FlatMessage.Schema.Model
import FlatMessage.Toml.Parser

/-!
# Manifests

A manifest is a TOML document that lists the documents of a model set, and may give
the interchange standard of the set.  It has no other members, and neither has an
entry for a document; the interchange may have more.
-/

namespace FlatMessage.Schema

/-- The documents of a model set and its interchange standard. -/
structure Manifest where
  interchange : Option InterchangeProperties
  /-- The references to the documents, in order. -/
  documents : List String
  deriving DecidableEq, Repr

/-- The interchange standard that a TOML value gives. -/
def InterchangeProperties.ofToml? (value : Toml) : Option InterchangeProperties :=
  match value.fields? false ["type", "version"] with
  | some [some type, some version] => do
      some ⟨← type.text?, ← version.text?⟩
  | _ => none

namespace Manifest

/-- The reference of an entry for a document. -/
def entry? (value : Toml) : Option String :=
  match value.fields? true ["path"] with
  | some [some path] => path.text?
  | _ => none

/-- The manifest that a TOML value gives. -/
def ofToml? (value : Toml) : Option Manifest :=
  match value.fields? true ["interchange", "models"] with
  | some [interchange, models] => do
      let interchange ← interchange.mapM InterchangeProperties.ofToml?
      let items ← (models.map Toml.items?).getD (some [])
      some ⟨interchange, ← items.mapM entry?⟩
  | _ => none

/-- Read a manifest. -/
def ofText? (text : String) : Option Manifest := do
  ofToml? (← Toml.ofText? text)

end Manifest

end FlatMessage.Schema
