import FlatMessage.Text.Utf8
import FlatMessage.Proofs.Loading.Rules
import FlatMessage.Proofs.Loading.Visits

/-!
# The documents of a file tree

The files of a tree are the nodes of a graph, and what a document imports are its edges.
A reference in a document is followed from the directory of the document's canonical
path, so the graph does not depend on how locations are spelled.

A document has a model when all documents that it imports have models and it is built
with them into a valid one.
-/

namespace FlatMessage

namespace Xml.Element

/-! ## Elements are compared -/

mutual

/-- Whether two elements are the same. -/
def decEq : (first second : Element) → Decidable (first = second)
  | .mk name attributes children text, .mk name' attributes' children' text' =>
      have := decEqAll children children'
      decidable_of_iff
        (name = name' ∧ attributes = attributes' ∧ children = children' ∧ text = text')
        (Iff.of_eq (mk.injEq ..).symm)

/-- Whether two lists of elements are the same. -/
def decEqAll : (first second : List Element) → Decidable (first = second)
  | [], [] => isTrue rfl
  | [], _ :: _ => isFalse nofun
  | _ :: _, [] => isFalse nofun
  | first :: rest, second :: others =>
      have := decEq first second
      have := decEqAll rest others
      decidable_of_iff (first = second ∧ rest = others) (Iff.of_eq (List.cons.injEq ..).symm)

end

instance : DecidableEq Element := decEq

end Xml.Element

namespace Schema

open Files (Place Tree)

deriving instance DecidableEq for Document

/-! ## The graph of documents -/

/-- The document in the file at a place. -/
def documentAt? (tree : Tree) (place : Place) : Option Document :=
  match tree.root.at? place with
  | some (.file content) =>
      (Text.ofBytes? content).bind fun text => (Document.parse text).toOption
  | _ => none

/-- The place that a reference denotes when it is followed from `base`. -/
def denoted? (tree : Tree) (reference base : String) : Option Place :=
  (Location.resolve? reference base).bind fun location => (tree.place? location).toOption

/-- The place that a reference in a document denotes. -/
def referred? (tree : Tree) (place : Place) (reference : String) : Option Place :=
  denoted? tree reference (Files.Path.directory place.path)

/-- A document imports another one. -/
def Imports (tree : Tree) (place other : Place) : Prop :=
  ∃ document entry,
    documentAt? tree place = some document ∧ entry ∈ document.imports ∧
      referred? tree place entry.resource = some other

/-- What a document imports, in order; nothing if one of its references does not denote
a place. -/
def imports? (tree : Tree) (place : Place) : Option (List Place) := do
  let document ← documentAt? tree place
  document.imports.mapM fun entry => referred? tree place entry.resource

mutual

/-- A document has a model. -/
inductive ModelAt (tree : Tree) : Place → Model → Prop
  | mk {place : Place} {document : Document} {imported : Imported} {built : Model}
      {location : String} (read : documentAt? tree place = some document)
      (imports : ImportedAt tree place document.imports imported)
      (build : document.build place.path imported = .ok built)
      (valid : ({ built with source := some location } : Model).validate = .ok ())
      (found : tree.place? location = .ok place) :
      ModelAt tree place { built with source := some location }

/-- What a document imports are the roots of models. -/
inductive ImportedAt (tree : Tree) : Place → List Import → Imported → Prop
  | nil {place : Place} : ImportedAt tree place [] []
  | cons {place other : Place} {entry : Import} {rest : List Import} {model : Model}
      {imported : Imported} (referred : referred? tree place entry.resource = some other)
      (has : ModelAt tree other model) (others : ImportedAt tree place rest imported) :
      ImportedAt tree place (entry :: rest) ((entry.space, model.root) :: imported)

end

section

variable {tree : Tree} {place other : Place}

/-- The edges of the graph are the imports. -/
theorem mem_iff_imports {others : List Place} (all : imports? tree place = some others) :
    other ∈ others ↔ Imports tree place other := by
  rw [imports?, Option.bind_eq_bind, Option.bind_eq_some_iff] at all
  obtain ⟨document, read, all⟩ := all
  rw [mem_iff_of_mapM_eq_some all]
  constructor
  · rintro ⟨entry, member, denotes⟩
    exact ⟨document, entry, read, member, denotes⟩
  · rintro ⟨again, entry, readAgain, member, denotes⟩
    rw [read, Option.some.injEq] at readAgain
    subst readAgain
    exact ⟨entry, member, denotes⟩

/-- A document is the text of a file. -/
theorem file_of_documentAt? {document : Document}
    (read : documentAt? tree place = some document) :
    ∃ content, tree.root.at? place = some (.file content) := by
  unfold documentAt? at read
  split at read
  · exact ⟨_, by assumption⟩
  · cases read

/-- The document in the file of a text is the one that the text is parsed to. -/
theorem documentAt?_of_bytes {text : String} {document : Document}
    (file : tree.root.at? place = some (.file (Text.bytes text)))
    (parsed : Document.parse text = .ok document) : documentAt? tree place = some document := by
  rw [documentAt?, file]
  simp only [Text.ofBytes?_bytes, Option.bind_some, parsed, Except.toOption]

/-- What is read at a location is the document at its place. -/
theorem documentAt?_of_readDocument {location : String} {document : Document}
    (read : readDocument tree location = .ok document) :
    ∃ place, tree.place? location = .ok place ∧ tree.canonical location = place.path ∧
      place ≠ [] ∧ documentAt? tree place = some document := by
  obtain ⟨text, found, parsed⟩ := exists_text_of_readDocument read
  obtain ⟨place, content, leads, canonical, filled, file, decoded⟩ :=
    Tree.exists_place_of_readText found
  refine ⟨place, leads, canonical, filled, ?_⟩
  rw [documentAt?, file]
  simp [decoded, parsed, Except.toOption]

/-- A reference in a document at a location denotes the place that it denotes in the
document at its place. -/
theorem denoted?_directory {location : String} {content : List UInt8}
    (walkable : place.IsWalkable) (filled : place ≠ [])
    (file : tree.root.at? place = some (.file content))
    (leads : tree.place? location = .ok place) (reference : String) :
    denoted? tree reference (Files.Path.directory location) =
      referred? tree place reference := by
  rw [referred?, denoted?, denoted?, Location.resolve?, Location.resolve?]
  have joined : tree.place? (Files.Path.join (Files.Path.directory location) reference) =
      tree.place? (Files.Path.join (Files.Path.directory place.path) reference) := by
    rw [Tree.place?_join_directory leads file,
      Tree.place?_join_directory (Tree.place?_path walkable file filled) file]
  cases Location.Locator.ofText? reference with
  | none => simp [joined]
  | some locator =>
      cases locator with
      | file path => rfl
      | other scheme =>
          dsimp only
          split
          · rfl
          · simp [joined]

end

end Schema

end FlatMessage
