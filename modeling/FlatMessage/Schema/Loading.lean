import FlatMessage.Files.Tree
import FlatMessage.Location.Resolve
import FlatMessage.Schema.Build
import FlatMessage.Schema.LoadError
import FlatMessage.Schema.Manifest

/-!
# Loading model sets

A model set is loaded from a manifest or from a single document.  A document is added
to the set after the documents it imports, in the order of its imports, and only once
however often it is imported.  A document that is met again while it is being loaded
makes the loading fail.

Documents are told apart by the canonical form of their location.  References are
followed from the directory of the document that holds them.
-/

namespace FlatMessage.Schema

open Files (Tree)

/-- What has been loaded. -/
structure Loading where
  set : ModelSet
  /-- The interchange standard that a document declares. -/
  declared : Option InterchangeProperties
  /-- The roots of the loaded documents under their canonical locations. -/
  loaded : List (String × Node)

namespace Loading

/-- Nothing is loaded. -/
def start : Loading :=
  ⟨.empty, none, []⟩

/-- Add the model of a document. -/
def add (loading : Loading) (key : String) (document : Document) (model : Model) :
    Except LoadError (Node × Loading) :=
  match model.validate with
  | .error fault => .error (.invalid fault)
  | .ok () =>
      match loading.set.insert? model with
      | none => .error (.duplicateModel model.key)
      | some set =>
          .ok
            (model.root,
              { set
                declared := loading.declared.or document.interchange
                loaded := (key, model.root) :: loading.loaded })

/-- The model set of what is loaded.  An interchange standard that a document
declares counts when the manifest gives none. -/
def finish (loading : Loading) : ModelSet :=
  { loading.set with
    interchange := loading.set.interchange.or loading.declared }

end Loading

/-- The text at a location. -/
def readAt (tree : Tree) (location : String) : Except LoadError String :=
  match tree.readText location with
  | .ok text => .ok text
  | .error failure => .error (.unreadable location failure)

/-- Report a fault of the document at a location. -/
def inDocument {α : Type} (location : String) :
    Except ParseError α → Except LoadError α
  | .ok value => .ok value
  | .error error => .error (.document location error)

/-- The location that a reference denotes. -/
def locate (reference base : String) : Except LoadError String :=
  match Location.resolve? reference base with
  | some location => .ok location
  | none => .error (.unsupportedLocation reference)

/-- Load imports one after the other. -/
def loadImports
    (load : String → Loading → Except LoadError (Node × Loading)) (base : String) :
    List Import → Loading → Except LoadError (Imported × Loading)
  | [], loading => .ok ([], loading)
  | entry :: rest, loading => do
      let location ← locate entry.resource base
      let (root, loading) ← load location loading
      let (imported, loading) ← loadImports load base rest loading
      .ok ((entry.space, root) :: imported, loading)

/-- Load the document at a location after its imports.  `pending` are the documents that
are being loaded, outermost first.  They are distinct files, so there are never more
of them than files; `depth` bounds how many more there can be. -/
def loadDocument (tree : Tree) :
    Nat → List String → String → Loading → Except LoadError (Node × Loading)
  | 0, pending, location, _ =>
      .error (.circular (pending ++ [tree.canonical location]))
  | depth + 1, pending, location, loading =>
      let key := tree.canonical location
      match loading.loaded.lookup key with
      | some root => .ok (root, loading)
      | none =>
          if pending.contains key then .error (.circular (pending ++ [key]))
          else do
            let text ← readAt tree location
            let document ← inDocument location (Document.parse text)
            let (imported, loading) ←
              loadImports (loadDocument tree depth (pending ++ [key]))
                (Files.Path.directory location) document.imports loading
            let model ← inDocument location (document.build key imported)
            loading.add key document { model with source := some location }

/-- A bound on the number of documents that can be loaded inside each other. -/
def depthBound (tree : Tree) : Nat :=
  tree.root.fileCount + 1

/-- Load the documents of a manifest one after the other. -/
def loadEntries (tree : Tree) (base : String) :
    List String → Loading → Except LoadError Loading
  | [], loading => .ok loading
  | reference :: rest, loading => do
      let location ← locate reference base
      let (_, loading) ← loadDocument tree (depthBound tree) [] location loading
      loadEntries tree base rest loading

/-- Load the manifest at a location. -/
def loadManifest (tree : Tree) (location : String) : Except LoadError Loading := do
  let text ← readAt tree location
  match Manifest.ofText? text with
  | none => .error (.malformedManifest location)
  | some manifest =>
      loadEntries tree (Files.Path.directory location) manifest.documents
        { Loading.start with
          set := { ModelSet.empty with interchange := manifest.interchange } }

/-- Whether a location is that of a manifest. -/
def isManifest (location : String) : Bool :=
  Files.Path.extension? location = some "toml"

/-- Load the model set that a reference denotes when it is followed from `base`. -/
def ModelSet.load (tree : Tree) (reference base : String) :
    Except LoadError ModelSet := do
  let location ← locate reference base
  if isManifest location then
    (loadManifest tree location).map Loading.finish
  else do
    let (_, loading) ←
      loadDocument tree (depthBound tree) [] location Loading.start
    .ok loading.finish

end FlatMessage.Schema
