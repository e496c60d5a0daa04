import FlatMessage.Delimiter.Table
import FlatMessage.Schema.Node

/-!
# Models and model sets

A model is the schema tree of one message with its name, version and delimiter
table.  Models are kept apart by their key, the name and the version joined by a
colon.  One reserved name and version marks the model that holds definitions
shared by the messages of a set.

A set keeps its models in the order in which they were inserted and refuses a
second model of one key.
-/

namespace FlatMessage.Schema

/-- The name and version of a message. -/
structure Description where
  name : String
  version : String
  deriving DecidableEq, Repr, Inhabited

namespace Description

/-- The key of a name and version. -/
def key (description : Description) : String :=
  description.name ++ ":" ++ description.version

/-- The name and version of the definitions model. -/
def definitions : Description :=
  ⟨"__modelset_definitions", "local"⟩

/-- Whether this names the definitions model. -/
def isDefinitions (description : Description) : Bool :=
  description = definitions

end Description

/-- The interchange standard of a model set. -/
structure InterchangeProperties where
  type : String
  version : String
  deriving DecidableEq, Repr

/-- The schema of one message. -/
structure Model where
  description : Description
  delimiters : Delimiter.Table
  root : Node
  /-- The location the model was read from. -/
  source : Option String

namespace Model

/-- The key of a model. -/
def key (model : Model) : String :=
  model.description.key

/-- Whether a model holds the shared definitions. -/
def isDefinitions (model : Model) : Bool :=
  model.description.isDefinitions

end Model

/-- The models of one run, in order of insertion. -/
structure ModelSet where
  models : List Model
  interchange : Option InterchangeProperties

namespace ModelSet

/-- The set without models. -/
def empty : ModelSet :=
  ⟨[], none⟩

/-- The model with a key. -/
def get? (set : ModelSet) (key : String) : Option Model :=
  set.models.find? fun model => model.key = key

/-- Add a model after the others; `none` when its key is taken. -/
def insert? (set : ModelSet) (model : Model) : Option ModelSet :=
  match set.get? model.key with
  | some _ => none
  | none => some { set with models := set.models ++ [model] }

/-- The model of shared definitions. -/
def definitions? (set : ModelSet) : Option Model :=
  set.get? Description.definitions.key

/-- The models that are messages. -/
def messages (set : ModelSet) : List Model :=
  set.models.filter (!·.isDefinitions)

/-- Whether the set belongs to an interchange standard. -/
def isInterchange (set : ModelSet) : Bool :=
  set.interchange.isSome

end ModelSet

end FlatMessage.Schema
