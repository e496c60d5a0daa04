import FlatMessage.Interchange.Assembly
import FlatMessage.Project.Settings

/-!
# Productions

A production compiles a model set and yields documents.  The shared definitions come
first, into a namespace of their own; then every selected message, in the order of
the set and with the types of the definitions at hand; then the list of root types;
then the documents of the interchange.

Messages join an interchange only when the set has shared definitions, and there is
no interchange without a message.

A production that fails has yielded the documents of everything before the failure.
-/

namespace FlatMessage.Project

open Artifact (Document)
open Compiler (CompileError CompiledModel Options Registry Target)
open Interchange (Message)
open Schema (Model ModelSet)

/-- The segment of the namespace that shared definitions are compiled into. -/
def commonSegment : String :=
  "common"

/-- What has been compiled. -/
structure Progress where
  registry : Registry
  models : List CompiledModel
  documents : List Document
  /-- The messages of the interchange. -/
  messages : List Message

/-- Nothing is compiled. -/
def Progress.start : Progress :=
  ⟨[], [], [], []⟩

/-- The result of a production that does not fail. -/
structure Report where
  /-- The compiled models in order, shared definitions first. -/
  models : List CompiledModel
  /-- The qualified names of the root types of an interchange's messages. -/
  rootClasses : List String
  interchange : Option Interchange.Factory

/-- The first model with a name. -/
def Report.model? (report : Report) (name : String) : Option CompiledModel :=
  report.models.find? fun model => model.description.name = name

/-- The documents of a production and its result. -/
structure Production where
  documents : List Document
  outcome : Except CompileError Report

/-- A namespace inside another one. -/
def inside (space segment : String) : String :=
  space ++ "." ++ segment

namespace Progress

/-- Compile a model and add its documents. -/
def addModel (progress : Progress) (target : Target) (model : Model) :
    Except CompileError (CompiledModel × Progress) :=
  match Compiler.compile target model progress.registry with
  | (.error error, _) => .error error
  | (.ok compiled, registry) =>
      .ok
        (compiled,
          { progress with
            registry
            models := progress.models ++ [compiled]
            documents := progress.documents ++ Artifact.modelDocuments compiled })

/-- Compile the shared definitions, if there are any. -/
def addDefinitions (progress : Progress) (settings : Settings) (set : ModelSet) :
    Except CompileError Progress :=
  match set.definitions? with
  | none => .ok progress
  | some definitions => do
      let target : Target :=
        { space := inside settings.space commonSegment
          options :=
            { Options.definitions with flushSegments := settings.flushSegments } }
      let (_, progress) ← progress.addModel target definitions
      .ok progress

/-- Compile a message, and let it join the interchange if there is one. -/
def addMessage (progress : Progress) (settings : Settings) (hasInterchange : Bool)
    (model : Model) : Except CompileError Progress := do
  let name := model.description.name
  match Naming.namespaceSegment name with
  | .error illegal => .error (.illegalName illegal)
  | .ok segment => do
      let space := inside settings.space segment
      let options :=
        if hasInterchange then Options.interchangeMessage else Options.standalone
      let (compiled, progress) ← progress.addModel
        { space, options := { options with flushSegments := settings.flushSegments } }
        model
      if hasInterchange then
        let message : Message :=
          { name, bindingPath := Naming.bindingPath space, model := compiled }
        .ok { progress with messages := progress.messages ++ [message] }
      else .ok progress

/-- Compile messages one after the other, up to the first failure. -/
def addMessages (progress : Progress) (settings : Settings) (hasInterchange : Bool) :
    List Model → Except CompileError Unit × Progress
  | [] => (.ok (), progress)
  | model :: rest =>
      match progress.addMessage settings hasInterchange model with
      | .error error => (.error error, progress)
      | .ok progress => progress.addMessages settings hasInterchange rest

/-- Add the list of root types and assemble the interchange. -/
def finish (progress : Progress) (settings : Settings)
    (interchange : Option Schema.InterchangeProperties) : Production :=
  let rootClasses := progress.messages.map Message.rootType
  let documents :=
    progress.documents ++ [Artifact.classList settings.space rootClasses]
  let report : Report := ⟨progress.models, rootClasses, none⟩
  match interchange with
  | none => ⟨documents, .ok report⟩
  | some properties =>
      if progress.messages.isEmpty then ⟨documents, .ok report⟩
      else
        match Interchange.assemble properties settings.space progress.messages with
        | .error error => ⟨documents, .error error⟩
        | .ok (factory, more) =>
            ⟨documents ++ more, .ok { report with interchange := some factory }⟩

end Progress

/-- The interchange standard that a set's messages are compiled for. -/
def interchangeOf (set : ModelSet) : Option Schema.InterchangeProperties :=
  set.definitions?.bind fun _ => set.interchange

/-- The messages of a set that the settings select. -/
def selectedMessages (settings : Settings) (set : ModelSet) : List Model :=
  set.messages.filter fun model => settings.selects model.description.name

/-- Compile a model set. -/
def produce (settings : Settings) (set : ModelSet) : Production :=
  let interchange := interchangeOf set
  match Progress.start.addDefinitions settings set with
  | .error error => ⟨[], .error error⟩
  | .ok progress =>
      match
        progress.addMessages settings interchange.isSome
          (selectedMessages settings set)
      with
      | (.error error, progress) => ⟨progress.documents, .error error⟩
      | (.ok (), progress) => progress.finish settings interchange

end FlatMessage.Project
