import FlatMessage.Project.Production
import FlatMessage.Schema.Loading

/-!
# Runs

A run makes its destination, loads a model set, compiles it and writes the documents.
It stops at the first failure and leaves in place what it has written.
-/

namespace FlatMessage.Project

open Artifact (Document)
open Compiler (CompileError)
open Files (FileError Tree)

/-- Write one document under a destination. -/
def writeDocument (tree : Tree) (destination : String) (document : Document) :
    Except FileError Unit × Tree :=
  match tree.makeDirectories (document.directory destination) with
  | (.error failure, tree) => (.error failure, tree)
  | (.ok (), tree) =>
      match tree.writeFile (document.path destination) (Text.bytes document.content) with
      | .error failure => (.error failure, tree)
      | .ok tree => (.ok (), tree)

/-- Write documents one after the other, up to the first failure. -/
def writeDocuments (tree : Tree) (destination : String) :
    List Document → Except FileError Unit × Tree
  | [] => (.ok (), tree)
  | document :: rest =>
      match writeDocument tree destination document with
      | (.error failure, tree) => (.error failure, tree)
      | (.ok (), tree) => writeDocuments tree destination rest

/-- Write the documents of a production. -/
def deliver (tree : Tree) (destination : String) (production : Production) :
    Except CompileError Report × Tree :=
  match writeDocuments tree destination production.documents with
  | (.error failure, tree) => (.error (.files failure), tree)
  | (.ok (), tree) => (production.outcome, tree)

/-- What a run has done. -/
structure Completion where
  report : Report
  /-- The paths of the documents, in the order of writing. -/
  paths : List String

/-- Make the destination of a run, unless a file is in its place. -/
def makeDestination (tree : Tree) (destination : String) :
    Except CompileError Unit × Tree :=
  if tree.exists? destination && !tree.isDirectory destination then
    (.error (.destinationNotDirectory destination), tree)
  else
    match tree.makeDirectories destination with
    | (.error failure, tree) => (.error (.files failure), tree)
    | (.ok (), tree) => (.ok (), tree)

/-- Carry out a run. -/
def run (tree : Tree) (settings : Settings) : Except CompileError Completion × Tree :=
  match makeDestination tree settings.destination with
  | (.error error, tree) => (.error error, tree)
  | (.ok (), tree) =>
      match Schema.ModelSet.load tree settings.schema settings.base with
      | .error error => (.error (.load error), tree)
      | .ok set =>
          let production := produce settings set
          let (outcome, tree) := deliver tree settings.destination production
          let paths := production.documents.map fun document =>
            document.path settings.destination
          (outcome.map fun report => ⟨report, paths⟩, tree)

end FlatMessage.Project
