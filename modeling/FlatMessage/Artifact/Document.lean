import FlatMessage.Artifact.Descriptor
import FlatMessage.Compiler.CompiledModel
import FlatMessage.Delimiter.Members

/-!
# Artifacts

The output of a compilation run is a set of documents, each in the directory of a
namespace under the destination of the run.  Every JSON document names the template
that it follows.

A compiled model always has its types described.  Its options select its binding
configuration, its codec configuration and its root factory.
-/

namespace FlatMessage.Artifact

open Compiler (CompiledModel)

/-- A document of a run. -/
structure Document where
  space : String
  fileName : String
  content : String
  deriving DecidableEq, Repr

namespace Document

/-- The directory of a document under a destination. -/
def directory (document : Document) (destination : String) : String :=
  Files.Path.join destination (Naming.directory document.space)

/-- The path of a document under a destination. -/
def path (document : Document) (destination : String) : String :=
  Files.Path.join (document.directory destination) document.fileName

/-- The JSON document of a template with the given members. -/
def ofTemplate (space fileName template : String) (members : List (String × Json)) :
    Document where
  space
  fileName
  content := (Json.objectOf (("template", .string template) :: members)).document

end Document

/-- The descriptors of the types that a model created. -/
def typesDocument (model : CompiledModel) : Document :=
  .ofTemplate model.space "types.json" "types"
    [("namespace", .string model.space), ("model", model.description.descriptor),
      ("types", .array (model.types.map Codec.CompiledType.descriptor))]

/-- The binding tree of a model. -/
def bindingDocument (model : CompiledModel) : Document :=
  .ofTemplate model.space "binding-config.json" "binding-config"
    [("model", model.description.descriptor),
      ("root", .string model.root.qualifiedName),
      ("bindings", model.bindings.descriptor)]

/-- The schema and the delimiters of a model. -/
def codecDocument (model : CompiledModel) : Document :=
  .ofTemplate model.space "codec-config.json" "codec-config"
    [("schema", .string (model.source.getD model.description.key)),
      ("delimiters", model.delimiters.toJson),
      ("root", .string model.root.qualifiedName)]

/-- The root type of a model. -/
def factoryDocument (model : CompiledModel) : Document :=
  .ofTemplate model.space (model.root.name ++ "Factory.json") "root-factory"
    [("root", .string model.root.qualifiedName),
      ("bindingPath", .string (Naming.bindingPath model.space)),
      ("model", model.description.descriptor)]

/-- The documents of a model. -/
def modelDocuments (model : CompiledModel) : List Document :=
  [typesDocument model] ++
    (if model.options.bindingConfig then [bindingDocument model] else []) ++
    (if model.options.codecConfig then [codecDocument model] else []) ++
    (if model.options.rootFactory then [factoryDocument model] else [])

/-- The list of root types of a run, one a line. -/
def classList (space : String) (classes : List String) : Document where
  space
  fileName := "classes.lst"
  content := String.join (classes.map (· ++ "\n"))

end FlatMessage.Artifact
