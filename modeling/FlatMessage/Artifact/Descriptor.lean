import FlatMessage.Compiler.BindingTree
import FlatMessage.Encoder.Options
import FlatMessage.Json.Printer
import FlatMessage.Schema.Model

/-!
# Descriptors

A descriptor is the JSON form of something compiled: of a type with its properties,
of a binding tree, or of a model's name and version.  Members that say nothing are
left out, but a maximum without bound is null.
-/

namespace FlatMessage

/-- A member, if it is there. -/
def Json.member? (name : String) : Option Json → List (String × Json)
  | some value => [(name, value)]
  | none => []

/-- The name and version of a message. -/
def Schema.Description.descriptor (description : Schema.Description) : Json :=
  .objectOf
    [("name", .string description.name), ("version", .string description.version)]

/-- The bounds of occurrences as members. -/
def Schema.Occurs.members (occurs : Schema.Occurs) : List (String × Json) :=
  [("min_occurs", .natural occurs.min),
    ("max_occurs", (occurs.max.map Json.natural).getD .null)]

namespace Codec

/-- What the values of a property are, as members. -/
def Binding.members : Binding → List (String × Json)
  | .bean type => [("type", .string type.qualifiedName)]
  | .scalar binding =>
      Json.member? "data_type"
          (binding.dataType.map fun dataType => .string dataType.name) ++
        Json.member? "encoder_options"
          (if binding.options.isEmpty then none else some binding.options.toJson)

/-- The descriptor of a property. -/
def Property.descriptor (property : Property) : Json :=
  .objectOf <|
    [("name", .string property.name), ("node", .string property.nodeName)] ++
      property.occurs.members ++ property.binding.members

/-- The descriptor of a type. -/
def CompiledType.descriptor (type : CompiledType) : Json :=
  .objectOf <|
    [("name", .string type.name), ("fqn", .string type.qualifiedName),
      ("node", .string type.nodeName), ("kind", .string type.kind.name),
      ("truncatable", .boolean type.layout.truncates),
      ("properties", .array (type.properties.map Property.descriptor))] ++
      Json.member? "segment_code" (type.layout.code.map .string)

end Codec

namespace Compiler

/-- The members of a binding. -/
def Binding.members (binding : Binding) : List (String × Json) :=
  ("node", .string binding.nodeName) ::
    (Json.member? "property" (binding.property.map .string) ++
      Json.member? "type" (binding.typeName.map .string) ++
      binding.occurs.members)

namespace BindingTree

mutual

/-- The descriptor of a binding tree. -/
def descriptor : BindingTree → Json
  | node binding [] => .objectOf binding.members
  | node binding (child :: rest) =>
      .objectOf <|
        ("children", .array (child.descriptor :: descriptors rest)) ::
          binding.members

/-- The descriptors of binding trees. -/
def descriptors : List BindingTree → List Json
  | [] => []
  | tree :: rest => tree.descriptor :: descriptors rest

end

end BindingTree

end Compiler

end FlatMessage
