import FlatMessage.Encoder
import FlatMessage.Schema.Node

/-!
# Compiled types

A compiled type is what a schema container becomes: a name in a namespace and a
layout, the ordered steps that write a bean of the type.  Each step writes one
property, whose values are either scalars with an encoder or beans of another
compiled type.

Delimiters occur in a layout only as levels.
-/

namespace FlatMessage.Codec

open Delimiter (Level)

/-- How the scalar values of a property are written. -/
structure ScalarBinding where
  dataType : Option Encoder.DataType
  options : Encoder.Options
  encoder : Option Encoder
  deriving DecidableEq, Repr

mutual

/-- A compiled type. -/
structure CompiledType where
  name : String
  space : String
  /-- The name of the container it was compiled from. -/
  nodeName : String
  kind : Schema.ContainerKind
  layout : Layout

/-- The steps that write a bean. -/
structure Layout where
  /-- The segment code that comes first. -/
  code : Option String
  /-- The delimited children. -/
  body : List Step
  /-- The level at which the body is truncated, if it is. -/
  truncateAt : Option Level
  /-- The level whose delimiter follows the body. -/
  terminator : Option Level
  /-- Whether the destination is flushed after the terminator. -/
  flush : Bool
  /-- The nested segments. -/
  segments : List Step

/-- The writing of one property. -/
structure Step where
  property : Property
  /-- The level whose delimiter comes before the first slot. -/
  leading : Option Level
  /-- The level whose delimiter comes before every further slot; absent for
  nested segments, which have no slots. -/
  level : Option Level

/-- A property of a compiled type. -/
structure Property where
  name : String
  /-- The name of the schema node it was derived from. -/
  nodeName : String
  occurs : Schema.Occurs
  binding : Binding

/-- What the values of a property are. -/
inductive Binding
  | scalar (binding : ScalarBinding)
  | bean (type : CompiledType)

end

/-- The steps of a layout: the body, then the nested segments. -/
def Layout.steps (layout : Layout) : List Step :=
  layout.body ++ layout.segments

/-- Whether a layout drops empty slots at the end of its body. -/
def Layout.truncates (layout : Layout) : Bool :=
  layout.truncateAt.isSome

/-- The type that a property's beans belong to. -/
def Property.beanType? (property : Property) : Option CompiledType :=
  match property.binding with
  | .bean type => some type
  | .scalar _ => none

namespace CompiledType

/-- The name of a type with its namespace. -/
def qualifiedName (type : CompiledType) : String :=
  type.space ++ "." ++ type.name

/-- The properties of a type in writing order. -/
def properties (type : CompiledType) : List Property :=
  type.layout.steps.map Step.property

/-- The property with a name. -/
def property? (type : CompiledType) (name : String) : Option Property :=
  type.properties.find? fun property => property.name = name

/-- Follow the names of properties through the types of beans to the last one. -/
def follow? (type : CompiledType) : List String → Option Property
  | [] => none
  | [name] => type.property? name
  | name :: rest =>
      match (type.property? name).bind Property.beanType? with
      | some inner => inner.follow? rest
      | none => none

end CompiledType

end FlatMessage.Codec
