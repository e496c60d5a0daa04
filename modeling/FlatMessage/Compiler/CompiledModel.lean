import FlatMessage.Compiler.BindingTree
import FlatMessage.Compiler.CompileError
import FlatMessage.Compiler.Registry
import FlatMessage.Naming.Scope
import FlatMessage.Schema.Build

/-!
# Compiled models

Compiling a model gives every container of its tree a type, children before their
parents, except for containers that are registered already.  Type names are unique
among the types of one compilation, and property names among the properties of one
type.

A segment with fields writes its code before its body and the segment terminator
after it; a segment without fields only passes its nested segments on.  The first
slot of a body has a delimiter before it only where a code comes first.

A compilation that fails keeps the types that were registered before the failure.
-/

namespace FlatMessage.Compiler

open Codec (CompiledType Layout Property Step)
open Delimiter (Level)
open Naming (Scope)
open Schema (Child Container ContainerKind Model Node)

/-- Which documents are produced for a compiled model, and how it writes. -/
structure Options where
  bindingConfig : Bool
  codecConfig : Bool
  rootFactory : Bool
  /-- Whether the destination is flushed after every segment terminator. -/
  flushSegments : Bool
  deriving DecidableEq, Repr

namespace Options

/-- A message on its own gets every document. -/
def standalone : Options :=
  ⟨true, true, true, false⟩

/-- Shared definitions only have their types described. -/
def definitions : Options :=
  ⟨false, false, false, false⟩

/-- A message of an interchange leaves codec and factory to the interchange. -/
def interchangeMessage : Options :=
  ⟨true, false, false, false⟩

end Options

/-- What a model is compiled into. -/
structure Target where
  space : String
  options : Options
  deriving DecidableEq, Repr

/-- The state of a compilation. -/
structure Session where
  registry : Registry
  /-- The type names that are taken. -/
  names : Scope

/-- A part of a compilation.  Its state outlives a failure. -/
abbrev Compilation :=
  ExceptT CompileError (StateM Session)

/-- Claim the type name of a container. -/
def claimTypeName (nodeName : String) : Compilation String := do
  match Naming.typeIdentifier nodeName with
  | .error illegal => throw (.illegalName illegal)
  | .ok identifier => do
      let session ← get
      let (name, names) := session.names.claim identifier ""
      set { session with names }
      return name

/-- Register the type of a container. -/
def register (id : Schema.NodeId) (type : CompiledType) : Compilation Unit :=
  modify fun session => { session with registry := session.registry.register id type }

/-- The name of a property, unique in a scope. -/
def claimProperty (scope : Scope) (nodeName : String) :
    Compilation (String × Scope) :=
  match Naming.propertyIdentifier nodeName with
  | .error illegal => throw (.illegalName illegal)
  | .ok identifier => return scope.claim identifier "_"

/-- The binding of a value leaf. -/
def bindValue (value : Schema.ValueNode) : Compilation Codec.Binding :=
  match value.dataType with
  | none => return .scalar ⟨none, value.options, none⟩
  | some dataType =>
      match Encoder.build dataType value.options with
      | .ok encoder => return .scalar ⟨some dataType, value.options, some encoder⟩
      | .error error => throw (.declaration error)

/-- Whether the segment code of a container is written. -/
def writesCode (kind : ContainerKind) (children : List Child) : Bool :=
  kind = .segment && !children.isEmpty

/-- The layout of a container whose steps are compiled. -/
def layoutOf (options : Options) (kind : ContainerKind) (code : Option String)
    (truncatable : Bool) (children : List Child) (body segments : List Step) :
    Layout :=
  let coded := writesCode kind children
  { code := if coded then code else none
    body
    truncateAt :=
      if truncatable && !children.isEmpty then kind.childLevel? else none
    terminator := if coded then some .segment else none
    flush := coded && options.flushSegments
    segments }

mutual

/-- Compile a container, unless it is registered. -/
def compileContainer (target : Target) (container : Container) :
    Compilation CompiledType :=
  match container with
  | ⟨id, kind, name, code, truncatable, _, children, segments⟩ => do
      match (← get).registry.get? id with
      | some type => return type
      | none => do
          let typeName ← claimTypeName name
          let leading :=
            if writesCode kind children then kind.childLevel? else none
          let (body, scope) ←
            match kind.childLevel? with
            | some level => compileChildren target leading level [] children
            | none => pure ([], [])
          let (nested, _) ← compileSegments target scope segments
          let type : CompiledType :=
            { name := typeName
              space := target.space
              nodeName := name
              kind
              layout :=
                layoutOf target.options kind code truncatable children body nested }
          register id type
          return type
termination_by structural container

/-- Compile delimited children into steps.  `leading` is the level whose delimiter
comes before the first of them. -/
def compileChildren (target : Target) (leading : Option Level) (level : Level)
    (scope : Scope) (children : List Child) : Compilation (List Step × Scope) :=
  match children with
  | [] => return ([], scope)
  | child :: rest => do
      let (property, scope) ← compileChild target scope child
      let (steps, scope) ← compileChildren target (some level) level scope rest
      return (⟨property, leading, some level⟩ :: steps, scope)
termination_by structural children

/-- Compile nested segments into steps. -/
def compileSegments (target : Target) (scope : Scope) (segments : List Child) :
    Compilation (List Step × Scope) :=
  match segments with
  | [] => return ([], scope)
  | child :: rest => do
      let (property, scope) ← compileChild target scope child
      let (steps, scope) ← compileSegments target scope rest
      return (⟨property, none, none⟩ :: steps, scope)
termination_by structural segments

/-- Compile a child into a property. -/
def compileChild (target : Target) (scope : Scope) (child : Child) :
    Compilation (Property × Scope) :=
  match child with
  | ⟨occurs, node⟩ => do
      let (name, scope) ← claimProperty scope node.name
      let binding ← compileBinding target node
      return (⟨name, node.name, occurs, binding⟩, scope)
termination_by structural child

/-- Compile the node of a child into the binding of its property. -/
def compileBinding (target : Target) (node : Node) : Compilation Codec.Binding :=
  match node with
  | .value content => bindValue content
  | .container content => do return .bean (← compileContainer target content)
termination_by structural node

end

/-- Compile the root of a model; a leaf has no type. -/
def compileRoot (target : Target) : Node → Compilation CompiledType
  | .container content => compileContainer target content
  | .value content => throw (.parse (.structural (.valueAsType content.name)))

/-- A compiled model. -/
structure CompiledModel where
  description : Schema.Description
  space : String
  delimiters : Delimiter.Table
  root : CompiledType
  /-- The types that this compilation created, in order of creation. -/
  types : List CompiledType
  options : Options
  /-- The location that the model was read from. -/
  source : Option String

namespace CompiledModel

/-- The binding tree of a model. -/
def bindings (model : CompiledModel) : BindingTree :=
  .ofType model.root

end CompiledModel

/-- Compile a model with the types that are registered, and return the registry after
the compilation. -/
def compile (target : Target) (model : Model) (registry : Registry) :
    Except CompileError CompiledModel × Registry :=
  match Naming.checkNamespace target.space with
  | .error illegal => (.error (.illegalName illegal), registry)
  | .ok () =>
      match (compileRoot target model.root).run.run ⟨registry, []⟩ with
      | (.error error, session) => (.error error, session.registry)
      | (.ok root, session) =>
          (.ok
            { description := model.description
              space := target.space
              delimiters := model.delimiters
              root
              types := Registry.types (session.registry.drop registry.length)
              options := target.options
              source := model.source },
            session.registry)

end FlatMessage.Compiler
