import FlatMessage.Codec.Type

/-!
# Registries of compiled types

A registry holds the compiled type of every container that has been compiled, in the
order of compilation.  Containers are told apart by identity, so a container that
several messages share is compiled once and all of them use the same type.

Registering a container again keeps its first type.
-/

namespace FlatMessage.Compiler

open Codec (CompiledType)
open Schema (NodeId)

/-- The compiled types of containers, in order of registration. -/
abbrev Registry :=
  List (NodeId × CompiledType)

namespace Registry

/-- The compiled type of a container. -/
def get? (registry : Registry) (id : NodeId) : Option CompiledType :=
  registry.lookup id

/-- Register the type of a container that has none. -/
def register (registry : Registry) (id : NodeId) (type : CompiledType) : Registry :=
  match registry.get? id with
  | some _ => registry
  | none => registry ++ [(id, type)]

/-- The registered types, in order. -/
def types (registry : Registry) : List CompiledType :=
  registry.map Prod.snd

/-- Registering a container never changes what is registered already. -/
theorem isPrefix_register (registry : Registry) (id : NodeId) (type : CompiledType) :
    registry <+: registry.register id type := by
  unfold register
  cases registry.get? id <;> simp

end Registry

end FlatMessage.Compiler
