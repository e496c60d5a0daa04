import FlatMessage.Proofs.Objects.Heap

/-!
# Making type objects

Compiling makes a type object for every container that has none.  The registry consists
of a list of entries and an index that gives the position of a container's entry; a
session keeps the references to the objects that it has made.  An object is made once
everything inside its container is compiled; then it is registered and noted.

A compilation that fails keeps the objects and the entries made before the failure.
-/

namespace FlatMessage.Compiler.Objects

open Delimiter (Level)
open Naming (Scope)
open Schema (Child Container Model Node NodeId)

/-- The type objects, and the registry of references to them. -/
structure Store where
  heap : Heap
  /-- Containers and the objects made for them, in order of registration. -/
  entries : List (NodeId × Nat)
  /-- The position of every container's entry. -/
  index : List (NodeId × Nat)

namespace Store

/-- Nothing is made. -/
def empty : Store :=
  ⟨[], [], []⟩

/-- The reference that is registered for a container. -/
def get? (store : Store) (id : NodeId) : Option Nat :=
  (store.index.lookup id).bind fun position => store.entries[position]?.map Prod.snd

/-- Register an object for a container that has none. -/
def register (store : Store) (id : NodeId) (reference : Nat) : Store :=
  match store.index.lookup id with
  | some _ => store
  | none =>
      { store with
        entries := store.entries ++ [(id, reference)]
        index := store.index ++ [(id, store.entries.length)] }

end Store

/-- The state of a compilation. -/
structure MakingSession where
  store : Store
  /-- The type names that are taken. -/
  names : Scope
  /-- The objects made in this session. -/
  created : List Nat

/-- A part of a compilation that makes type objects.  Its state outlives a failure. -/
abbrev Making :=
  ExceptT CompileError (StateM MakingSession)

/-- Claim the type name of a container. -/
def claimTypeName (nodeName : String) : Making String := do
  match Naming.typeIdentifier nodeName with
  | .error illegal => throw (.illegalName illegal)
  | .ok identifier => do
      let session ← get
      let (name, names) := session.names.claim identifier ""
      set { session with names }
      return name

/-- Make a type object. -/
def make (object : TypeObject) : Making Nat := do
  let session ← get
  set { session with store := { session.store with heap := session.store.heap ++ [object] } }
  return session.store.heap.length

/-- Register the type object of a container, and note that it was made. -/
def register (id : NodeId) (reference : Nat) : Making Unit :=
  modify fun session =>
    { session with
      store := session.store.register id reference
      created := session.created ++ [reference] }

/-- The name of a property, unique in a scope. -/
def claimProperty (scope : Scope) (nodeName : String) : Making (String × Scope) :=
  match Naming.propertyIdentifier nodeName with
  | .error illegal => throw (.illegalName illegal)
  | .ok identifier => return scope.claim identifier "_"

/-- What the values of a leaf are bound to. -/
def bindValue (value : Schema.ValueNode) : Making Bound :=
  match value.dataType with
  | none => return .scalar ⟨none, value.options, none⟩
  | some dataType =>
      match Encoder.build dataType value.options with
      | .ok encoder => return .scalar ⟨some dataType, value.options, some encoder⟩
      | .error error => throw (.declaration error)

mutual

/-- The type object of a container, which is made unless it is registered. -/
def makeContainer (target : Target) (container : Container) : Making Nat :=
  match container with
  | ⟨id, kind, name, code, truncatable, _, children, segments⟩ => do
      match (← get).store.get? id with
      | some reference => return reference
      | none => do
          let typeName ← claimTypeName name
          let leading :=
            if writesCode kind children then kind.childLevel? else none
          let (body, scope) ←
            match kind.childLevel? with
            | some level => makeChildren target leading level [] children
            | none => pure ([], [])
          let (nested, _) ← makeSegments target scope segments
          let reference ← make
            { name := typeName
              space := target.space
              nodeName := name
              kind
              frame := layoutOf target.options kind code truncatable children [] []
              body
              segments := nested }
          register id reference
          return reference
termination_by structural container

/-- The slots of delimited children.  `leading` is the level whose delimiter comes
before the first of them. -/
def makeChildren (target : Target) (leading : Option Level) (level : Level)
    (scope : Scope) (children : List Child) : Making (List Slot × Scope) :=
  match children with
  | [] => return ([], scope)
  | child :: rest => do
      let (property, scope) ← makeChild target scope child
      let (slots, scope) ← makeChildren target (some level) level scope rest
      return (⟨property, leading, some level⟩ :: slots, scope)
termination_by structural children

/-- The slots of nested segments. -/
def makeSegments (target : Target) (scope : Scope) (segments : List Child) :
    Making (List Slot × Scope) :=
  match segments with
  | [] => return ([], scope)
  | child :: rest => do
      let (property, scope) ← makeChild target scope child
      let (slots, scope) ← makeSegments target scope rest
      return (⟨property, none, none⟩ :: slots, scope)
termination_by structural segments

/-- The property of a child. -/
def makeChild (target : Target) (scope : Scope) (child : Child) :
    Making (ObjectProperty × Scope) :=
  match child with
  | ⟨occurs, node⟩ => do
      let (name, scope) ← claimProperty scope node.name
      let bound ← makeBound target node
      return (⟨name, node.name, occurs, bound⟩, scope)
termination_by structural child

/-- What the values of a node's property are bound to. -/
def makeBound (target : Target) (node : Node) : Making Bound :=
  match node with
  | .value content => bindValue content
  | .container content => do return .object (← makeContainer target content)
termination_by structural node

end

/-- The type object of the root of a model; a leaf has no type. -/
def makeRoot (target : Target) : Node → Making Nat
  | .container content => makeContainer target content
  | .value content => throw (.parse (.structural (.valueAsType content.name)))

/-- What a successful compilation refers to. -/
structure Made where
  root : Nat
  /-- The objects that the compilation made, in order. -/
  types : List Nat

/-- Compile a model with the type objects in a store, and return the store after the
compilation. -/
def Store.compile (target : Target) (model : Model) (store : Store) :
    Except CompileError Made × Store :=
  match Naming.checkNamespace target.space with
  | .error illegal => (.error (.illegalName illegal), store)
  | .ok () =>
      match (makeRoot target model.root).run.run ⟨store, [], []⟩ with
      | (.error error, session) => (.error error, session.store)
      | (.ok root, session) => (.ok ⟨root, session.created⟩, session.store)

end FlatMessage.Compiler.Objects
