import FlatMessage.Proofs.Common.References
import FlatMessage.Proofs.Objects.History

/-!
# Bindings along addresses

The properties of type objects stand in the order of the children that they come from, and
so do the properties of the compiled types that the objects are read as.  So one address
leads to a node in a tree, to what the property that comes from it is bound to in a heap,
and to the binding of that property in a compiled type.
-/

namespace FlatMessage

open Compiler (Address)

/-- The binding that an address leads to. -/
def Codec.Binding.at? (binding : Codec.Binding) : Address → Option Codec.Binding
  | [] => some binding
  | position :: rest =>
      match binding with
      | .scalar _ => none
      | .bean type => type.properties[position]?.bind fun property => property.binding.at? rest

namespace Compiler.Objects

open Codec (CompiledType)
open Schema (Container Node NodeId)

/-- What an address leads to from what a property is bound to. -/
def Heap.at? (heap : Heap) (bound : Bound) : Address → Option Bound
  | [] => some bound
  | position :: rest =>
      match bound with
      | .scalar _ => none
      | .object reference => do
          let object ← heap[reference]?
          let property ← object.properties[position]?
          Heap.at? heap property.bound rest

/-- A property that comes from a node is bound to scalars, or to the object that is
registered for the node. -/
def Bound.IsOf (store : Store) (bound : Bound) (node : Node) : Prop :=
  match node with
  | .value _ => ∃ binding, bound = .scalar binding
  | .container content =>
      ∃ reference, store.get? content.id = some reference ∧ bound = .object reference

section

variable {identities : NodeId → Option Container} {store : Store} {registry : Registry}

/-- What a property is bound to leads to the objects of the nodes inside its own. -/
theorem Aligned.exists_at? (aligned : Aligned identities store registry) {node inner : Node}
    (stored : node.StoredIn identities) {bound : Bound} (isOf : bound.IsOf store node)
    {address : Address} (found : node.at? address = some inner) :
    ∃ last, store.heap.at? bound address = some last ∧ last.IsOf store inner := by
  induction address generalizing node bound with
  | nil =>
      cases found
      exact ⟨bound, rfl, isOf⟩
  | cons position rest ih =>
      cases node with
      | value content => cases found
      | container content =>
          obtain ⟨reference, known, rfl⟩ := isOf
          obtain ⟨child, atPosition, found⟩ := Option.bind_eq_some_iff.mp found
          obtain ⟨origin, object, storedOrigin, made, objectIsOf⟩ :=
            aligned.origin _ reference known
          have self : identities content.id = some content :=
            stored content content.self_mem_containers
          rw [self, Option.some.injEq] at storedOrigin
          subst storedOrigin
          obtain ⟨length, each⟩ := List.forall₂_iff_get.mp objectIsOf.slots
          obtain ⟨within, rfl⟩ := List.getElem?_eq_some_iff.mp atPosition
          have comes := (each position (length ▸ within) within).2.2
          have storedChild : Node.StoredIn identities
              (content.children ++ content.segments)[position].node :=
            fun other member =>
              stored other (Container.containers_of_mem (List.getElem_mem within) member)
          obtain ⟨last, there, lastIsOf⟩ := ih storedChild comes found
          refine ⟨last, ?_, lastIsOf⟩
          rw [Heap.at?, made, Option.bind_eq_bind, Option.bind_some,
            List.getElem?_eq_getElem (length ▸ within)]
          exact there

end

/-- The properties of an object are read in order. -/
theorem TypeObject.forall₂_properties {types : List CompiledType} {object : TypeObject}
    {type : CompiledType} (read : object.type? types = some type) :
    List.Forall₂ (fun property result => property.property? types = some result)
      object.properties type.properties := by
  obtain ⟨body, segments, bodyRead, segmentsRead, rfl⟩ := TypeObject.type?_eq_some_iff.mp read
  rw [TypeObject.properties, CompiledType.properties, List.forall₂_map_left_iff,
    List.forall₂_map_right_iff]
  refine (List.rel_append bodyRead segmentsRead).imp fun slot step slotRead => ?_
  obtain ⟨property, propertyRead, rfl⟩ := Option.map_eq_some_iff.mp slotRead
  exact propertyRead

/-- A heap is read along addresses: what a property is bound to leads to what the property
that it is read as is bound to. -/
theorem Heap.exists_at?_of_types? {heap : Heap} {types : List CompiledType}
    (read : heap.types? = some types) {bound last : Bound} {binding : Codec.Binding}
    (readAs : bound.binding? types = some binding) {address : Address}
    (found : heap.at? bound address = some last) :
    ∃ inner, binding.at? address = some inner ∧ last.binding? types = some inner := by
  induction address generalizing bound binding with
  | nil =>
      cases found
      exact ⟨binding, rfl, readAs⟩
  | cons position rest ih =>
      cases bound with
      | scalar content => cases found
      | object reference =>
          rw [Heap.at?, Option.bind_eq_bind, Option.bind_eq_some_iff] at found
          obtain ⟨object, made, found⟩ := found
          obtain ⟨property, atPosition, found⟩ := Option.bind_eq_some_iff.mp found
          obtain ⟨type, known, rfl⟩ := Option.map_eq_some_iff.mp readAs
          obtain ⟨again, knownToo, readObject⟩ :=
            (Heap.exists_type?_of_types? read).2 reference object made
          rw [known, Option.some.injEq] at knownToo
          subst knownToo
          obtain ⟨length, each⟩ :=
            List.forall₂_iff_get.mp (TypeObject.forall₂_properties readObject)
          obtain ⟨within, rfl⟩ := List.getElem?_eq_some_iff.mp atPosition
          obtain ⟨bound, boundRead, same⟩ :=
            Option.map_eq_some_iff.mp (each position within (length ▸ within))
          obtain ⟨inner, there, innerRead⟩ :=
            ih (Bound.binding?_mono (List.take_prefix reference types) boundRead) found
          refine ⟨inner, ?_, innerRead⟩
          rw [List.get_eq_getElem, List.get_eq_getElem] at same
          rw [Codec.Binding.at?, List.getElem?_eq_getElem (length ▸ within), Option.bind_some,
            ← same]
          exact there

end Compiler.Objects

end FlatMessage
