import FlatMessage.Compiler.CompiledModel
import FlatMessage.Proofs.SoundTree
import Mathlib.Data.List.Induction

/-!
# Type objects

A compiled type holds the types of its beans as values, so two equal types cannot be
told apart.  A type object refers to the types of its beans by number instead, in the
order in which type objects are made: it says whether two properties share a type.

A heap of type objects is read as a list of compiled types, one object after the other.
It can only be read when every object refers to earlier objects alone.
-/

namespace FlatMessage.Compiler.Objects

open Codec (CompiledType Step)
open Delimiter (Level)

/-- What the values of a property are: scalars, or beans of a type object. -/
inductive Bound
  | scalar (binding : Codec.ScalarBinding)
  /-- The beans belong to the type object of that number. -/
  | object (reference : Nat)

/-- A property of a type object. -/
structure ObjectProperty where
  name : String
  nodeName : String
  occurs : Schema.Occurs
  bound : Bound

/-- The step of a type object that writes one property. -/
structure Slot where
  property : ObjectProperty
  leading : Option Level
  level : Option Level

/-- A compiled type whose beans belong to other type objects. -/
structure TypeObject where
  name : String
  space : String
  nodeName : String
  kind : Schema.ContainerKind
  /-- The layout of the type without its steps. -/
  frame : Codec.Layout
  body : List Slot
  segments : List Slot

/-- The type objects that have been made. -/
abbrev Heap :=
  List TypeObject

/-- The slots of a type object: the body, then the nested segments. -/
def TypeObject.slots (object : TypeObject) : List Slot :=
  object.body ++ object.segments

/-- The properties of a type object in writing order. -/
def TypeObject.properties (object : TypeObject) : List ObjectProperty :=
  object.slots.map Slot.property

/-! ## Reading a heap -/

/-- The binding that a property has when the objects before it are read as `types`. -/
def Bound.binding? (types : List CompiledType) : Bound → Option Codec.Binding
  | scalar binding => some (.scalar binding)
  | object reference => types[reference]?.map .bean

/-- The property that an object's property is read as. -/
def ObjectProperty.property? (types : List CompiledType) (property : ObjectProperty) :
    Option Codec.Property :=
  (property.bound.binding? types).map fun binding =>
    ⟨property.name, property.nodeName, property.occurs, binding⟩

/-- The step that a slot is read as. -/
def Slot.step? (types : List CompiledType) (slot : Slot) : Option Step :=
  (slot.property.property? types).map fun property => ⟨property, slot.leading, slot.level⟩

/-- The compiled type that an object is read as. -/
def TypeObject.type? (types : List CompiledType) (object : TypeObject) :
    Option CompiledType := do
  let body ← object.body.mapM (Slot.step? types)
  let segments ← object.segments.mapM (Slot.step? types)
  some
    { name := object.name
      space := object.space
      nodeName := object.nodeName
      kind := object.kind
      layout := { object.frame with body, segments } }

/-- The compiled types that a heap is read as. -/
def Heap.types? (heap : Heap) : Option (List CompiledType) :=
  heap.foldlM (fun types object => (object.type? types).map fun type => types ++ [type]) []

/-- An object is read when all its slots are. -/
theorem TypeObject.type?_eq_some_iff {types : List CompiledType} {object : TypeObject}
    {type : CompiledType} :
    object.type? types = some type ↔
      ∃ body segments,
        List.Forall₂ (fun slot step => slot.step? types = some step) object.body body ∧
        List.Forall₂ (fun slot step => slot.step? types = some step) object.segments
          segments ∧
        type =
          ⟨object.name, object.space, object.nodeName, object.kind,
            { object.frame with body, segments }⟩ := by
  simp only [TypeObject.type?, Option.bind_eq_bind, Option.bind_eq_some_iff,
    mapM_eq_some_iff, Option.some.injEq]
  constructor
  · rintro ⟨body, bodyRead, segments, segmentsRead, rfl⟩
    exact ⟨body, segments, bodyRead, segmentsRead, rfl⟩
  · rintro ⟨body, segments, bodyRead, segmentsRead, rfl⟩
    exact ⟨body, bodyRead, segments, segmentsRead, rfl⟩

/-- The last object is read after the others. -/
theorem Heap.types?_concat_eq_some_iff {heap : Heap} {object : TypeObject}
    {types : List CompiledType} :
    Heap.types? (heap ++ [object]) = some types ↔
      ∃ earlier type,
        heap.types? = some earlier ∧ object.type? earlier = some type ∧
          types = earlier ++ [type] := by
  rw [Heap.types?, List.foldlM_append, Option.bind_eq_bind, Option.bind_eq_some_iff]
  constructor
  · rintro ⟨earlier, read, last⟩
    rw [List.foldlM_cons, Option.bind_eq_bind, Option.bind_eq_some_iff] at last
    obtain ⟨all, last, done⟩ := last
    rw [Option.map_eq_some_iff] at last
    obtain ⟨type, last, rfl⟩ := last
    cases done
    exact ⟨earlier, type, read, last, rfl⟩
  · rintro ⟨earlier, type, read, last, rfl⟩
    exact ⟨earlier, read, by simp [last]⟩

/-- Every object is read with the types of the objects before it. -/
theorem Heap.exists_type?_of_types? {heap : Heap} {types : List CompiledType}
    (read : heap.types? = some types) :
    types.length = heap.length ∧
      ∀ (reference : Nat) (object : TypeObject), heap[reference]? = some object →
        ∃ type, types[reference]? = some type ∧
          object.type? (types.take reference) = some type := by
  induction heap using List.reverseRecOn generalizing types with
  | nil =>
      cases read
      simp
  | append_singleton heap last ih =>
      obtain ⟨earlier, type, readEarlier, readLast, rfl⟩ :=
        Heap.types?_concat_eq_some_iff.mp read
      obtain ⟨length, each⟩ := ih readEarlier
      constructor
      · simp [length]
      · intro reference object found
        rcases Nat.lt_trichotomy reference heap.length with before | rfl | after
        · rw [List.getElem?_append_left before] at found
          obtain ⟨type, there, readThere⟩ := each reference object found
          have bound : reference < earlier.length := by omega
          rw [List.getElem?_append_left bound, List.take_append_of_le_length (Nat.le_of_lt bound)]
          exact ⟨type, there, readThere⟩
        · rw [List.getElem?_concat_length, Option.some.injEq] at found
          subst found
          rw [← length, List.getElem?_concat_length,
            List.take_append_of_le_length (Nat.le_refl _), List.take_length]
          exact ⟨type, rfl, readLast⟩
        · have beyond : (heap ++ [last]).length ≤ reference := by
            simpa using Nat.succ_le_of_lt after
          rw [List.getElem?_eq_none beyond] at found
          cases found

/-- A slot that is read refers to a type that has been read. -/
theorem Slot.lt_length_of_step? {types : List CompiledType} {slot : Slot} {step : Step}
    (read : slot.step? types = some step) {reference : Nat}
    (bound : slot.property.bound = .object reference) : reference < types.length := by
  rw [Slot.step?, ObjectProperty.property?, bound, Bound.binding?, Option.map_map,
    Option.map_map, Option.map_eq_some_iff] at read
  obtain ⟨type, found, -⟩ := read
  exact (List.getElem?_eq_some_iff.mp found).1

/-- All slots of an object that is read are read. -/
theorem TypeObject.exists_step?_of_mem_slots {types : List CompiledType}
    {object : TypeObject} {type : CompiledType} (read : object.type? types = some type)
    {slot : Slot} (member : slot ∈ object.slots) :
    ∃ step, slot.step? types = some step := by
  obtain ⟨body, segments, bodyRead, segmentsRead, -⟩ := TypeObject.type?_eq_some_iff.mp read
  have slotsRead := List.rel_append bodyRead segmentsRead
  rw [List.forall₂_iff_get] at slotsRead
  obtain ⟨length, each⟩ := slotsRead
  obtain ⟨position, within, rfl⟩ := List.mem_iff_getElem.mp member
  exact ⟨_, each position within (length ▸ within)⟩

/-- In a heap that can be read every object refers to earlier objects alone. -/
theorem Heap.lt_of_mem_properties {heap : Heap} {types : List CompiledType}
    (read : heap.types? = some types) {reference other : Nat} {object : TypeObject}
    (found : heap[reference]? = some object) {property : ObjectProperty}
    (member : property ∈ object.properties) (bound : property.bound = .object other) :
    other < reference := by
  obtain ⟨type, -, readObject⟩ := (Heap.exists_type?_of_types? read).2 reference object found
  obtain ⟨slot, inSlots, rfl⟩ := List.mem_map.mp member
  obtain ⟨step, readSlot⟩ := TypeObject.exists_step?_of_mem_slots readObject inSlots
  have below := Slot.lt_length_of_step? readSlot bound
  rw [List.length_take] at below
  omega

end FlatMessage.Compiler.Objects
