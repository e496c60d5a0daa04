import FlatMessage.Proofs.Compilation
import FlatMessage.Proofs.Objects.Making
import Mathlib.Data.List.Nodup

/-!
# Two compilations side by side

The compilation that makes type objects runs in step with the one that yields compiled
types.  Their states are aligned when the heap is read as the registered types, in
order, and every registered object has a slot for each child of its container.

A part of one compilation mirrors a part of the other when it keeps the states aligned,
ends as the other one does, and only appends to what there is.
-/

namespace FlatMessage.Compiler.Objects

open Codec (CompiledType Step)
open Schema (Child Container NodeId)

/-- In a table without repeated keys a lookup finds exactly the members. -/
theorem lookup_eq_some_iff_mem {α β : Type} [DecidableEq α] {table : List (α × β)}
    (distinct : (table.map Prod.fst).Nodup) {key : α} {value : β} :
    table.lookup key = some value ↔ (key, value) ∈ table := by
  induction table with
  | nil => simp
  | cons entry rest ih =>
      obtain ⟨name, bound⟩ := entry
      rw [List.map_cons, List.nodup_cons] at distinct
      obtain ⟨fresh, distinct⟩ := distinct
      rw [List.lookup_cons]
      by_cases same : key = name
      · subst same
        have absent : (key, value) ∉ rest := by
          intro member
          exact fresh (List.mem_map.mpr ⟨_, member, rfl⟩)
        simp [absent, eq_comm]
      · have different : (key == name) = false := by simpa using same
        rw [different]
        simp [same, ih distinct]

/-- The type of a container that has none is registered after the others. -/
theorem register_of_get?_eq_none {registry : Registry} {id : NodeId}
    (absent : registry.get? id = none) (type : CompiledType) :
    registry.register id type = registry ++ [(id, type)] := by
  rw [Registry.register, absent]

/-! ## Aligned states -/

/-- A property comes from a child of a container.  If the child is a container too, the
property has beans of the object that is registered for it. -/
def ObjectProperty.ComesFrom (store : Store) (property : ObjectProperty) (child : Child) :
    Prop :=
  property.nodeName = child.node.name ∧ property.occurs = child.occurs ∧
    match child.node with
    | .value _ => ∃ binding, property.bound = .scalar binding
    | .container content =>
        ∃ reference, store.get? content.id = some reference ∧
          property.bound = .object reference

/-- A type object is that of a container. -/
structure TypeObject.IsOf (store : Store) (object : TypeObject) (container : Container) :
    Prop where
  nodeName : object.nodeName = container.name
  kind : object.kind = container.kind
  slots :
    List.Forall₂ (ObjectProperty.ComesFrom store) object.properties
      (container.children ++ container.segments)

/-- Make an object and register it for a container. -/
def Store.extend (store : Store) (id : NodeId) (object : TypeObject) : Store :=
  ({ store with heap := store.heap ++ [object] } : Store).register id store.heap.length

/-- A store of type objects is read as a registry of compiled types. -/
structure Store.ReadsAs (store : Store) (registry : Registry) : Prop where
  types : store.heap.types? = some registry.types
  entries : store.entries = (registry.map Prod.fst).zipIdx
  index : store.index = (registry.map Prod.fst).zipIdx
  distinct : (registry.map Prod.fst).Nodup

/-- A store is read as a registry, and every object in it is that of the container it
is registered for. -/
structure Aligned (identities : NodeId → Option Container) (store : Store)
    (registry : Registry) : Prop extends store.ReadsAs registry where
  origin : ∀ id reference, store.get? id = some reference →
    ∃ container object,
      identities id = some container ∧ store.heap[reference]? = some object ∧
        object.IsOf store container

namespace Store.ReadsAs

variable {store : Store} {registry : Registry}

/-- The reference of a container is the position of its entry. -/
theorem get?_eq_some_iff (reads : store.ReadsAs registry) {id : NodeId}
    {reference : Nat} :
    store.get? id = some reference ↔
      (registry.map Prod.fst)[reference]? = some id := by
  have positions : ((registry.map Prod.fst).zipIdx.map Prod.fst).Nodup := by
    rw [List.zipIdx_map_fst]
    exact reads.distinct
  rw [Store.get?, reads.index, reads.entries, Option.bind_eq_some_iff]
  simp only [lookup_eq_some_iff_mem positions, List.mk_mem_zipIdx_iff_getElem?,
    List.getElem?_zipIdx, Option.map_map, Option.map_eq_some_iff]
  constructor
  · rintro ⟨position, there, node, here, same⟩
    obtain rfl : position = reference := by simpa using same
    exact there
  · intro there
    exact ⟨reference, there, id, there, by simp⟩

/-- A compiled type is registered for a container when the container's object is read
as it. -/
theorem registry_get?_eq_some_iff (reads : store.ReadsAs registry)
    {id : NodeId} {type : CompiledType} :
    registry.get? id = some type ↔
      ∃ reference, store.get? id = some reference ∧ registry.types[reference]? = some type := by
  rw [Registry.get?, lookup_eq_some_iff_mem reads.distinct, List.mem_iff_getElem?]
  simp only [reads.get?_eq_some_iff, Registry.types, List.getElem?_map,
    Option.map_eq_some_iff]
  constructor
  · rintro ⟨reference, there⟩
    exact ⟨reference, ⟨_, there, rfl⟩, ⟨_, there, rfl⟩⟩
  · rintro ⟨reference, ⟨entry, there, rfl⟩, ⟨other, here, rfl⟩⟩
    rw [there, Option.some.injEq] at here
    subst here
    exact ⟨reference, there⟩

/-- Neither side knows a container that the other side does not know. -/
theorem registry_get?_eq_none_iff (reads : store.ReadsAs registry)
    {id : NodeId} : registry.get? id = none ↔ store.get? id = none := by
  constructor
  · intro absent
    cases found : store.get? id with
    | none => rfl
    | some reference =>
        have there := reads.get?_eq_some_iff.mp found
        rw [List.getElem?_map, Option.map_eq_some_iff] at there
        obtain ⟨entry, there, -⟩ := there
        have known : registry.get? id = some entry.2 :=
          reads.registry_get?_eq_some_iff.mpr
            ⟨reference, found, by simp [Registry.types, there]⟩
        rw [absent] at known
        cases known
  · intro absent
    cases found : registry.get? id with
    | none => rfl
    | some type =>
        obtain ⟨reference, known, -⟩ := reads.registry_get?_eq_some_iff.mp found
        rw [absent] at known
        cases known

/-- There are as many objects as registered types. -/
theorem length_heap (reads : store.ReadsAs registry) :
    store.heap.length = registry.length := by
  have length := (Heap.exists_type?_of_types? reads.types).1
  simpa [Registry.types] using length.symm

/-- A container without a reference has no entry. -/
theorem index_lookup_eq_none (reads : store.ReadsAs registry) {id : NodeId}
    (absent : store.get? id = none) : store.index.lookup id = none := by
  cases found : store.index.lookup id with
  | none => rfl
  | some position =>
      have positions : ((registry.map Prod.fst).zipIdx.map Prod.fst).Nodup := by
        rw [List.zipIdx_map_fst]
        exact reads.distinct
      rw [reads.index, lookup_eq_some_iff_mem positions,
        List.mk_mem_zipIdx_iff_getElem?, ← reads.get?_eq_some_iff, absent] at found
      cases found

/-- An object of a container that has none is entered after the others. -/
theorem extend_eq (reads : store.ReadsAs registry) {id : NodeId}
    (absent : store.get? id = none) (object : TypeObject) :
    store.extend id object =
      { heap := store.heap ++ [object]
        entries := (registry.map Prod.fst ++ [id]).zipIdx
        index := (registry.map Prod.fst ++ [id]).zipIdx } := by
  have fresh : store.index.lookup id = none := reads.index_lookup_eq_none absent
  have length : store.heap.length = registry.length := reads.length_heap
  rw [Store.extend, Store.register]
  simp only [fresh]
  simp [reads.entries, reads.index, List.zipIdx_append, length]

/-- Making and registering an object keeps a store read as the registry. -/
theorem extend (reads : store.ReadsAs registry) {id : NodeId}
    (absent : store.get? id = none) {object : TypeObject} {type : CompiledType}
    (read : object.type? registry.types = some type) :
    (store.extend id object).ReadsAs (registry ++ [(id, type)]) := by
  have unknown : id ∉ registry.map Prod.fst := by
    intro member
    obtain ⟨position, there⟩ := List.mem_iff_getElem?.mp member
    rw [← reads.get?_eq_some_iff, absent] at there
    cases there
  rw [reads.extend_eq absent]
  constructor
  · rw [Heap.types?_concat_eq_some_iff]
    exact ⟨_, type, reads.types, read, by simp [Registry.types]⟩
  · simp
  · simp
  · rw [List.map_append, List.nodup_append]
    refine ⟨reads.distinct, by simp, ?_⟩
    rintro known member _ last rfl
    rw [List.map_singleton, List.mem_singleton] at last
    subst last
    exact unknown member

/-- The new object is found under its container, and the others as before. -/
theorem get?_extend (reads : store.ReadsAs registry) {id : NodeId}
    (absent : store.get? id = none) {object : TypeObject} {type : CompiledType}
    (read : object.type? registry.types = some type) {other : NodeId} {reference : Nat} :
    (store.extend id object).get? other = some reference ↔
      store.get? other = some reference ∨ (other = id ∧ reference = store.heap.length) := by
  have length : (registry.map Prod.fst).length = store.heap.length := by
    simpa using reads.length_heap.symm
  rw [(reads.extend absent read).get?_eq_some_iff, reads.get?_eq_some_iff, List.map_append,
    List.map_singleton]
  rcases Nat.lt_trichotomy reference (registry.map Prod.fst).length with before | here | after
  · rw [List.getElem?_append_left before]
    have earlier : reference ≠ store.heap.length := by omega
    simp [earlier]
  · subst here
    rw [List.getElem?_concat_length, List.getElem?_eq_none (Nat.le_refl _)]
    simp [length, eq_comm]
  · have beyond : (registry.map Prod.fst ++ [id]).length ≤ reference := by
      simpa using Nat.succ_le_of_lt after
    have later : reference ≠ store.heap.length := by omega
    rw [List.getElem?_eq_none beyond, List.getElem?_eq_none (Nat.le_of_lt after)]
    simp [later]

end Store.ReadsAs

/-! ## What is made stays -/

section

variable {store later : Store} {registry grown : Registry}

/-- Everything made and registered at one time is there at a later time. -/
structure Precedes (store : Store) (registry : Registry) (later : Store) (grown : Registry) :
    Prop where
  heap : store.heap <+: later.heap
  registry : registry <+: grown
  found : ∀ id reference, store.get? id = some reference → later.get? id = some reference

theorem Precedes.refl (store : Store) (registry : Registry) :
    Precedes store registry store registry :=
  ⟨List.prefix_rfl, List.prefix_rfl, fun _ _ found => found⟩

theorem Precedes.trans {last : Store} {final : Registry}
    (first : Precedes store registry later grown) (second : Precedes later grown last final) :
    Precedes store registry last final where
  heap := first.heap.trans second.heap
  registry := first.registry.trans second.registry
  found := fun id reference found => second.found id reference (first.found id reference found)

theorem Bound.binding?_mono {types more : List CompiledType} (before : types <+: more)
    {bound : Bound} {binding : Codec.Binding} (read : bound.binding? types = some binding) :
    bound.binding? more = some binding := by
  obtain ⟨others, rfl⟩ := before
  cases bound with
  | scalar content => exact read
  | object reference =>
      rw [Bound.binding?, Option.map_eq_some_iff] at read
      obtain ⟨type, there, rfl⟩ := read
      have within := (List.getElem?_eq_some_iff.mp there).1
      rw [Bound.binding?, List.getElem?_append_left within, there]
      rfl

theorem Slot.step?_mono {types more : List CompiledType} (before : types <+: more)
    {slot : Slot} {step : Step} (read : slot.step? types = some step) :
    slot.step? more = some step := by
  rw [Slot.step?, ObjectProperty.property?, Option.map_map, Option.map_eq_some_iff] at read ⊢
  obtain ⟨binding, bound, rfl⟩ := read
  exact ⟨binding, Bound.binding?_mono before bound, rfl⟩

theorem ObjectProperty.ComesFrom.mono
    (found : ∀ id reference, store.get? id = some reference → later.get? id = some reference)
    {property : ObjectProperty} {child : Child} (comes : property.ComesFrom store child) :
    property.ComesFrom later child := by
  obtain ⟨name, occurs, bound⟩ := comes
  refine ⟨name, occurs, ?_⟩
  cases node : child.node with
  | value content =>
      rw [node] at bound
      exact bound
  | container content =>
      rw [node] at bound
      obtain ⟨reference, known, bound⟩ := bound
      exact ⟨reference, found _ _ known, bound⟩

theorem TypeObject.IsOf.mono
    (found : ∀ id reference, store.get? id = some reference → later.get? id = some reference)
    {object : TypeObject} {container : Container} (isOf : object.IsOf store container) :
    object.IsOf later container where
  nodeName := isOf.nodeName
  kind := isOf.kind
  slots := isOf.slots.imp fun _ _ comes => comes.mono found

end

/-- Every child of a container with a registered object is registered if it is a
container. -/
theorem TypeObject.IsOf.exists_get? {store : Store} {object : TypeObject}
    {container : Container} (isOf : object.IsOf store container) {child : Child}
    (member : child ∈ container.children ++ container.segments) {content : Container}
    (node : child.node = .container content) :
    ∃ reference, store.get? content.id = some reference := by
  have slots := isOf.slots
  rw [List.forall₂_iff_get] at slots
  obtain ⟨length, each⟩ := slots
  obtain ⟨position, within, rfl⟩ := List.mem_iff_getElem.mp member
  have comes := each position (length ▸ within) within
  rw [List.get_eq_getElem, List.get_eq_getElem] at comes
  obtain ⟨-, -, bound⟩ := comes
  rw [node] at bound
  obtain ⟨reference, known, -⟩ := bound
  exact ⟨reference, known⟩

/-- Making the object of a container keeps the states aligned. -/
theorem Aligned.extend {identities : NodeId → Option Container} {store : Store}
    {registry : Registry} (aligned : Aligned identities store registry)
    {container : Container} (stored : identities container.id = some container)
    (absent : store.get? container.id = none) {object : TypeObject} {type : CompiledType}
    (read : object.type? registry.types = some type) (isOf : object.IsOf store container) :
    Aligned identities (store.extend container.id object)
        (registry ++ [(container.id, type)]) ∧
      Precedes store registry (store.extend container.id object)
        (registry ++ [(container.id, type)]) := by
  have entered := aligned.extend_eq absent object
  have known : ∀ id reference, store.get? id = some reference →
      (store.extend container.id object).get? id = some reference := by
    intro id reference found
    exact (aligned.get?_extend absent read).mpr (.inl found)
  constructor
  · refine ⟨aligned.toReadsAs.extend absent read, ?_⟩
    intro id reference found
    rcases (aligned.get?_extend absent read).mp found with before | ⟨rfl, rfl⟩
    · obtain ⟨other, made, storedOther, there, isOther⟩ := aligned.origin id reference before
      refine ⟨other, made, storedOther, ?_, isOther.mono known⟩
      have within := (List.getElem?_eq_some_iff.mp there).1
      rw [entered, List.getElem?_append_left within, there]
    · refine ⟨container, object, stored, ?_, isOf.mono known⟩
      rw [entered, List.getElem?_concat_length]
  · refine ⟨?_, List.prefix_append _ _, known⟩
    rw [entered]
    exact List.prefix_append _ _

/-! ## Parts of two compilations -/

/-- The states of both compilations. -/
structure Twin where
  making : MakingSession
  plain : Session

namespace Twin

/-- The states after both compilations have done their part. -/
def after {α β : Type} (twin : Twin) (makes : Making α) (compiles : Compilation β) : Twin :=
  ⟨(makes.run.run twin.making).2, (compiles.run.run twin.plain).2⟩

/-- Both compilations have the same types, and the same names are taken. -/
structure Aligned (identities : NodeId → Option Container) (twin : Twin) : Prop where
  store : Objects.Aligned identities twin.making.store twin.plain.registry
  names : twin.making.names = twin.plain.names

/-- What one twin has is kept by a later one. -/
def Precedes (twin later : Twin) : Prop :=
  Objects.Precedes twin.making.store twin.plain.registry later.making.store
    later.plain.registry

/-- A later twin has new entries for containers among `nodes`, and their objects are
noted in order. -/
structure Grows (nodes : List NodeId) (twin later : Twin) : Prop where
  precedes : twin.Precedes later
  added : ∃ added : Registry,
    later.plain.registry = twin.plain.registry ++ added ∧
      (∀ entry ∈ added, entry.1 ∈ nodes) ∧
        later.making.created =
          twin.making.created ++ List.range' twin.plain.registry.length added.length

theorem Grows.refl (nodes : List NodeId) (twin : Twin) : twin.Grows nodes twin :=
  ⟨Objects.Precedes.refl _ _, [], by simp, by simp, by simp⟩

theorem Grows.trans {nodes : List NodeId} {first second third : Twin}
    (before : first.Grows nodes second) (after : second.Grows nodes third) :
    first.Grows nodes third := by
  obtain ⟨precedes, added, registry, among, created⟩ := before
  obtain ⟨follows, more, registry', among', created'⟩ := after
  refine ⟨precedes.trans follows, added ++ more, ?_, ?_, ?_⟩
  · rw [registry', registry, List.append_assoc]
  · intro entry member
    rcases List.mem_append.mp member with early | late
    · exact among entry early
    · exact among' entry late
  · rw [created', created, registry, List.length_append, List.length_append,
      List.append_assoc, ← List.range'_append_1]

theorem Grows.mono {nodes more : List NodeId} (among : nodes ⊆ more) {first second : Twin}
    (grows : first.Grows nodes second) : first.Grows more second := by
  obtain ⟨precedes, added, registry, inside, created⟩ := grows
  exact ⟨precedes, added, registry, fun entry member => among (inside entry member), created⟩

end Twin

/-- Two outcomes are the same: results as they should be, or one and the same error. -/
def SameOutcome {α β : Type} (expected : α → β → Prop) :
    Except CompileError α → Except CompileError β → Prop
  | .ok made, .ok compiled => expected made compiled
  | .error error, .error other => error = other
  | _, _ => False

/-- From aligned states, both parts end the same way in aligned states, with new
entries for containers among `nodes` only. -/
def Mirrors {α β : Type} (identities : NodeId → Option Container) (nodes : List NodeId)
    (twin : Twin) (makes : Making α) (compiles : Compilation β)
    (expected : Twin → α → β → Prop) : Prop :=
  twin.Aligned identities →
    (twin.after makes compiles).Aligned identities ∧
      twin.Grows nodes (twin.after makes compiles) ∧
        SameOutcome (expected (twin.after makes compiles)) (makes.run.run twin.making).1
          (compiles.run.run twin.plain).1

end FlatMessage.Compiler.Objects
