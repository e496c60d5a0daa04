import FlatMessage.Proofs.Objects.Mirroring
import FlatMessage.Proofs.DirectReading

/-!
# Sequences of compilations

Models are compiled one after the other with one store of type objects, and some of the
compilations fail.  All the while the store is read as the registry of compiled types;
what is made is kept, every container has one object at most, and an object refers to
objects that were made before it.
-/

namespace FlatMessage.Compiler.Objects

open Codec (CompiledType)
open Schema (Child Container Model NodeId)

/-- A call of the compiler. -/
structure Call where
  target : Target
  model : Model

/-- A call is accepted when its model is valid.  Its containers have the identities
that all calls share. -/
structure Call.Accepted (identities : NodeId → Option Container) (call : Call) : Prop where
  valid : call.model.validate = .ok ()
  stored : call.model.root.StoredIn identities

/-- The store after a sequence of calls, whether they succeed or fail. -/
def storeAfter (calls : List Call) : Store :=
  calls.foldl (fun store call => (store.compile call.target call.model).2) .empty

/-- The registry of compiled types after the same calls. -/
def registryAfter (calls : List Call) : Registry :=
  calls.foldl (fun registry call => (compile call.target call.model registry).2) []

/-- What a store has is kept when it grows: entries are appended, and no container gets
another object. -/
structure Store.GrowsTo (store later : Store) : Prop where
  heap : store.heap <+: later.heap
  entries : store.entries <+: later.entries
  found : ∀ id reference, store.get? id = some reference → later.get? id = some reference

/-- What a successful call returns: the root's object, and the objects that the call
appended, which belong to those containers of the model that had none. -/
structure Returned (root : Container) (store later : Store) (made : Made) : Prop where
  found : later.get? root.id = some made.root
  appended : ∃ added,
    later.entries = store.entries ++ added ∧ made.types = added.map Prod.snd ∧
      ∀ id, id ∈ added.map Prod.fst ↔
        id ∈ root.containers.map Container.id ∧ store.get? id = none

/-- A call returns references to the types that the compiler returns. -/
structure Made.ReadsAs (made : Made) (types : List CompiledType) (compiled : CompiledModel) :
    Prop where
  root : types[made.root]? = some compiled.root
  types :
    List.Forall₂ (fun reference type => types[reference]? = some type) made.types
      compiled.types

/-- A property of a registered object has beans of the object `reference`, and it comes
from the child `content` of the object's container. -/
def Store.HasBeans (identities : NodeId → Option Container) (store : Store)
    (content : Container) (reference : Nat) : Prop :=
  ∃ (id : NodeId) (owner : Nat) (container : Container) (object : TypeObject)
      (position : Nat) (property : ObjectProperty) (child : Child),
    store.get? id = some owner ∧ identities id = some container ∧
      store.heap[owner]? = some object ∧
      object.properties[position]? = some property ∧
      (container.children ++ container.segments)[position]? = some child ∧
      property.bound = .object reference ∧ child.node = .container content

/-- The objects of a store between two calls. -/
structure Store.Consistent (identities : NodeId → Option Container) (store : Store) :
    Prop where
  /-- No container is registered twice. -/
  distinct : (store.entries.map Prod.fst).Nodup
  /-- Every object is registered once, in the order of making. -/
  registered : store.entries.map Prod.snd = List.range store.heap.length
  /-- The index and the entries are in step. -/
  index : ∀ id reference, store.get? id = some reference ↔ (id, reference) ∈ store.entries
  /-- A registered object has a property for every child of its container. -/
  origin : ∀ id reference, store.get? id = some reference →
    ∃ container object,
      identities id = some container ∧ store.heap[reference]? = some object ∧
        object.IsOf store container
  /-- Beans belong to an object that was registered earlier. -/
  earlier : ∀ (position : Nat) (id : NodeId) (reference : Nat) (object : TypeObject)
      (property : ObjectProperty) (other : Nat),
    store.entries[position]? = some (id, reference) →
      store.heap[reference]? = some object → property ∈ object.properties →
        property.bound = .object other →
          ∃ before, before < position ∧ ∃ node, store.entries[before]? = some (node, other)

/-! ## Aligned states -/

section

variable {identities : NodeId → Option Container} {store later : Store}
  {registry grown : Registry}

theorem aligned_empty (identities : NodeId → Option Container) :
    Aligned identities .empty [] where
  types := rfl
  entries := rfl
  index := rfl
  distinct := List.nodup_nil
  origin := fun _ _ found => by cases found

/-- An entry's reference is its position. -/
theorem Store.ReadsAs.getElem?_entries (reads : store.ReadsAs registry) {position : Nat}
    {id : NodeId} {reference : Nat} :
    store.entries[position]? = some (id, reference) ↔
      position = reference ∧ store.get? id = some reference := by
  rw [reads.get?_eq_some_iff, reads.entries, List.getElem?_zipIdx]
  constructor
  · intro there
    rw [Option.map_eq_some_iff] at there
    obtain ⟨node, here, same⟩ := there
    cases same
    exact ⟨(Nat.zero_add position).symm, by simpa using here⟩
  · rintro ⟨rfl, there⟩
    simp [there]

theorem Store.ReadsAs.get?_eq_some_iff_mem (reads : store.ReadsAs registry) {id : NodeId}
    {reference : Nat} :
    store.get? id = some reference ↔ (id, reference) ∈ store.entries := by
  simp [List.mem_iff_getElem?, reads.getElem?_entries]

/-- Two containers with one object are the same. -/
theorem Store.ReadsAs.id_eq (reads : store.ReadsAs registry) {id other : NodeId}
    {reference : Nat} (found : store.get? id = some reference)
    (again : store.get? other = some reference) : id = other := by
  rw [reads.get?_eq_some_iff] at found again
  rw [found, Option.some.injEq] at again
  exact again

theorem Aligned.consistent (aligned : Aligned identities store registry) :
    store.Consistent identities where
  distinct := by
    rw [aligned.entries, List.zipIdx_map_fst]
    exact aligned.distinct
  registered := by
    rw [aligned.entries, List.zipIdx_map_snd, aligned.length_heap, List.length_map,
      List.range_eq_range']
  index := fun _ _ => aligned.get?_eq_some_iff_mem
  origin := aligned.origin
  earlier := by
    intro position id reference object property other entry found member bound
    obtain ⟨rfl, known⟩ := aligned.getElem?_entries.mp entry
    have before := Heap.lt_of_mem_properties aligned.types found member bound
    have within : other < (registry.map Prod.fst).length := by
      rw [List.length_map, ← aligned.length_heap]
      have := (List.getElem?_eq_some_iff.mp found).1
      omega
    refine ⟨other, before, (registry.map Prod.fst)[other], ?_⟩
    rw [aligned.getElem?_entries, aligned.get?_eq_some_iff]
    exact ⟨rfl, List.getElem?_eq_getElem within⟩

theorem Aligned.growsTo (aligned : Aligned identities store registry)
    (kept : Aligned identities later grown) (precedes : Precedes store registry later grown) :
    store.GrowsTo later where
  heap := precedes.heap
  entries := by
    obtain ⟨added, rfl⟩ := precedes.registry
    rw [aligned.entries, kept.entries, List.map_append, List.zipIdx_append]
    exact List.prefix_append _ _
  found := precedes.found

/-- The beans of a property belong to the object of the child that it comes from. -/
theorem Store.Consistent.get?_of_hasBeans (consistent : store.Consistent identities)
    {content : Container} {reference : Nat}
    (beans : store.HasBeans identities content reference) :
    store.get? content.id = some reference := by
  obtain ⟨id, owner, container, object, position, property, child, known, stored, made,
    atProperty, atChild, bound, node⟩ := beans
  obtain ⟨origin, registered, storedOrigin, there, isOf⟩ := consistent.origin id owner known
  rw [stored, Option.some.injEq] at storedOrigin
  subst storedOrigin
  rw [made, Option.some.injEq] at there
  subst there
  obtain ⟨length, each⟩ := List.forall₂_iff_get.mp isOf.slots
  obtain ⟨within, rfl⟩ := List.getElem?_eq_some_iff.mp atProperty
  obtain ⟨inside, rfl⟩ := List.getElem?_eq_some_iff.mp atChild
  obtain ⟨-, -, comes⟩ := each position within inside
  rw [List.get_eq_getElem, List.get_eq_getElem, node, bound] at comes
  obtain ⟨target, found, same⟩ := comes
  cases same
  exact found

/-- Two bean properties have one object exactly when they come from one container. -/
theorem Aligned.beans_eq_iff (aligned : Aligned identities store registry)
    {content other : Container} {reference target : Nat}
    (beans : store.HasBeans identities content reference)
    (others : store.HasBeans identities other target) :
    reference = target ↔ content.id = other.id := by
  have found := aligned.consistent.get?_of_hasBeans beans
  have again := aligned.consistent.get?_of_hasBeans others
  constructor
  · rintro rfl
    exact aligned.id_eq found again
  · intro same
    rw [same, again, Option.some.injEq] at found
    exact found.symm

/-! ## One call -/

/-- A session that starts without objects of its own returns those that it appends. -/
theorem returned_of_grows {root : Container} {names : Naming.Scope} {twin : Twin} {made : Nat}
    {compiled : CompiledType} (aligned : Aligned identities store registry)
    (kept : twin.Aligned identities)
    (grows : Twin.Grows (root.containers.map Container.id)
      ⟨⟨store, names, []⟩, ⟨registry, names⟩⟩ twin)
    (done : ContainerMade root twin made compiled) :
    Returned root store twin.making.store ⟨made, twin.making.created⟩ := by
  obtain ⟨precedes, added, registered, among, created⟩ := grows
  dsimp only at registered among created precedes
  refine ⟨done.found, (added.map Prod.fst).zipIdx registry.length, ?_, ?_, ?_⟩
  · rw [kept.store.entries, aligned.entries, registered, List.map_append,
      List.zipIdx_append, List.length_map, Nat.zero_add]
  · rw [created, List.zipIdx_map_snd, List.length_map, List.nil_append]
  · intro id
    rw [List.zipIdx_map_fst]
    have distinct := kept.store.distinct
    rw [registered, List.map_append, List.nodup_append] at distinct
    obtain ⟨-, -, apart⟩ := distinct
    constructor
    · intro member
      obtain ⟨entry, inAdded, rfl⟩ := List.mem_map.mp member
      refine ⟨among entry inAdded, ?_⟩
      cases found : store.get? entry.1 with
      | none => rfl
      | some reference =>
          have before := List.mem_of_getElem? (aligned.get?_eq_some_iff.mp found)
          exact absurd rfl (apart _ before _ member)
    · rintro ⟨member, absent⟩
      obtain ⟨container, inside, rfl⟩ := List.mem_map.mp member
      obtain ⟨reference, found⟩ := done.inside container inside
      have there := List.mem_of_getElem? (kept.store.get?_eq_some_iff.mp found)
      rw [registered, List.map_append, List.mem_append] at there
      rcases there with before | new
      · obtain ⟨position, here⟩ := List.mem_iff_getElem?.mp before
        rw [← aligned.get?_eq_some_iff, absent] at here
        cases here
      · exact new

/-- What a session returns is read as the types that it compiled. -/
theorem readsAs_of_grows {root : Container} {names : Naming.Scope} {twin : Twin} {made : Nat}
    {compiled : CompiledModel}
    (grows : Twin.Grows (root.containers.map Container.id)
      ⟨⟨store, names, []⟩, ⟨registry, names⟩⟩ twin)
    (done : ContainerMade root twin made compiled.root)
    (types : compiled.types = Registry.types (twin.plain.registry.drop registry.length)) :
    Made.ReadsAs ⟨made, twin.making.created⟩ twin.plain.registry.types compiled := by
  obtain ⟨-, added, registered, -, created⟩ := grows
  dsimp only at registered created
  refine ⟨done.read, ?_⟩
  rw [created, types, registered, List.nil_append, List.drop_left, List.forall₂_iff_get]
  refine ⟨by simp [Registry.types], ?_⟩
  intro position within inside
  have there : (registry ++ added).types[registry.length + position]? =
      added.types[position]? := by
    simp only [Registry.types, List.map_append]
    rw [List.getElem?_append_right (by simp)]
    simp
  simp [there, List.getElem?_eq_getElem inside]

/-- A call ends alike with type objects and with compiled types. -/
theorem Aligned.compile (aligned : Aligned identities store registry) {call : Call}
    (accepted : call.Accepted identities) :
    Aligned identities (store.compile call.target call.model).2
        (compile call.target call.model registry).2 ∧
      Precedes store registry (store.compile call.target call.model).2
        (compile call.target call.model registry).2 ∧
      SameOutcome
        (fun made compiled =>
          (∃ root, call.model.root = .container root ∧
            Returned root store (store.compile call.target call.model).2 made) ∧
          made.ReadsAs (compile call.target call.model registry).2.types compiled)
        (store.compile call.target call.model).1
        (compile call.target call.model registry).1 := by
  obtain ⟨root, tree, -, sound⟩ := Model.sound_of_validate accepted.valid
  have stored := accepted.stored
  unfold Store.compile Compiler.compile
  cases Naming.checkNamespace call.target.space with
  | error illegal => exact ⟨aligned, .refl _ _, rfl⟩
  | ok valid =>
      rw [tree] at stored ⊢
      have mirrors :=
        mirrors_makeContainer call.target root sound stored ⟨⟨store, [], []⟩, ⟨registry, []⟩⟩
      obtain ⟨kept, grows, outcome⟩ := mirrors ⟨aligned, rfl⟩
      simp only [makeRoot, compileRoot, Twin.after] at kept grows outcome ⊢
      rcases making : (makeContainer call.target root).run.run ⟨store, [], []⟩ with
        ⟨_ | made, makingEnd⟩ <;>
      rcases compiling : (compileContainer call.target root).run.run ⟨registry, []⟩ with
        ⟨_ | type, plainEnd⟩ <;>
      rw [making, compiling] at kept grows outcome <;> dsimp only at kept grows outcome ⊢
      · exact ⟨kept.store, grows.precedes, outcome⟩
      · exact outcome.elim
      · exact outcome.elim
      · refine ⟨kept.store, grows.precedes, ⟨root, rfl, ?_⟩, ?_⟩
        · exact returned_of_grows aligned kept grows outcome
        · exact readsAs_of_grows grows outcome rfl

end

/-! ## Histories -/

section

variable {identities : NodeId → Option Container}

theorem storeAfter_concat (calls : List Call) (last : Call) :
    storeAfter (calls ++ [last]) =
      ((storeAfter calls).compile last.target last.model).2 := by
  rw [storeAfter, List.foldl_append]
  rfl

theorem registryAfter_concat (calls : List Call) (last : Call) :
    registryAfter (calls ++ [last]) =
      (compile last.target last.model (registryAfter calls)).2 := by
  rw [registryAfter, List.foldl_append]
  rfl

/-- After every sequence of accepted calls the store is read as the registry. -/
theorem aligned_after {calls : List Call} (accepted : ∀ call ∈ calls, call.Accepted identities) :
    Aligned identities (storeAfter calls) (registryAfter calls) := by
  induction calls using List.reverseRecOn with
  | nil => exact aligned_empty identities
  | append_singleton calls last ih =>
      rw [List.forall_mem_append, List.forall_mem_singleton] at accepted
      rw [storeAfter_concat, registryAfter_concat]
      exact ((ih accepted.1).compile accepted.2).1

/-- What is there after some calls is there after more of them. -/
theorem precedes_after {calls more : List Call}
    (accepted : ∀ call ∈ calls ++ more, call.Accepted identities) :
    Precedes (storeAfter calls) (registryAfter calls) (storeAfter (calls ++ more))
      (registryAfter (calls ++ more)) := by
  induction more using List.reverseRecOn with
  | nil =>
      rw [List.append_nil]
      exact .refl _ _
  | append_singleton more last ih =>
      rw [← List.append_assoc] at accepted ⊢
      rw [List.forall_mem_append, List.forall_mem_singleton] at accepted
      have step := ((aligned_after accepted.1).compile accepted.2).2.1
      rw [storeAfter_concat, registryAfter_concat]
      exact (ih accepted.1).trans step

/-- In every history of accepted calls, the store stays consistent, two bean properties
have one object exactly when they come from one container, and a call ends alike with
type objects and with compiled types.  Every call keeps all that is there, and a
successful one returns what it appends. -/
theorem history_of_accepted {calls : List Call}
    (accepted : ∀ call ∈ calls, call.Accepted identities) :
    (storeAfter calls).Consistent identities ∧
      (storeAfter calls).ReadsAs (registryAfter calls) ∧
      (∀ content other reference target,
        (storeAfter calls).HasBeans identities content reference →
          (storeAfter calls).HasBeans identities other target →
            (reference = target ↔ content.id = other.id)) ∧
      (∀ earlier, earlier <+: calls →
        (storeAfter earlier).GrowsTo (storeAfter calls) ∧
          registryAfter earlier <+: registryAfter calls) ∧
      ∀ earlier call, earlier ++ [call] <+: calls →
        SameOutcome
          (fun made compiled =>
            (∃ root, call.model.root = .container root ∧
              Returned root (storeAfter earlier) (storeAfter (earlier ++ [call])) made) ∧
            made.ReadsAs (registryAfter (earlier ++ [call])).types compiled)
          ((storeAfter earlier).compile call.target call.model).1
          (compile call.target call.model (registryAfter earlier)).1 := by
  have aligned := aligned_after accepted
  refine ⟨aligned.consistent, aligned.toReadsAs, ?_, ?_, ?_⟩
  · intro content other reference target beans others
    exact aligned.beans_eq_iff beans others
  · rintro earlier ⟨more, rfl⟩
    have before : ∀ call ∈ earlier, call.Accepted identities := by
      intro call member
      exact accepted call (List.mem_append_left _ member)
    have precedes := precedes_after accepted
    exact ⟨(aligned_after before).growsTo aligned precedes, precedes.registry⟩
  · rintro earlier call ⟨more, rfl⟩
    rw [List.forall_mem_append, List.forall_mem_append, List.forall_mem_singleton]
      at accepted
    rw [storeAfter_concat, registryAfter_concat]
    exact ((aligned_after accepted.1.1).compile accepted.1.2).2.2

end

/-- A call that fails after a note is registered, and a call that shares the note. -/
def sharedCalls : List Call :=
  [⟨⟨"com.other", .definitions⟩, unnamed⟩, ⟨⟨"com.acme", .standalone⟩, Schema.notice⟩]

/-- The second call makes the root of the notice alone: the objects of the note and its
author were made by the call that failed. -/
theorem history_of_sharedCalls :
    (storeAfter sharedCalls).Consistent sharedStore ∧
      (storeAfter sharedCalls).entries =
        [(Schema.author.id, 0), (Schema.note.id, 1), (⟨"notice", []⟩, 2)] ∧
      (storeAfter (sharedCalls.take 1)).GrowsTo (storeAfter sharedCalls) ∧
      (∃ error, (Store.empty.compile ⟨"com.other", .definitions⟩ unnamed).1 =
        .error error) ∧
      ∃ made compiled,
        ((storeAfter (sharedCalls.take 1)).compile ⟨"com.acme", .standalone⟩
          Schema.notice).1 = .ok made ∧
        made.types = [2] ∧
        made.ReadsAs (registryAfter sharedCalls).types compiled := by
  have accepted : ∀ call ∈ sharedCalls, call.Accepted sharedStore := by
    intro call member
    rcases List.mem_pair.mp member with rfl | rfl
    · exact ⟨rfl, unnamed_storedIn⟩
    · exact ⟨rfl, notice_storedIn_sharedStore⟩
  obtain ⟨consistent, -, -, grows, outcomes⟩ := history_of_accepted accepted
  have last := outcomes (sharedCalls.take 1) ⟨⟨"com.acme", .standalone⟩, Schema.notice⟩
    (List.prefix_rfl)
  exact ⟨consistent, rfl, (grows _ (List.take_prefix 1 _)).1, ⟨_, rfl⟩, _, _, rfl, rfl,
    last.2⟩

end FlatMessage.Compiler.Objects
