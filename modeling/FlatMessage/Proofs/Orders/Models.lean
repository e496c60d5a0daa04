import FlatMessage.Proofs.Loading.Order
import FlatMessage.Proofs.Orders.Identities
import FlatMessage.Proofs.Orders.Locality

/-!
# The model of a document

A document has one model, apart from the location that it is read from.  It does not import
itself, not even through others, so every container in its tree is built by exactly one of
the documents that it reaches.  Two containers with one identity are therefore the same,
whichever trees they are found in.
-/

namespace FlatMessage.Schema

open Files (Place Tree)
open Relation (ReflTransGen TransGen)

section

variable {tree : Tree}

/-! ## One model -/

mutual

/-- Two models of a document differ in their source at most. -/
theorem ModelAt.withoutSource_eq {place : Place} {model other : Model}
    (has : ModelAt tree place model) (again : ModelAt tree place other) :
    model.withoutSource = other.withoutSource := by
  match has with
  | .mk read imports build valid found =>
      cases again with
      | mk read' imports' build' valid' found' =>
          rw [read, Option.some.injEq] at read'
          subst read'
          obtain rfl := imports.eq imports'
          rw [build, Except.ok.injEq] at build'
          subst build'
          rfl

theorem ImportedAt.eq {place : Place} {imports : List Import} {imported others : Imported}
    (has : ImportedAt tree place imports imported)
    (again : ImportedAt tree place imports others) : imported = others := by
  match has with
  | .nil =>
      cases again
      rfl
  | .cons referred first rest =>
      cases again with
      | cons referred' first' rest' =>
          rw [referred, Option.some.injEq] at referred'
          subst referred'
          have roots := congrArg Model.root (first.withoutSource_eq first')
          have same : _ = _ := rest.eq rest'
          change Model.root _ = Model.root _ at roots
          simp only [Model.withoutSource] at roots
          rw [roots, same]

end

theorem ModelAt.root_eq {place : Place} {model other : Model}
    (has : ModelAt tree place model) (again : ModelAt tree place other) :
    model.root = other.root := by
  have same := congrArg Model.root (has.withoutSource_eq again)
  exact same

theorem ModelAt.key_eq {place : Place} {model other : Model}
    (has : ModelAt tree place model) (again : ModelAt tree place other) :
    model.key = other.key := by
  have same := congrArg Model.key (has.withoutSource_eq again)
  exact same

/-! ## No circles -/

mutual

/-- A document with a model does not import itself, not even through others. -/
theorem ModelAt.acyclic {place : Place} {model : Model} (has : ModelAt tree place model) :
    ¬TransGen (Imports tree) place place := by
  match has with
  | .mk read imports build valid found =>
      intro cycle
      obtain ⟨other, imported, back⟩ := TransGen.head'_iff.mp cycle
      have edge := imported
      obtain ⟨document, entry, readAgain, member, referred⟩ := imported
      rw [read, Option.some.injEq] at readAgain
      subst readAgain
      exact imports.acyclic entry member other referred (TransGen.tail' back edge)

theorem ImportedAt.acyclic {place : Place} {imports : List Import} {imported : Imported}
    (has : ImportedAt tree place imports imported) :
    ∀ entry ∈ imports, ∀ other, referred? tree place entry.resource = some other →
      ¬TransGen (Imports tree) other other := by
  match has with
  | .nil => nofun
  | .cons referred first rest =>
      rw [List.forall_mem_cons]
      constructor
      · intro other again
        rw [referred, Option.some.injEq] at again
        subst again
        exact first.acyclic
      · exact rest.acyclic

end

/-! ## Origins -/

/-- A container is built by a document. -/
def IsBuiltAt (tree : Tree) (place : Place) (inner : Container) : Prop :=
  ∃ model, ModelAt tree place model ∧ inner ∈ model.root.containers ∧
    inner.id.document = place.path

/-- What a document imports is built by documents that it reaches, but not by itself. -/
theorem areForeign_of_origins (working : tree.working.IsWalkable) {place : Place}
    {imported : Imported} (walkable : place.IsWalkable)
    (acyclic : ¬TransGen (Imports tree) place place)
    (origins : ∀ entry ∈ imported, ∀ inner ∈ entry.2.containers,
      ∃ origin, TransGen (Imports tree) place origin ∧ IsBuiltAt tree origin inner) :
    AreForeign place.path imported := by
  intro entry inImported inner member same
  obtain ⟨origin, reached, model, has, -, built⟩ := origins entry inImported inner member
  rw [same] at built
  obtain rfl := Place.path_inj walkable (has.isFile working).1 built
  exact acyclic reached

mutual

/-- The containers of a model are built by the documents that it reaches. -/
theorem ModelAt.exists_origin (working : tree.working.IsWalkable) {place : Place}
    {model : Model} (has : ModelAt tree place model) :
    ∀ inner ∈ model.root.containers,
      ∃ origin, ReflTransGen (Imports tree) place origin ∧ IsBuiltAt tree origin inner := by
  have acyclic := has.acyclic
  have self := has
  match has with
  | .mk read imports build valid found =>
      have origins := imports.exists_origin working read fun _ member => member
      have foreign :=
        areForeign_of_origins working (self.isFile working).1 acyclic origins
      intro inner member
      rcases (placed_build foreign build).origin inner member with
        ⟨own, -⟩ | ⟨-, entry, inImported, there⟩
      · exact ⟨_, .refl, _, self, member, own⟩
      · obtain ⟨origin, reached, built⟩ := origins entry inImported inner there
        exact ⟨origin, reached.to_reflTransGen, built⟩

theorem ImportedAt.exists_origin (working : tree.working.IsWalkable) {place : Place}
    {imports : List Import} {imported : Imported}
    (has : ImportedAt tree place imports imported) {document : Document}
    (read : documentAt? tree place = some document)
    (among : ∀ entry ∈ imports, entry ∈ document.imports) :
    ∀ entry ∈ imported, ∀ inner ∈ entry.2.containers,
      ∃ origin, TransGen (Imports tree) place origin ∧ IsBuiltAt tree origin inner := by
  match has with
  | .nil => nofun
  | .cons referred first rest =>
      rw [List.forall_mem_cons] at among ⊢
      constructor
      · intro inner member
        obtain ⟨origin, reached, built⟩ := first.exists_origin working inner member
        exact ⟨origin, .head' ⟨document, _, read, among.1, referred⟩ reached, built⟩
      · exact rest.exists_origin working read among.2

end

/-- A document builds one container at a position. -/
theorem ModelAt.eq_of_id_eq (working : tree.working.IsWalkable) {place : Place}
    {model : Model} (has : ModelAt tree place model) {inner other : Container}
    (member : inner ∈ model.root.containers) (memberToo : other ∈ model.root.containers)
    (own : inner.id.document = place.path) (same : inner.id = other.id) : inner = other := by
  have acyclic := has.acyclic
  have walkable := (has.isFile working).1
  cases has with
  | mk read imports build valid found =>
      have origins := imports.exists_origin working read fun _ member => member
      have foreign := areForeign_of_origins working walkable acyclic origins
      have distinct := (placed_build foreign build).distinct
      refine List.inj_on_of_nodup_map distinct ?_ ?_ same
      · rw [List.mem_filter, decide_eq_true_eq]
        exact ⟨member, own⟩
      · rw [List.mem_filter, decide_eq_true_eq, ← same]
        exact ⟨memberToo, own⟩

/-- Containers with one identity are the same, in whichever models they are found. -/
theorem container_eq_of_id_eq (working : tree.working.IsWalkable) {place place' : Place}
    {model model' : Model} (has : ModelAt tree place model)
    (has' : ModelAt tree place' model') {inner other : Container}
    (member : inner ∈ model.root.containers) (memberToo : other ∈ model'.root.containers)
    (same : inner.id = other.id) : inner = other := by
  obtain ⟨origin, -, built, hasOrigin, inBuilt, path⟩ :=
    has.exists_origin working inner member
  obtain ⟨origin', -, built', hasOrigin', inBuilt', path'⟩ :=
    has'.exists_origin working other memberToo
  rw [← same, path] at path'
  obtain rfl :=
    Place.path_inj (hasOrigin.isFile working).1 (hasOrigin'.isFile working).1 path'
  rw [hasOrigin'.root_eq hasOrigin] at inBuilt'
  exact hasOrigin.eq_of_id_eq working inBuilt inBuilt' path same

/-- The containers of some models by their identities. -/
def containerOf (models : List Model) (id : NodeId) : Option Container :=
  (models.flatMap fun model => model.root.containers).find? (·.id = id)

/-- The trees of documents' models are stored by the identities of their containers. -/
theorem storedIn_containerOf (working : tree.working.IsWalkable) {models : List Model}
    (all : ∀ model ∈ models, ∃ place, ModelAt tree place model) {model : Model}
    (member : model ∈ models) : model.root.StoredIn (containerOf models) := by
  intro inner inTree
  have there : inner ∈ models.flatMap fun model => model.root.containers :=
    List.mem_flatMap.mpr ⟨model, member, inTree⟩
  cases found : containerOf models inner.id with
  | none =>
      have absent := List.find?_eq_none.mp found inner there
      simp at absent
  | some other =>
      have same : other.id = inner.id := by simpa using List.find?_some found
      obtain ⟨model', member', inTree'⟩ := List.mem_flatMap.mp (List.mem_of_find?_eq_some found)
      obtain ⟨place, has⟩ := all model member
      obtain ⟨place', has'⟩ := all model' member'
      rw [container_eq_of_id_eq working has' has inTree' inTree same]

end

end FlatMessage.Schema
