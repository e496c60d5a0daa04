import FlatMessage.Proofs.Orders.Reloading
import Mathlib.Data.List.Perm.Basic

/-!
# Manifests in another order

Two manifests in one directory that list the same documents in different orders lead to the
same models: every document has one model, and both sets hold the documents that are
reached.  So if one of the sets is loaded, the other one is too, unless a location is
refused.
-/

namespace FlatMessage.Schema

open Files (Place Tree)
open Relation (ReflTransGen)

/-- A reference denotes a manifest in a directory. -/
def IsManifestAt (tree : Tree) (reference base directory : String) (manifest : Manifest) :
    Prop :=
  ∃ location text, locate reference base = .ok location ∧ isManifest location = true ∧
    readAt tree location = .ok text ∧ Manifest.ofText? text = some manifest ∧
      Files.Path.directory location = directory

/-- A set holds the models of the documents that are reached, in post-order. -/
structure IsLoaded (tree : Tree) (roots : List Place) (set : ModelSet)
    (history : List (Place × Model)) : Prop where
  models : set.models = history.map Prod.snd
  built : ∀ entry ∈ history, ModelAt tree entry.1 entry.2
  keys : (set.models.map Model.key).Nodup
  order : InPostOrder tree roots (history.map Prod.fst)

section

variable {tree : Tree}

/-! ## What loading keeps -/

theorem insert?_of_addDocument {location : String} {document : Document}
    {imported : Imported} {loading later : Loading} {root : Node}
    (added : addDocument tree location document imported loading = .ok (root, later)) :
    ∃ model, loading.set.insert? model = some later.set := by
  obtain ⟨built, -, added⟩ := bind_eq_ok_iff.mp added
  refine ⟨{ built with source := some location }, ?_⟩
  unfold Loading.add at added
  split at added
  · cases added
  · split at added
    · cases added
    · next set inserted =>
        cases added
        exact inserted

mutual

/-- Loading a document keeps what inserting a model keeps. -/
theorem Loads.keeps {tree : Tree} {pending : List String} {location : String}
    {loading : Loading} {outcome : Except LoadError (Node × Loading)}
    (loads : Loads tree pending location loading outcome) {holds : ModelSet → Prop}
    (step : ∀ set model later, ModelSet.insert? set model = some later → holds set →
      holds later)
    {root : Node} {later : Loading} (success : outcome = .ok (root, later))
    (first : holds loading.set) : holds later.set := by
  match loads with
  | .circular absent again => cases success
  | .unread absent new read => cases success
  | .interrupted absent new read imports => cases success
  | .known found =>
      cases success
      exact first
  | .built absent new read imports added =>
      obtain ⟨model, inserted⟩ := insert?_of_addDocument (added.trans success)
      exact step _ model _ inserted (imports.keeps step rfl first)

theorem LoadsAll.keeps {tree : Tree} {pending : List String} {base : String}
    {imports : List Import} {loading : Loading}
    {outcome : Except LoadError (Imported × Loading)}
    (loads : LoadsAll tree pending base imports loading outcome) {holds : ModelSet → Prop}
    (step : ∀ set model later, ModelSet.insert? set model = some later → holds set →
      holds later)
    {imported : Imported} {later : Loading} (success : outcome = .ok (imported, later))
    (first : holds loading.set) : holds later.set := by
  match loads with
  | .unlocated located => cases success
  | .failed located head => cases success
  | .interrupted located head tail => cases success
  | .nil =>
      cases success
      exact first
  | .cons located head tail =>
      have kept := tail.keeps step rfl (head.keeps step rfl first)
      cases success
      exact kept

end

theorem holds_of_loadEntries {base : String} {documents : List String}
    (holds : ModelSet → Prop)
    (step : ∀ set model later, ModelSet.insert? set model = some later → holds set →
      holds later)
    {loading later : Loading} (success : loadEntries tree base documents loading = .ok later)
    (first : holds loading.set) : holds later.set := by
  induction documents generalizing loading with
  | nil =>
      cases success
      exact first
  | cons reference rest ih =>
      rw [loadEntries, bind_eq_ok_iff] at success
      obtain ⟨location, located, success⟩ := success
      rw [bind_eq_ok_iff] at success
      obtain ⟨⟨root, middle⟩, head, success⟩ := success
      exact ih success ((loads_iff.mpr head).keeps step rfl first)

/-- The first entry is loaded before the others. -/
theorem loadEntries_of_loads {base reference location : String} {rest : List String}
    {loading later : Loading} {root : Node} (located : locate reference base = .ok location)
    (loads : Loads tree [] location loading (.ok (root, later))) :
    loadEntries tree base (reference :: rest) loading = loadEntries tree base rest later := by
  rw [loadEntries, located]
  change (loadDocument tree _ [] location loading >>= _) = _
  rw [loads_iff.mp loads]
  rfl

/-- No entry is loaded after one that is not. -/
theorem loadEntries_of_loads_error {base reference location : String} {rest : List String}
    {loading : Loading} {error : LoadError} (located : locate reference base = .ok location)
    (loads : Loads tree [] location loading (.error error)) :
    loadEntries tree base (reference :: rest) loading = .error error := by
  rw [loadEntries, located]
  change (loadDocument tree _ [] location loading >>= _) = _
  rw [loads_iff.mp loads]
  rfl

/-- Models of one set have different keys. -/
theorem ModelSet.nodup_insert? {set later : ModelSet} {model : Model}
    (inserted : set.insert? model = some later) (distinct : (set.models.map Model.key).Nodup) :
    (later.models.map Model.key).Nodup := by
  unfold insert? at inserted
  cases taken : set.get? model.key with
  | some other => simp [taken] at inserted
  | none =>
      simp only [taken, Option.some.injEq] at inserted
      subst inserted
      rw [get?, List.find?_eq_none] at taken
      rw [List.map_append, List.map_singleton, ← List.concat_eq_append]
      refine distinct.concat ?_
      intro member
      obtain ⟨other, inModels, same⟩ := List.mem_map.mp member
      exact taken other inModels (by simpa using same)

theorem ModelSet.interchange_insert? {set later : ModelSet} {model : Model}
    (inserted : set.insert? model = some later) : later.interchange = set.interchange := by
  unfold insert? at inserted
  split at inserted <;> cases inserted
  rfl

/-! ## Entries -/

/-- Loading entries fails only when a location is refused, if the documents are known. -/
theorem isRefusal_of_loadEntries (working : tree.working.IsWalkable)
    (legal : tree.HasLegalNames) {known : List (Place × Model)}
    (complete : IsComplete tree known) {base : String} {documents : List String}
    {loading : Loading} {error : LoadError}
    (failed : loadEntries tree base documents loading = .error error)
    {history : List (Place × Model)} (loaded : Loaded tree history loading)
    (inside : history.map Prod.fst ⊆ known.map Prod.fst)
    (denotes : ∀ reference ∈ documents, ∃ place ∈ known.map Prod.fst,
      denoted? tree reference base = some place) : IsRefusal error := by
  induction documents generalizing loading history with
  | nil => cases failed
  | cons reference rest ih =>
      rw [List.forall_mem_cons] at denotes
      obtain ⟨⟨place, member, denoted⟩, denotes⟩ := denotes
      obtain ⟨location, located, ends⟩ := denoted?_eq_some_iff.mp denoted
      rw [loadEntries, located] at failed
      cases first : loadDocument tree (depthBound tree) [] location loading with
      | error other =>
          obtain rfl : other = error := by simpa [first, bind, Except.bind] using failed
          exact (loads_iff.mpr first).isRefusal working legal complete rfl loaded inside ends
            member List.map_nil.symm (List.forall_mem_nil _) (List.forall_mem_nil _)
      | ok result =>
          obtain ⟨root, middle⟩ := result
          have tail : loadEntries tree base rest middle = .error error := by
            simpa [first, bind, Except.bind] using failed
          obtain ⟨again, model, more, endsAgain, -, -, kept, visits, -⟩ :=
            (loads_iff.mpr first).visits working rfl loaded
          rw [ends, Except.ok.injEq] at endsAgain
          subst endsAgain
          refine ih tail kept (complete.visits inside (.cons visits .nil) ?_) denotes
          rwa [List.forall_mem_singleton]

/-! ## Sets -/

/-- What a manifest lists is loaded into a set with its interchange. -/
theorem load_of_isManifestAt {reference base directory : String} {manifest : Manifest}
    (at_ : IsManifestAt tree reference base directory manifest) :
    ModelSet.load tree reference base =
      (loadEntries tree directory manifest.documents
        { Loading.start with
          set := { ModelSet.empty with interchange := manifest.interchange } }).map
        Loading.finish := by
  obtain ⟨location, text, located, listed, read, parsed, rfl⟩ := at_
  exact load_of_manifest located listed read parsed

/-- A set that is loaded from a manifest holds what the entries reach. -/
theorem exists_isLoaded (working : tree.working.IsWalkable)
    {reference base directory : String} {manifest : Manifest}
    (at_ : IsManifestAt tree reference base directory manifest) {set : ModelSet}
    (success : ModelSet.load tree reference base = .ok set) :
    ∃ roots history declared,
      manifest.documents.map (denoted? tree · directory) = roots.map some ∧
        IsLoaded tree roots set history ∧
        set.interchange = manifest.interchange.or declared := by
  rw [load_of_isManifestAt at_] at success
  cases outcome : loadEntries tree directory manifest.documents
      { Loading.start with
        set := { ModelSet.empty with interchange := manifest.interchange } } with
  | error error =>
      rw [outcome] at success
      cases success
  | ok loading =>
      rw [outcome] at success
      cases success
      obtain ⟨roots, history, denoted, loaded, visits⟩ :=
        visits_of_loadEntries working outcome (loaded_manifest manifest.interchange)
      refine ⟨roots, history, loading.declared, denoted, ?_, ?_⟩
      · refine ⟨loaded.models, loaded.built, ?_, visits.inPostOrder⟩
        exact holds_of_loadEntries (fun set => (set.models.map Model.key).Nodup)
          (fun _ _ _ => ModelSet.nodup_insert?) outcome List.nodup_nil
      · have kept := holds_of_loadEntries
          (fun set => set.interchange = manifest.interchange)
          (fun _ _ _ inserted same => (ModelSet.interchange_insert? inserted).trans same)
          outcome rfl
        rw [Loading.finish, kept]

namespace IsLoaded

variable {roots roots' : List Place} {set other : ModelSet}
  {history history' : List (Place × Model)}

/-- The documents of a set that is loaded are there with all that they import. -/
theorem isComplete (loaded : IsLoaded tree roots set history) : IsComplete tree history where
  built := loaded.built
  keys := by
    have distinct := loaded.keys
    rw [loaded.models, List.map_map] at distinct
    exact distinct
  closed := by
    intro place member other imported
    rw [loaded.order.reached] at member ⊢
    obtain ⟨root, inRoots, reached⟩ := member
    exact ⟨root, inRoots, reached.tail imported⟩

/-- The same documents are reached, in whichever order they are asked for. -/
theorem perm_places (loaded : IsLoaded tree roots set history)
    (loaded' : IsLoaded tree roots' other history') (perm : roots.Perm roots') :
    (history.map Prod.fst).Perm (history'.map Prod.fst) := by
  rw [List.perm_ext_iff_of_nodup loaded.order.distinct loaded'.order.distinct]
  intro place
  rw [loaded.order.reached, loaded'.order.reached]
  simp only [perm.mem_iff]

/-- The sets hold the same models. -/
theorem perm_models (loaded : IsLoaded tree roots set history)
    (loaded' : IsLoaded tree roots' other history') (perm : roots.Perm roots') :
    (set.models.map Model.withoutSource).Perm (other.models.map Model.withoutSource) := by
  have all : ∀ {history : List (Place × Model)},
      (∀ entry ∈ history, ModelAt tree entry.1 entry.2) →
        List.Forall₂ (ModelAt tree) (history.map Prod.fst) (history.map Prod.snd) := by
    intro history built
    rw [List.forall₂_map_left_iff, List.forall₂_map_right_iff, List.forall₂_same]
    exact built
  obtain ⟨matched, same, order⟩ :=
    List.perm_comp_forall₂ (loaded.perm_places loaded' perm) (all loaded'.built)
  have plain : ∀ {places : List Place} {models others : List Model},
      List.Forall₂ (ModelAt tree) places models → List.Forall₂ (ModelAt tree) places others →
        models.map Model.withoutSource = others.map Model.withoutSource := by
    intro places models others first second
    induction first generalizing others with
    | nil =>
        cases second
        rfl
    | cons has _ ih =>
        cases second with
        | cons again rest =>
            rw [List.map_cons, List.map_cons, has.withoutSource_eq again, ih rest]
  rw [loaded.models, loaded'.models, plain (all loaded.built) same]
  exact order.map _

end IsLoaded

/-- When the entries of a manifest are loaded, they are loaded in every other order unless a
location is refused. -/
theorem isRefusal_of_load (working : tree.working.IsWalkable) (legal : tree.HasLegalNames)
    {first second base base' directory : String} {manifest manifest' : Manifest}
    (at_ : IsManifestAt tree first base directory manifest)
    (at' : IsManifestAt tree second base' directory manifest')
    (perm : manifest.documents.Perm manifest'.documents) {set : ModelSet}
    (success : ModelSet.load tree first base = .ok set) {error : LoadError}
    (failed : ModelSet.load tree second base' = .error error) : IsRefusal error := by
  obtain ⟨roots, history, -, denoted, loaded, -⟩ := exists_isLoaded working at_ success
  rw [load_of_isManifestAt at'] at failed
  cases outcome : loadEntries tree directory manifest'.documents
      { Loading.start with
        set := { ModelSet.empty with interchange := manifest'.interchange } } with
  | ok loading =>
      rw [outcome] at failed
      cases failed
  | error other =>
      rw [outcome] at failed
      cases failed
      refine isRefusal_of_loadEntries working legal loaded.isComplete outcome
        (loaded_manifest manifest'.interchange) (List.nil_subset _) ?_
      intro reference inDocuments
      have found := List.mem_map_of_mem (f := (denoted? tree · directory))
        (perm.mem_iff.mpr inDocuments)
      rw [denoted] at found
      obtain ⟨place, inRoots, same⟩ := List.mem_map.mp found
      exact ⟨place, (loaded.order.reached place).mpr ⟨place, inRoots, .refl⟩, same.symm⟩

end

end FlatMessage.Schema
