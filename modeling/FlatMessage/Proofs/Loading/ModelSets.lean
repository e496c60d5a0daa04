import FlatMessage.Proofs.Loading.Order

/-!
# Loaded model sets

A model set that is loaded holds the documents that are reached from the ones asked for,
in depth-first post-order and each of them once.  So nothing is loaded when documents
that are reached import each other in a circle, and a circle that is reported starts at
one of the documents asked for.
-/

namespace FlatMessage.Schema

open Files (Place Tree)
open Relation (ReflTransGen TransGen)

/-- The places of the documents that a reference asks for: of the document itself, or of
the entries of a manifest. -/
def requested (tree : Tree) (reference base : String) : List (Option Place) :=
  match locate reference base with
  | .error _ => []
  | .ok location =>
      if isManifest location then
        match (readAt tree location).toOption.bind Manifest.ofText? with
        | none => []
        | some manifest =>
            manifest.documents.map fun entry =>
              denoted? tree entry (Files.Path.directory location)
      else [(tree.place? location).toOption]

/-- Documents are in depth-first post-order of imports. -/
structure InPostOrder (tree : Tree) (roots done : List Place) : Prop where
  visits : VisitsAll (imports? tree) [] roots done
  /-- No document occurs twice. -/
  distinct : done.Nodup
  /-- The documents are those that are reached. -/
  reached : ∀ place, place ∈ done ↔ ∃ root ∈ roots, ReflTransGen (Imports tree) root place
  /-- What a document imports comes before the document. -/
  importsFirst : ∀ before place after, done = before ++ place :: after →
    ∀ other, Imports tree place other → other ∈ before
  /-- No document imports itself, not even through others. -/
  acyclic : ∀ place ∈ done, ¬TransGen (Imports tree) place place

/-! ## Visits of documents -/

section

variable {tree : Tree} {roots done : List Place}

theorem imports_of_edge {place other : Place} (edge : Edge (imports? tree) place other) :
    Imports tree place other := by
  obtain ⟨others, all, member⟩ := edge
  exact (mem_iff_imports all).mp member

/-- Among documents in order an import is an edge. -/
theorem edge_of_imports (ordered : Ordered (imports? tree) done) {place other : Place}
    (member : place ∈ done) (imported : Imports tree place other) :
    Edge (imports? tree) place other := by
  obtain ⟨before, after, whole⟩ := List.append_of_mem member
  obtain ⟨others, all, -⟩ := ordered before place after whole
  exact ⟨others, all, (mem_iff_imports all).mpr imported⟩

theorem reflTransGen_edge (ordered : Ordered (imports? tree) done) {place other : Place}
    (member : place ∈ done) (reached : ReflTransGen (Imports tree) place other) :
    ReflTransGen (Edge (imports? tree)) place other := by
  induction reached with
  | refl => exact .refl
  | tail _ imported ih =>
      exact ih.tail (edge_of_imports ordered (ordered.closed List.prefix_rfl ih member) imported)

/-- Visiting documents finishes them in post-order. -/
theorem VisitsAll.inPostOrder (visits : VisitsAll (imports? tree) [] roots done) :
    InPostOrder tree roots done := by
  have ordered := visits.ordered ordered_nil
  have distinct := visits.nodup List.nodup_nil
  refine ⟨visits, distinct, ?_, ?_, ?_⟩
  · intro place
    rw [visits.mem_iff]
    constructor
    · rintro ⟨root, inRoots, reached⟩
      exact ⟨root, inRoots, reached.lift id fun _ _ => imports_of_edge⟩
    · rintro ⟨root, inRoots, reached⟩
      exact ⟨root, inRoots, reflTransGen_edge ordered (visits.extends.2 root inRoots) reached⟩
  · intro before place after whole other imported
    obtain ⟨others, all, finished⟩ := ordered before place after whole
    exact finished other ((mem_iff_imports all).mpr imported)
  · intro place member cycle
    obtain ⟨other, imported, back⟩ := TransGen.head'_iff.mp cycle
    have edge := edge_of_imports ordered member imported
    have there := ordered.closed List.prefix_rfl (.single edge) member
    exact ordered.acyclic distinct member
      (.head' edge (reflTransGen_edge ordered there back))

end

/-! ## Manifests -/

section

variable {tree : Tree} {base : String} {loading : Loading} {history : List (Place × Model)}

/-- The entries of a manifest are visited in order. -/
theorem visits_of_loadEntries (working : tree.working.IsWalkable) {documents : List String}
    {later : Loading} (success : loadEntries tree base documents loading = .ok later)
    (loaded : Loaded tree history loading) :
    ∃ roots more,
      documents.map (denoted? tree · base) = roots.map some ∧
      Loaded tree (history ++ more) later ∧
      VisitsAll (imports? tree) (history.map Prod.fst) roots
        ((history ++ more).map Prod.fst) := by
  induction documents generalizing loading history with
  | nil =>
      cases success
      refine ⟨[], [], rfl, ?_, ?_⟩
      · rwa [List.append_nil]
      · rw [List.append_nil]
        exact .nil
  | cons reference rest ih =>
      rw [loadEntries, bind_eq_ok_iff] at success
      obtain ⟨location, located, success⟩ := success
      rw [bind_eq_ok_iff] at success
      obtain ⟨⟨root, middle⟩, first, success⟩ := success
      obtain ⟨place, model, more, leads, -, -, kept, visits, -⟩ :=
        (loads_iff.mpr first).visits working rfl loaded
      obtain ⟨roots, others, denoted, keptAll, visitsAll⟩ := ih success kept
      rw [List.append_assoc] at keptAll visitsAll
      refine ⟨place :: roots, more ++ others, ?_, keptAll, .cons visits visitsAll⟩
      rw [List.map_cons, List.map_cons, denoted, denoted?_eq_some_iff.mpr ⟨_, located, leads⟩]

/-- A circle that is reported starts at an entry of the manifest. -/
theorem circle_of_loadEntries (working : tree.working.IsWalkable) {documents : List String}
    {chain : List String}
    (circular : loadEntries tree base documents loading = .error (.circular chain))
    (loaded : Loaded tree history loading) :
    ∃ place more,
      some place ∈ documents.map (denoted? tree · base) ∧
      chain = (place :: more).map Place.path ∧
      List.IsChain (Imports tree) (place :: more) ∧ ComesBack (place :: more) := by
  induction documents generalizing loading history with
  | nil => cases circular
  | cons reference rest ih =>
      rw [loadEntries] at circular
      cases located : locate reference base with
      | error error =>
          rw [located] at circular
          exact absurd (located.trans (congrArg _ (Except.error.inj circular)))
            (locate_ne_circular _ _ _)
      | ok location =>
          rw [located] at circular
          cases first : loadDocument tree (depthBound tree) [] location loading with
          | error error =>
              have same : error = .circular chain := by
                simpa [first, bind, Except.bind] using circular
              obtain ⟨place, more, leads, whole, path, back⟩ :=
                (loads_iff.mpr first).circle working (congrArg _ same) loaded
                  (List.map_nil).symm nofun
              refine ⟨place, more, ?_, whole, path, back⟩
              rw [List.map_cons, denoted?_eq_some_iff.mpr ⟨_, located, leads⟩]
              exact List.mem_cons_self
          | ok result =>
              obtain ⟨root, middle⟩ := result
              obtain ⟨-, -, more, -, -, -, kept, -, -⟩ :=
                (loads_iff.mpr first).visits working rfl loaded
              have tail : loadEntries tree base rest middle = .error (.circular chain) := by
                simpa [first, bind, Except.bind] using circular
              obtain ⟨place, others, member, rest⟩ := ih tail kept
              exact ⟨place, others, List.mem_cons_of_mem _ member, rest⟩

end

/-! ## Model sets -/

section

variable {tree : Tree} {reference base : String}

theorem readAt_ne_circular (location : String) (chain : List String) :
    readAt tree location ≠ .error (.circular chain) := by
  unfold readAt
  split <;> simp

theorem loaded_manifest (interchange : Option InterchangeProperties) :
    Loaded tree []
      { Loading.start with set := { ModelSet.empty with interchange } } where
  loaded := rfl
  models := rfl
  built := nofun

/-- What a manifest lists is loaded into a set with its interchange. -/
theorem load_of_manifest {location text : String} {manifest : Manifest}
    (located : locate reference base = .ok location) (listed : isManifest location = true)
    (read : readAt tree location = .ok text)
    (parsed : Manifest.ofText? text = some manifest) :
    ModelSet.load tree reference base =
      (loadEntries tree (Files.Path.directory location) manifest.documents
        { Loading.start with
          set := { ModelSet.empty with interchange := manifest.interchange } }).map
        Loading.finish := by
  have loads : loadManifest tree location =
      loadEntries tree (Files.Path.directory location) manifest.documents
        { Loading.start with
          set := { ModelSet.empty with interchange := manifest.interchange } } := by
    simp only [loadManifest, read, parsed, bind, Except.bind]
  rw [ModelSet.load, located, ← loads]
  exact if_pos listed

/-- A document that is asked for is loaded as the only entry. -/
theorem load_of_single {location : String} (located : locate reference base = .ok location)
    (single : isManifest location = false) :
    ModelSet.load tree reference base =
      (loadEntries tree base [reference] Loading.start).map Loading.finish := by
  rw [ModelSet.load, loadEntries, located]
  change (if isManifest location then _ else loadDocument tree _ [] location _ >>= _) =
    (loadDocument tree _ [] location _ >>= _).map _
  rw [single]
  cases loadDocument tree (depthBound tree) [] location Loading.start <;> rfl

/-- Loading fails before the first document, or it loads the documents asked for as entries. -/
theorem load_cases (tree : Tree) (reference base : String) :
    (∃ error, ModelSet.load tree reference base = .error error ∧
      ∀ chain, error ≠ .circular chain) ∨
    ∃ documents directory start,
      requested tree reference base = documents.map (denoted? tree · directory) ∧
      Loaded tree [] start ∧
      ModelSet.load tree reference base =
        (loadEntries tree directory documents start).map Loading.finish := by
  cases located : locate reference base with
  | error error =>
      refine .inl ⟨error, by rw [ModelSet.load, located]; rfl, ?_⟩
      rintro chain rfl
      exact locate_ne_circular _ _ _ located
  | ok location =>
      cases listed : isManifest location with
      | false =>
          refine .inr ⟨[reference], base, Loading.start, ?_, Loaded.start,
            load_of_single located listed⟩
          simp [requested, denoted?, located, listed, locate_eq_ok_iff.mp located]
      | true =>
          cases read : readAt tree location with
          | error error =>
              refine .inl ⟨error, ?_, ?_⟩
              · simp [ModelSet.load, loadManifest, located, listed, read, bind, Except.bind,
                  Except.map]
              · rintro chain rfl
                exact readAt_ne_circular _ _ read
          | ok text =>
              cases parsed : Manifest.ofText? text with
              | none =>
                  refine .inl ⟨.malformedManifest location, ?_, by simp⟩
                  simp [ModelSet.load, loadManifest, located, listed, read, parsed, bind,
                    Except.bind, Except.map]
              | some manifest =>
                  refine .inr ⟨manifest.documents, Files.Path.directory location, _, ?_,
                    loaded_manifest _, load_of_manifest located listed read parsed⟩
                  simp [requested, located, listed, read, parsed, Except.toOption]

/-- The documents asked for are visited in order. -/
theorem visits_of_load (working : tree.working.IsWalkable) {set : ModelSet}
    (success : ModelSet.load tree reference base = .ok set) :
    ∃ roots history loading,
      requested tree reference base = roots.map some ∧ Loaded tree history loading ∧
      set = loading.finish ∧
      VisitsAll (imports? tree) [] roots (history.map Prod.fst) := by
  obtain ⟨error, failed, -⟩ | ⟨documents, directory, start, asked, begins, loads⟩ :=
    load_cases tree reference base
  · rw [failed] at success
    cases success
  · rw [loads] at success
    cases outcome : loadEntries tree directory documents start with
    | error error =>
        rw [outcome] at success
        cases success
    | ok loading =>
        rw [outcome] at success
        cases success
        obtain ⟨roots, history, denoted, loaded, visits⟩ :=
          visits_of_loadEntries working outcome begins
        exact ⟨roots, history, loading, asked.trans denoted, loaded, rfl, visits⟩

/-- A circle that is reported starts at a document asked for. -/
theorem circle_of_load (working : tree.working.IsWalkable) {chain : List String}
    (circular : ModelSet.load tree reference base = .error (.circular chain)) :
    ∃ root more,
      some root ∈ requested tree reference base ∧
        chain = (root :: more).map Place.path ∧
          List.IsChain (Imports tree) (root :: more) ∧ ComesBack (root :: more) := by
  obtain ⟨error, failed, other⟩ | ⟨documents, directory, start, asked, begins, loads⟩ :=
    load_cases tree reference base
  · rw [failed] at circular
    exact absurd (Except.error.inj circular) (other chain)
  · rw [loads] at circular
    cases outcome : loadEntries tree directory documents start with
    | ok loading =>
        rw [outcome] at circular
        cases circular
    | error error =>
        rw [outcome] at circular
        rw [asked]
        exact circle_of_loadEntries working
          (outcome.trans (congrArg _ (Except.error.inj circular))) begins

end

/-- Loading comes to an end.  A set that is loaded holds the documents that are reached,
in depth-first post-order, with valid models; documents that are reached and import each
other in a circle make loading fail; and a circle that is reported starts at a document
asked for, follows imports and comes back to where it has been. -/
theorem load_modelSet (tree : Tree) (working : tree.working.IsWalkable)
    (reference base : String) :
    (∀ location loading outcome, Loads tree [] location loading outcome ↔
      loadDocument tree (depthBound tree) [] location loading = outcome) ∧
    (∀ set, ModelSet.load tree reference base = .ok set →
      ∃ roots done,
        requested tree reference base = roots.map some ∧ InPostOrder tree roots done ∧
          List.Forall₂ (ModelAt tree) done set.models ∧
            ∀ model ∈ set.models, model.validate = .ok ()) ∧
    (∀ root place, some root ∈ requested tree reference base →
      ReflTransGen (Imports tree) root place → TransGen (Imports tree) place place →
        ∃ error, ModelSet.load tree reference base = .error error) ∧
    ∀ chain, ModelSet.load tree reference base = .error (.circular chain) →
      ∃ root more,
        some root ∈ requested tree reference base ∧
          chain = (root :: more).map Place.path ∧
            List.IsChain (Imports tree) (root :: more) ∧ ComesBack (root :: more) := by
  refine ⟨fun _ _ _ => loads_iff, ?_, ?_, fun _ => circle_of_load working⟩
  · intro set success
    obtain ⟨roots, history, loading, asked, loaded, rfl, visits⟩ :=
      visits_of_load working success
    have models : loading.finish.models = history.map Prod.snd := loaded.models
    rw [models]
    refine ⟨roots, history.map Prod.fst, asked, visits.inPostOrder, ?_, ?_⟩
    · rw [List.forall₂_map_left_iff, List.forall₂_map_right_iff, List.forall₂_same]
      exact loaded.built
    · intro model member
      obtain ⟨entry, inHistory, rfl⟩ := List.mem_map.mp member
      exact (loaded.built entry inHistory).valid
  · intro root place asked reached cycle
    cases outcome : ModelSet.load tree reference base with
    | error error => exact ⟨error, rfl⟩
    | ok set =>
        obtain ⟨roots, history, loading, all, -, -, visits⟩ := visits_of_load working outcome
        have order := visits.inPostOrder
        rw [all, List.mem_map] at asked
        obtain ⟨other, inRoots, same⟩ := asked
        obtain rfl := Option.some.inj same
        have member := (order.reached place).mpr ⟨other, inRoots, reached⟩
        exact absurd cycle (order.acyclic place member)

/-- A document that imports itself, and one that imports nothing. -/
def ringTree : Tree where
  root := .directory [("work", .directory
    [ ("plain", .file (Text.bytes
        "<edimap><description name='p' version='1'/><segments xmltag='p'/></edimap>")),
      ("ring", .file (Text.bytes
        ("<edimap><import resource='ring' namespace='r'/>" ++
          "<description name='r' version='1'/><segments xmltag='r'/></edimap>"))) ])]
  working := ["work"]

/-- The document that imports nothing is loaded, and the circle of the other one is
reported with the one document that it goes through. -/
theorem load_ringTree :
    Place.IsWalkable ringTree.working ∧
      (∃ set roots done,
        ModelSet.load ringTree "plain" "" = .ok set ∧
          requested ringTree "plain" "" = roots.map some ∧
            InPostOrder ringTree roots done ∧ done.length = 1) ∧
      ∃ root more,
        some root ∈ requested ringTree "ring" "" ∧
          ["/work/ring", "/work/ring"] = (root :: more).map Place.path ∧
            List.IsChain (Imports ringTree) (root :: more) := by
  have working : Place.IsWalkable ringTree.working := by
    intro name member
    obtain rfl := List.mem_singleton.mp member
    exact ⟨by decide, by decide, by decide, by decide, by decide⟩
  refine ⟨working, ?_, ?_⟩
  · have one : (ModelSet.load ringTree "plain" "").toOption.map (·.models.length) = some 1 := by
      decide +kernel
    cases outcome : ModelSet.load ringTree "plain" "" with
    | error error => simp [outcome, Except.toOption] at one
    | ok set =>
        obtain ⟨roots, done, asked, order, models, -⟩ :=
          (load_modelSet ringTree working "plain" "").2.1 set outcome
        refine ⟨set, roots, done, rfl, asked, order, ?_⟩
        rw [models.length_eq]
        simpa [outcome, Except.toOption] using one
  · have failed : (ModelSet.load ringTree "ring" "").map (·.models.length) =
        .error (.circular ["/work/ring", "/work/ring"]) := by
      decide +kernel
    cases outcome : ModelSet.load ringTree "ring" "" with
    | ok set => simp [outcome, Except.map] at failed
    | error error =>
        obtain rfl : error = .circular ["/work/ring", "/work/ring"] := by
          simpa [outcome, Except.map] using failed
        obtain ⟨root, more, asked, whole, path, -⟩ :=
          (load_modelSet ringTree working "ring" "").2.2.2 _ outcome
        exact ⟨root, more, asked, whole, path⟩

end FlatMessage.Schema
