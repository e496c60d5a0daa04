import FlatMessage.Proofs.Loading.Documents

/-!
# The order of loading

What is loaded is a history: documents and their models, in the order in which they are
added.  Loading a document visits it depth first in the graph of documents, and every
document that is visited anew is added with its model.

A document that is being loaded is not added, so nothing is added twice; a document that
is met again while it is being loaded makes the loading fail, and the failure reports a
path of imports that comes back to where it has been.
-/

namespace FlatMessage.Schema

open Files (Place Tree)

/-- What is loaded: documents with their models, in order. -/
structure Loaded (tree : Tree) (history : List (Place × Model)) (loading : Loading) :
    Prop where
  loaded :
    loading.loaded = (history.map fun entry => (entry.1.path, entry.2.root)).reverse
  models : loading.set.models = history.map Prod.snd
  built : ∀ entry ∈ history, ModelAt tree entry.1 entry.2

/-! ## Adding one document -/

section

variable {tree : Tree} {location : String} {document : Document} {imported : Imported}
  {loading later : Loading} {root : Node}

/-- A document is added when its model is valid and new. -/
theorem addDocument_eq_ok
    (added : addDocument tree location document imported loading = .ok (root, later)) :
    ∃ built,
      document.build (tree.canonical location) imported = .ok built ∧
      ({ built with source := some location } : Model).validate = .ok () ∧
      root = built.root ∧
      later =
        { set :=
            { loading.set with
              models := loading.set.models ++ [{ built with source := some location }] }
          declared := loading.declared.or document.interchange
          loaded := (tree.canonical location, built.root) :: loading.loaded } := by
  rw [addDocument, bind_eq_ok_iff] at added
  obtain ⟨built, build, added⟩ := added
  refine ⟨built, ?_, ?_⟩
  · cases outcome : document.build (tree.canonical location) imported with
    | ok other =>
        rw [outcome] at build
        cases build
        rfl
    | error error => simp [outcome, inDocument] at build
  · unfold Loading.add at added
    split at added
    · cases added
    · next valid =>
        refine ⟨valid, ?_⟩
        unfold ModelSet.insert? at added
        cases taken : loading.set.get? ({ built with source := some location } : Model).key with
        | some other => simp [taken] at added
        | none =>
            simp only [taken, Except.ok.injEq, Prod.mk.injEq] at added
            exact ⟨added.1.symm, added.2.symm⟩

/-- Adding a document does not report a circle. -/
theorem addDocument_ne_circular (chain : List String) :
    addDocument tree location document imported loading ≠ .error (.circular chain) := by
  intro failed
  unfold addDocument at failed
  cases outcome : document.build (tree.canonical location) imported with
  | error error => simp [outcome, inDocument, bind, Except.bind] at failed
  | ok built =>
      simp only [outcome, inDocument, bind, Except.bind, Loading.add] at failed
      split at failed
      · cases failed
      · split at failed <;> cases failed

/-- Reading a document does not report a circle. -/
theorem readDocument_ne_circular (chain : List String) :
    readDocument tree location ≠ .error (.circular chain) := by
  intro failed
  unfold readDocument readAt at failed
  cases read : tree.readText location with
  | error failure => simp [read, bind, Except.bind] at failed
  | ok text =>
      cases parsed : Document.parse text <;>
        simp [read, parsed, inDocument, bind, Except.bind] at failed

theorem locate_ne_circular (reference base : String) (chain : List String) :
    locate reference base ≠ .error (.circular chain) := by
  unfold locate
  split <;> simp

theorem locate_eq_ok_iff {reference base : String} :
    locate reference base = .ok location ↔
      Location.resolve? reference base = some location := by
  unfold locate
  cases Location.resolve? reference base <;> simp

/-- A reference denotes the place that its location leads to. -/
theorem denoted?_eq_some_iff {reference base : String} {place : Place} :
    denoted? tree reference base = some place ↔
      ∃ location, locate reference base = .ok location ∧
        tree.place? location = .ok place := by
  rw [denoted?, Option.bind_eq_some_iff]
  refine exists_congr fun location => and_congr locate_eq_ok_iff.symm ?_
  cases tree.place? location <;> simp [Except.toOption]

end

/-! ## What is known of loaded documents -/

section

variable {tree : Tree}

/-- A file is at a place that paths lead to. -/
def IsFile (tree : Tree) (place : Place) : Prop :=
  place.IsWalkable ∧ place ≠ [] ∧ ∃ content, tree.root.at? place = some (.file content)

theorem ModelAt.isFile {place : Place} {model : Model} (working : tree.working.IsWalkable)
    (has : ModelAt tree place model) : IsFile tree place := by
  cases has with
  | mk read imports build valid found =>
      obtain ⟨content, file⟩ := file_of_documentAt? read
      exact ⟨Tree.isWalkable_of_place? working found, Tree.ne_nil_of_file found file,
        content, file⟩

theorem ModelAt.valid {place : Place} {model : Model} (has : ModelAt tree place model) :
    model.validate = .ok () := by
  cases has
  assumption

namespace Loaded

variable {history : List (Place × Model)} {loading : Loading}

theorem start : Loaded tree [] Loading.start where
  loaded := rfl
  models := rfl
  built := nofun

/-- A document is added after the others. -/
theorem add (loaded : Loaded tree history loading) {place : Place} {model : Model}
    (has : ModelAt tree place model) {declared : Option InterchangeProperties} :
    Loaded tree (history ++ [(place, model)])
      { set := { loading.set with models := loading.set.models ++ [model] }
        declared
        loaded := (place.path, model.root) :: loading.loaded } where
  loaded := by simp [loaded.loaded]
  models := by simp [loaded.models]
  built := by
    rw [List.forall_mem_append, List.forall_mem_singleton]
    exact ⟨loaded.built, has⟩

/-- A location that is known leads to a loaded document. -/
theorem known (loaded : Loaded tree history loading) (working : tree.working.IsWalkable)
    {location : String} {root : Node}
    (found : loading.loaded.lookup (tree.canonical location) = some root) :
    ∃ entry ∈ history, tree.place? location = .ok entry.1 ∧ entry.2.root = root := by
  obtain ⟨before, after, whole, -⟩ := List.lookup_eq_some_iff.mp found
  have member : (tree.canonical location, root) ∈ loading.loaded := by simp [whole]
  rw [loaded.loaded, List.mem_reverse, List.mem_map] at member
  obtain ⟨entry, inHistory, same⟩ := member
  rw [Prod.mk.injEq] at same
  obtain ⟨walkable, filled, content, file⟩ := (loaded.built entry inHistory).isFile working
  exact ⟨entry, inHistory,
    Tree.place?_of_canonical working walkable file filled same.1.symm, same.2⟩

/-- A location that is not known does not lead to a loaded document. -/
theorem fresh (loaded : Loaded tree history loading) {location : String} {place : Place}
    (absent : loading.loaded.lookup (tree.canonical location) = none)
    (canonical : tree.canonical location = place.path) : place ∉ history.map Prod.fst := by
  intro member
  obtain ⟨entry, inHistory, rfl⟩ := List.mem_map.mp member
  rw [List.lookup_eq_none_iff] at absent
  have there : (entry.1.path, entry.2.root) ∈ loading.loaded := by
    rw [loaded.loaded, List.mem_reverse, List.mem_map]
    exact ⟨entry, inHistory, rfl⟩
  have differs := absent _ there
  rw [canonical] at differs
  simp at differs

end Loaded

/-! ## Loading what can be loaded -/

mutual

/-- A document that is loaded has a model, and it is visited depth first.  What is added
was not being loaded. -/
theorem Loads.visits {tree : Tree} {pending : List String} {location : String}
    {loading : Loading} {outcome : Except LoadError (Node × Loading)}
    (loads : Loads tree pending location loading outcome)
    (working : tree.working.IsWalkable) {root : Node} {later : Loading}
    (success : outcome = .ok (root, later)) {history : List (Place × Model)}
    (loaded : Loaded tree history loading) :
    ∃ place model more,
      tree.place? location = .ok place ∧ ModelAt tree place model ∧ model.root = root ∧
      Loaded tree (history ++ more) later ∧
      Visits (imports? tree) (history.map Prod.fst) place
        ((history ++ more).map Prod.fst) ∧
      ∀ entry ∈ more, entry.1.path ∉ pending := by
  match loads with
  | .circular absent again => cases success
  | .unread absent first read => cases success
  | .interrupted absent first read imports => cases success
  | .known found =>
      cases success
      obtain ⟨⟨place, model⟩, member, leads, same⟩ := loaded.known working found
      refine ⟨place, model, [], leads, loaded.built _ member, same, ?_, ?_, nofun⟩
      · rwa [List.append_nil]
      · rw [List.append_nil]
        exact .known (List.mem_map_of_mem member)
  | .built absent first read imports added =>
      obtain ⟨place, leads, canonical, filled, document⟩ := documentAt?_of_readDocument read
      obtain ⟨content, file⟩ := file_of_documentAt? document
      obtain ⟨others, more, referred, importedAt, kept, visits, apart⟩ :=
        imports.visits working rfl rfl loaded leads file
      obtain ⟨built, build, valid, rfl, rfl⟩ := addDocument_eq_ok (added.trans success)
      rw [canonical] at build apart
      have has : ModelAt tree place { built with source := some location } :=
        .mk document importedAt build valid leads
      have unfinished : place ∉ (history.map Prod.fst) ++ more.map Prod.fst := by
        rw [List.mem_append, not_or]
        refine ⟨loaded.fresh absent canonical, ?_⟩
        intro member
        obtain ⟨entry, inMore, same⟩ := List.mem_map.mp member
        exact apart entry inMore (by simp [same])
      refine ⟨place, _, more ++ [(place, { built with source := some location })], leads,
        has, rfl, ?_, ?_, ?_⟩
      · rw [← List.append_assoc, canonical]
        exact kept.add has
      · rw [← List.append_assoc, List.map_append]
        rw [← List.map_append] at unfinished
        refine .new (loaded.fresh absent canonical) ?_ visits unfinished
        rw [imports?, document]
        exact referred
      · intro entry member
        rcases List.mem_append.mp member with inner | last
        · exact fun again => apart entry inner (List.mem_append_left _ again)
        · obtain rfl := List.mem_singleton.mp last
          exact canonical ▸ first

theorem LoadsAll.visits {tree : Tree} {pending : List String} {base : String}
    {imports : List Import} {loading : Loading}
    {outcome : Except LoadError (Imported × Loading)}
    (loads : LoadsAll tree pending base imports loading outcome)
    (working : tree.working.IsWalkable) {imported : Imported} {later : Loading}
    (success : outcome = .ok (imported, later)) {location : String}
    (directory : base = Files.Path.directory location) {history : List (Place × Model)}
    (loaded : Loaded tree history loading) {place : Place} {content : List UInt8}
    (leads : tree.place? location = .ok place)
    (file : tree.root.at? place = some (.file content)) :
    ∃ others more,
      imports.mapM (fun entry => referred? tree place entry.resource) = some others ∧
      ImportedAt tree place imports imported ∧
      Loaded tree (history ++ more) later ∧
      VisitsAll (imports? tree) (history.map Prod.fst) others
        ((history ++ more).map Prod.fst) ∧
      ∀ entry ∈ more, entry.1.path ∉ pending := by
  match loads with
  | .unlocated located => cases success
  | .failed located head => cases success
  | .interrupted located head tail => cases success
  | .nil =>
      cases success
      refine ⟨[], [], rfl, .nil, ?_, ?_, nofun⟩
      · rwa [List.append_nil]
      · rw [List.append_nil]
        exact .nil
  | .cons located head tail =>
      obtain ⟨other, model, more, leadsHead, has, same, keptHead, visitsHead, apartHead⟩ :=
        head.visits working rfl loaded
      obtain ⟨others, rest, referred, importedAt, kept, visits, apart⟩ :=
        tail.visits working rfl directory keptHead leads file
      subst same directory
      cases success
      have walkable := Tree.isWalkable_of_place? working leads
      have filled := Tree.ne_nil_of_file leads file
      have denotes := denoted?_eq_some_iff.mpr ⟨_, located, leadsHead⟩
      rw [denoted?_directory walkable filled file leads] at denotes
      rw [List.append_assoc] at kept visits
      refine ⟨other :: others, more ++ rest, ?_, .cons denotes has importedAt, kept,
        .cons visitsHead visits, ?_⟩
      · rw [List.mapM_cons, denotes, referred]
        rfl
      · rw [List.forall_mem_append]
        exact ⟨apartHead, apart⟩

end

/-! ## Circles -/

/-- A path of documents ends at a document that it has met before. -/
def ComesBack (places : List Place) : Prop :=
  ∃ last, places.getLast? = some last ∧ last ∈ places.dropLast

mutual

/-- A circle that is reported goes from the documents being loaded along imports. -/
theorem Loads.circle {tree : Tree} {pending : List String} {location : String}
    {loading : Loading} {outcome : Except LoadError (Node × Loading)}
    (loads : Loads tree pending location loading outcome)
    (working : tree.working.IsWalkable) {chain : List String}
    (circular : outcome = .error (.circular chain)) {history : List (Place × Model)}
    (loaded : Loaded tree history loading) {places : List Place}
    (being : pending = places.map Place.path)
    (files : ∀ each ∈ places, IsFile tree each) :
    ∃ place more,
      tree.place? location = .ok place ∧
      chain = (places ++ place :: more).map Place.path ∧
      List.IsChain (Imports tree) (place :: more) ∧ ComesBack (places ++ place :: more) := by
  match loads with
  | .known found => cases circular
  | .circular absent again =>
      cases circular
      rw [being] at again
      obtain ⟨place, inPlaces, same⟩ := List.mem_map.mp again
      obtain ⟨walkable, filled, content, file⟩ := files place inPlaces
      refine ⟨place, [], Tree.place?_of_canonical working walkable file filled same.symm,
        ?_, .singleton place, place, by simp, by simpa using inPlaces⟩
      rw [being, ← same, List.map_append]
      rfl
  | .unread absent first read =>
      have same := Except.error.inj circular
      exact absurd (read.trans (congrArg Except.error same)) (readDocument_ne_circular _)
  | .interrupted absent first read imports =>
      have same := Except.error.inj circular
      obtain ⟨place, leads, canonical, filled, document⟩ := documentAt?_of_readDocument read
      obtain ⟨content, file⟩ := file_of_documentAt? document
      have walkable := Tree.isWalkable_of_place? working leads
      have beingToo : pending ++ [tree.canonical location] =
          (places ++ [place]).map Place.path := by
        rw [being, canonical, List.map_append]
        rfl
      have filesToo : ∀ each ∈ places ++ [place], IsFile tree each := by
        rw [List.forall_mem_append, List.forall_mem_singleton]
        exact ⟨files, walkable, filled, content, file⟩
      obtain ⟨entry, member, other, more, denotes, whole, path, back⟩ :=
        imports.circle working (congrArg Except.error same) rfl loaded leads file beingToo
          filesToo
      rw [List.append_assoc] at whole back
      exact ⟨place, other :: more, leads, whole,
        .cons_cons ⟨_, entry, document, member, denotes⟩ path, back⟩
  | .built absent first read imports added =>
      exact absurd (added.trans circular) (addDocument_ne_circular _)

theorem LoadsAll.circle {tree : Tree} {pending : List String} {base : String}
    {imports : List Import} {loading : Loading}
    {outcome : Except LoadError (Imported × Loading)}
    (loads : LoadsAll tree pending base imports loading outcome)
    (working : tree.working.IsWalkable) {chain : List String}
    (circular : outcome = .error (.circular chain)) {location : String}
    (directory : base = Files.Path.directory location) {history : List (Place × Model)}
    (loaded : Loaded tree history loading) {place : Place} {content : List UInt8}
    (leads : tree.place? location = .ok place)
    (file : tree.root.at? place = some (.file content)) {places : List Place}
    (being : pending = places.map Place.path)
    (files : ∀ each ∈ places, IsFile tree each) :
    ∃ entry ∈ imports, ∃ other more,
      referred? tree place entry.resource = some other ∧
      chain = (places ++ other :: more).map Place.path ∧
      List.IsChain (Imports tree) (other :: more) ∧ ComesBack (places ++ other :: more) := by
  have walkable := Tree.isWalkable_of_place? working leads
  have filled := Tree.ne_nil_of_file leads file
  match loads with
  | .nil => cases circular
  | .unlocated located =>
      have same := Except.error.inj circular
      exact absurd (located.trans (congrArg Except.error same)) (locate_ne_circular _ _ _)
  | .failed located head =>
      have same := Except.error.inj circular
      obtain ⟨other, more, leadsHead, whole, path, back⟩ :=
        head.circle working (congrArg Except.error same) loaded being files
      have denotes := denoted?_eq_some_iff.mpr ⟨_, located, leadsHead⟩
      rw [directory, denoted?_directory walkable filled file leads] at denotes
      exact ⟨_, List.mem_cons_self, other, more, denotes, whole, path, back⟩
  | .interrupted located head tail =>
      obtain ⟨-, -, more, -, -, -, kept, -, -⟩ := head.visits working rfl loaded
      have same := Except.error.inj circular
      obtain ⟨entry, member, rest⟩ :=
        tail.circle working (congrArg Except.error same) directory kept leads file being
          files
      exact ⟨entry, List.mem_cons_of_mem _ member, rest⟩
  | .cons located head tail => cases circular

end

end

end FlatMessage.Schema
