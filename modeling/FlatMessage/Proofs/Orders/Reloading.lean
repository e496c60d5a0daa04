import FlatMessage.Proofs.Loading.ModelSets
import FlatMessage.Proofs.Orders.Models

/-!
# Loading documents in another order

Documents that have models of different keys, together with everything that they import,
can be loaded one after the other in any order.  A document that is loaded later finds more
of its imports loaded; its own model is the same.

Only the text of a location can be in the way.  A location grows with every import that is
followed to it, the operating system refuses the text of a path that is too long, and the
order decides by which imports a document is found first.
-/

namespace FlatMessage

/-! ## Names on a walk -/

namespace Text

/-- Every character but a mark stands in a piece. -/
theorem exists_mem_splitChars (isMark : Char → Bool) {chars : List Char} {c : Char}
    (member : c ∈ chars) (plain : isMark c = false) :
    ∃ piece ∈ splitChars isMark chars, c ∈ piece := by
  induction chars with
  | nil => cases member
  | cons first rest ih =>
      rw [splitChars]
      by_cases here : isMark first
      · have inRest : c ∈ rest := by
          rcases List.mem_cons.mp member with rfl | later
          · rw [plain] at here
            cases here
          · exact later
        obtain ⟨piece, inPieces, inPiece⟩ := ih inRest
        rw [if_pos here]
        exact ⟨piece, List.mem_cons_of_mem _ inPieces, inPiece⟩
      · rw [if_neg here]
        cases pieces : splitChars isMark rest with
        | nil => exact absurd pieces (splitChars_ne_nil isMark rest)
        | cons piece others =>
            rcases List.mem_cons.mp member with rfl | later
            · exact ⟨_, List.mem_cons_self, List.mem_cons_self⟩
            · obtain ⟨other, inPieces, inPiece⟩ := ih later
              rw [pieces] at inPieces
              rcases List.mem_cons.mp inPieces with rfl | inOthers
              · exact ⟨_, List.mem_cons_self, List.mem_cons_of_mem _ inPiece⟩
              · exact ⟨other, List.mem_cons_of_mem _ inOthers, inPiece⟩

end Text

namespace Files.Tree

variable {tree : Tree} {place : Place}

/-- No name in the tree holds the character with code zero. -/
def HasLegalNames (tree : Tree) : Prop :=
  ∀ place entries name inner, tree.root.at? place = some (.directory entries) →
    Keyed.get? name entries = some inner → '\x00' ∉ name.toList

theorem zero_not_mem_of_step (legal : tree.HasLegalNames) {part : String} {next : Place}
    (stepped : tree.step place part = .ok next) : '\x00' ∉ part.toList := by
  obtain ⟨entries, there⟩ := directory_of_step stepped
  rw [step, there] at stepped
  dsimp only at stepped
  split_ifs at stepped with void up long
  · rcases void with rfl | rfl <;> decide
  · subst up
    decide
  · cases found : Keyed.get? part entries with
    | none => simp [found] at stepped
    | some inner => exact legal place entries part inner there found

/-- A path that leads somewhere does not hold the character with code zero. -/
theorem zero_not_mem_of_place? (legal : tree.HasLegalNames) {path : String}
    (leads : tree.place? path = .ok place) : '\x00' ∉ path.toList := by
  intro member
  obtain ⟨piece, inPieces, inPiece⟩ :=
    Text.exists_mem_splitChars (· == '/') member (by decide)
  rw [place?, walk] at leads
  have part := List.mem_map_of_mem (f := String.ofList) inPieces
  generalize (Text.splitChars (· == '/') path.toList).map String.ofList = parts at leads part
  generalize tree.start path = first at leads
  induction parts generalizing first with
  | nil => cases part
  | cons name rest ih =>
      rw [List.foldlM_cons, bind_eq_ok_iff] at leads
      obtain ⟨next, stepped, walked⟩ := leads
      rcases List.mem_cons.mp part with rfl | later
      · exact zero_not_mem_of_step legal stepped (by rwa [String.toList_ofList])
      · exact ih later next walked

theorem ne_empty_of_file {path : String} {content : List UInt8}
    (leads : tree.place? path = .ok place)
    (file : tree.root.at? place = some (.file content)) : path ≠ "" := by
  rintro rfl
  obtain ⟨entries, directory⟩ := directory_of_walk leads
  rw [place?, String.toList_empty, walk_nil] at leads
  rw [eq_of_step_void (.inl rfl) leads, directory] at file
  cases file

/-- The text of a path to a file has no flaw unless it is too long. -/
theorem flaw?_of_file (legal : tree.HasLegalNames) {path : String} {content : List UInt8}
    (leads : tree.place? path = .ok place)
    (file : tree.root.at? place = some (.file content)) :
    flaw? path = if pathLimit ≤ path.utf8ByteSize then some .nameTooLong else none := by
  have clean : path.toList.contains '\x00' = false := by
    simpa using zero_not_mem_of_place? legal leads
  rw [flaw?, clean, if_neg Bool.false_ne_true, if_neg (ne_empty_of_file leads file)]

/-- The canonical form of a path to a file is that of its place, however long the path is. -/
theorem canonical_of_file (legal : tree.HasLegalNames) {path : String} {content : List UInt8}
    (leads : tree.place? path = .ok place)
    (file : tree.root.at? place = some (.file content)) : tree.canonical path = place.path := by
  have walked : (Path.parts path).foldlM tree.step (tree.start path) = .ok place := leads
  rw [canonical, walked, if_neg]
  have clean := zero_not_mem_of_place? legal leads
  simp [ne_empty_of_file leads file, clean]

end Files.Tree

namespace Schema

open Files (Place Tree)
open Relation (ReflTransGen TransGen)

/-- A location is refused because its text is too long. -/
def IsRefusal (error : LoadError) : Prop :=
  ∃ location, error = .unreadable location .nameTooLong ∧
    Tree.pathLimit ≤ location.utf8ByteSize

/-- Documents that have models of different keys, together with all that they import. -/
structure IsComplete (tree : Tree) (known : List (Place × Model)) : Prop where
  built : ∀ entry ∈ known, ModelAt tree entry.1 entry.2
  keys : (known.map fun entry => entry.2.key).Nodup
  closed : ∀ place ∈ known.map Prod.fst, ∀ other, Imports tree place other →
    other ∈ known.map Prod.fst

section

variable {tree : Tree} {known : List (Place × Model)}

/-! ## One document -/

/-- The text of a file is read unless its location is refused. -/
theorem readAt_of_file (legal : tree.HasLegalNames) {location text : String} {place : Place}
    {content : List UInt8} (leads : tree.place? location = .ok place)
    (file : tree.root.at? place = some (.file content))
    (decoded : Text.ofBytes? content = some text) :
    readAt tree location =
      if Tree.pathLimit ≤ location.utf8ByteSize then
        .error (.unreadable location .nameTooLong)
      else .ok text := by
  have flawed := Tree.flaw?_of_file legal leads file
  rw [readAt, Tree.readText, Tree.entry]
  split at flawed
  · next long => simp [Tree.locate, flawed, long, bind, Except.bind]
  · next short =>
      have located := Tree.locate_eq_ok_iff.mpr ⟨flawed, leads⟩
      simp [located, file, decoded, short, bind, Except.bind]

/-- A document that is found is read unless its location is refused. -/
theorem readDocument_of_documentAt? (legal : tree.HasLegalNames) {location : String}
    {place : Place} {document : Document} (leads : tree.place? location = .ok place)
    (read : documentAt? tree place = some document) :
    readDocument tree location =
      if Tree.pathLimit ≤ location.utf8ByteSize then
        .error (.unreadable location .nameTooLong)
      else .ok document := by
  obtain ⟨content, file⟩ := file_of_documentAt? read
  rw [documentAt?, file] at read
  obtain ⟨text, decoded, parsed⟩ := Option.bind_eq_some_iff.mp read
  rw [readDocument, readAt_of_file legal leads file decoded]
  split
  · rfl
  · cases understood : Document.parse text with
    | error error => simp [understood, Except.toOption] at parsed
    | ok other =>
        obtain rfl : other = document := by
          simpa [understood, Except.toOption] using parsed
        simp [understood, inDocument, bind, Except.bind]

theorem readDocument_of_lt (legal : tree.HasLegalNames) {location : String}
    {place : Place} {document : Document} (leads : tree.place? location = .ok place)
    (read : documentAt? tree place = some document)
    (short : location.utf8ByteSize < Tree.pathLimit) :
    readDocument tree location = .ok document := by
  rw [readDocument_of_documentAt? legal leads read, if_neg (Nat.not_le_of_gt short)]

/-- A document is added when it is built into a valid model with a new key. -/
theorem exists_addDocument {location : String} {document : Document} {imported : Imported}
    {loading : Loading} {built : Model}
    (build : document.build (tree.canonical location) imported = .ok built)
    (valid : built.validate = .ok ()) (fresh : loading.set.get? built.key = none) :
    ∃ result, addDocument tree location document imported loading = .ok result := by
  have sourced : ({ built with source := some location } : Model).validate = .ok () := valid
  have key : ({ built with source := some location } : Model).key = built.key := rfl
  have inserted : loading.set.insert? { built with source := some location } =
      some { loading.set with
        models := loading.set.models ++ [{ built with source := some location }] } := by
    rw [ModelSet.insert?, key, fresh]
  rw [addDocument, build]
  change ∃ result,
    Loading.add loading _ document { built with source := some location } = .ok result
  rw [Loading.add, sourced]
  dsimp only
  rw [inserted]
  exact ⟨_, rfl⟩

/-! ## Complete documents -/

namespace IsComplete

theorem exists_model (complete : IsComplete tree known) {place : Place}
    (member : place ∈ known.map Prod.fst) : ∃ model, ModelAt tree place model := by
  obtain ⟨entry, inKnown, rfl⟩ := List.mem_map.mp member
  exact ⟨entry.2, complete.built entry inKnown⟩

/-- What a document reaches is there. -/
theorem reached (complete : IsComplete tree known) {place other : Place}
    (member : place ∈ known.map Prod.fst)
    (reached : ReflTransGen (Imports tree) place other) : other ∈ known.map Prod.fst := by
  induction reached with
  | refl => exact member
  | tail _ imported ih => exact complete.closed _ ih _ imported

/-- Visiting documents stays among those that are there. -/
theorem visits (complete : IsComplete tree known) {done later nodes : List Place}
    (inside : done ⊆ known.map Prod.fst)
    (visits : VisitsAll (imports? tree) done nodes later)
    (all : ∀ node ∈ nodes, node ∈ known.map Prod.fst) : later ⊆ known.map Prod.fst := by
  intro place member
  rcases visits.reached member with before | ⟨node, inNodes, reached⟩
  · exact inside before
  · exact complete.reached (all node inNodes)
      (reached.lift id fun _ _ => imports_of_edge)

/-- A document that is not loaded has a key that is not taken. -/
theorem get?_eq_none (complete : IsComplete tree known) {history : List (Place × Model)}
    {loading : Loading} (loaded : Loaded tree history loading)
    (inside : history.map Prod.fst ⊆ known.map Prod.fst) {place : Place} {model : Model}
    (has : ModelAt tree place model) (member : place ∈ known.map Prod.fst)
    (fresh : place ∉ history.map Prod.fst) : loading.set.get? model.key = none := by
  rw [ModelSet.get?, List.find?_eq_none, loaded.models]
  intro other inModels taken
  obtain ⟨entry, inHistory, rfl⟩ := List.mem_map.mp inModels
  obtain ⟨one, inKnown, rfl⟩ := List.mem_map.mp member
  obtain ⟨two, inKnownToo, same⟩ :=
    List.mem_map.mp (inside (List.mem_map_of_mem (f := Prod.fst) inHistory))
  have keys : one.2.key = two.2.key := by
    have again := complete.built two inKnownToo
    rw [same] at again
    rw [(complete.built one inKnown).key_eq has, again.key_eq (loaded.built entry inHistory)]
    simpa [eq_comm] using taken
  obtain rfl := List.inj_on_of_nodup_map complete.keys inKnown inKnownToo keys
  rw [same] at fresh
  exact fresh (List.mem_map_of_mem inHistory)

end IsComplete

theorem ModelAt.exists_document {place : Place} {model : Model}
    (has : ModelAt tree place model) : ∃ document, documentAt? tree place = some document := by
  cases has
  exact ⟨_, by assumption⟩

/-- All that a document with a model imports can be found. -/
theorem ImportedAt.exists_referred? {place : Place} {imports : List Import}
    {imported : Imported} (has : ImportedAt tree place imports imported) :
    ∀ entry ∈ imports, ∃ other, referred? tree place entry.resource = some other := by
  induction imports generalizing imported with
  | nil => exact List.forall_mem_nil _
  | cons entry rest ih =>
      cases has with
      | cons referred first others =>
          rw [List.forall_mem_cons]
          exact ⟨⟨_, referred⟩, ih others⟩

/-- What a document imports is there, and it does not lead back to the document nor to
those that the document does not lead to. -/
theorem IsComplete.imports (complete : IsComplete tree known) {place : Place}
    {document : Document} (member : place ∈ known.map Prod.fst)
    (read : documentAt? tree place = some document) {places : List Place}
    (apart : ∀ each ∈ places, ¬ReflTransGen (Imports tree) place each) :
    ∀ entry ∈ document.imports, ∃ other ∈ known.map Prod.fst,
      referred? tree place entry.resource = some other ∧
        ∀ each ∈ places ++ [place], ¬ReflTransGen (Imports tree) other each := by
  obtain ⟨model, has⟩ := complete.exists_model member
  have acyclic := has.acyclic
  cases has with
  | mk readAgain imports build valid found =>
      rw [read, Option.some.injEq] at readAgain
      subst readAgain
      intro entry inImports
      obtain ⟨other, referred⟩ := imports.exists_referred? entry inImports
      have edge : Imports tree place other := ⟨document, entry, read, inImports, referred⟩
      refine ⟨other, complete.closed place member other edge, referred, ?_⟩
      rw [List.forall_mem_append, List.forall_mem_singleton]
      constructor
      · exact fun each inPlaces back => apart each inPlaces (.head edge back)
      · exact fun back => acyclic (.head' edge back)

/-- A document that is not loaded is added once its imports are loaded. -/
theorem IsComplete.exists_addDocument (complete : IsComplete tree known)
    {history : List (Place × Model)} {loading : Loading} (loaded : Loaded tree history loading)
    (inside : history.map Prod.fst ⊆ known.map Prod.fst) {place : Place}
    (member : place ∈ known.map Prod.fst) (fresh : place ∉ history.map Prod.fst)
    {document : Document} (read : documentAt? tree place = some document)
    {imported : Imported} (importedAt : ImportedAt tree place document.imports imported)
    {location : String} (canonical : tree.canonical location = place.path) :
    ∃ result, addDocument tree location document imported loading = .ok result := by
  obtain ⟨model, has⟩ := complete.exists_model member
  have absent := complete.get?_eq_none loaded inside has member fresh
  cases has with
  | mk readAgain imports build valid found =>
      rw [read, Option.some.injEq] at readAgain
      subst readAgain
      obtain rfl := importedAt.eq imports
      rw [← canonical] at build
      exact Schema.exists_addDocument build valid absent

/-! ## Loading -/

mutual

/-- Loading a document that is there fails only when a location is refused. -/
theorem Loads.isRefusal {tree : Tree} {pending : List String} {location : String}
    {loading : Loading} {outcome : Except LoadError (Node × Loading)}
    (loads : Loads tree pending location loading outcome)
    (working : tree.working.IsWalkable) (legal : tree.HasLegalNames)
    {known : List (Place × Model)} (complete : IsComplete tree known) {error : LoadError}
    (failed : outcome = .error error) {history : List (Place × Model)}
    (loaded : Loaded tree history loading)
    (inside : history.map Prod.fst ⊆ known.map Prod.fst) {place : Place}
    (leads : tree.place? location = .ok place) (member : place ∈ known.map Prod.fst)
    {places : List Place} (being : pending = places.map Place.path)
    (files : ∀ each ∈ places, IsFile tree each)
    (apart : ∀ each ∈ places, ¬ReflTransGen (Imports tree) place each) :
    IsRefusal error := by
  obtain ⟨model, has⟩ := complete.exists_model member
  have isFile := has.isFile working
  obtain ⟨-, -, content, file⟩ := has.isFile working
  match loads with
  | .known found => cases failed
  | .circular absent again =>
      rw [being] at again
      obtain ⟨other, inPlaces, path⟩ := List.mem_map.mp again
      obtain ⟨walkable, filled, text, there⟩ := files other inPlaces
      have ends := Tree.place?_of_canonical working walkable there filled path.symm
      rw [leads, Except.ok.injEq] at ends
      subst ends
      exact absurd .refl (apart place inPlaces)
  | .unread absent first read =>
      cases failed
      obtain ⟨document, there⟩ := has.exists_document
      rw [readDocument_of_documentAt? legal leads there] at read
      split at read
      · next long =>
          cases read
          exact ⟨location, rfl, long⟩
      · cases read
  | .interrupted absent first read imports =>
      have same := Except.error.inj failed
      obtain ⟨again, ends, canonical, -, document⟩ := documentAt?_of_readDocument read
      rw [leads, Except.ok.injEq] at ends
      subst ends
      have beingToo : pending ++ [tree.canonical location] =
          (places ++ [place]).map Place.path := by
        rw [being, canonical, List.map_append]
        rfl
      have filesToo : ∀ each ∈ places ++ [place], IsFile tree each := by
        rw [List.forall_mem_append, List.forall_mem_singleton]
        exact ⟨files, isFile⟩
      exact imports.isRefusal working legal complete (congrArg Except.error same) rfl loaded
        inside leads file beingToo filesToo (complete.imports member document apart)
  | .built absent first read imports added =>
      cases failed
      obtain ⟨again, ends, canonical, -, document⟩ := documentAt?_of_readDocument read
      rw [leads, Except.ok.injEq] at ends
      subst ends
      obtain ⟨others, more, referred, importedAt, kept, visits, outside⟩ :=
        imports.visits working rfl rfl loaded leads file
      have insideToo : (history ++ more).map Prod.fst ⊆ known.map Prod.fst := by
        refine complete.visits inside visits fun other inOthers => ?_
        obtain ⟨entry, inImports, denotes⟩ := (mem_iff_of_mapM_eq_some referred).mp inOthers
        exact complete.closed place member other ⟨_, entry, document, inImports, denotes⟩
      have fresh : place ∉ (history ++ more).map Prod.fst := by
        rw [List.map_append, List.mem_append, not_or]
        refine ⟨loaded.fresh absent canonical, ?_⟩
        intro inMore
        obtain ⟨other, added, rfl⟩ := List.mem_map.mp inMore
        exact outside other added (by simp [canonical])
      obtain ⟨result, success⟩ := complete.exists_addDocument kept insideToo member fresh
        document importedAt canonical
      rw [success] at added
      cases added

theorem LoadsAll.isRefusal {tree : Tree} {pending : List String} {base : String}
    {imports : List Import} {loading : Loading}
    {outcome : Except LoadError (Imported × Loading)}
    (loads : LoadsAll tree pending base imports loading outcome)
    (working : tree.working.IsWalkable) (legal : tree.HasLegalNames)
    {known : List (Place × Model)} (complete : IsComplete tree known) {error : LoadError}
    (failed : outcome = .error error) {location : String}
    (directory : base = Files.Path.directory location) {history : List (Place × Model)}
    (loaded : Loaded tree history loading)
    (inside : history.map Prod.fst ⊆ known.map Prod.fst) {place : Place}
    {content : List UInt8} (leads : tree.place? location = .ok place)
    (file : tree.root.at? place = some (.file content)) {places : List Place}
    (being : pending = places.map Place.path) (files : ∀ each ∈ places, IsFile tree each)
    (denotes : ∀ entry ∈ imports, ∃ other ∈ known.map Prod.fst,
      referred? tree place entry.resource = some other ∧
        ∀ each ∈ places, ¬ReflTransGen (Imports tree) other each) :
    IsRefusal error := by
  have walkable := Tree.isWalkable_of_place? working leads
  have filled := Tree.ne_nil_of_file leads file
  have locates : ∀ {reference other}, referred? tree place reference = some other →
      ∃ found, locate reference base = .ok found ∧ tree.place? found = .ok other := by
    intro reference other referred
    rw [← denoted?_directory walkable filled file leads, ← directory] at referred
    exact denoted?_eq_some_iff.mp referred
  match loads with
  | .nil => cases failed
  | .cons located head tail => cases failed
  | .unlocated located =>
      obtain ⟨other, -, referred, -⟩ := denotes _ List.mem_cons_self
      obtain ⟨found, success, -⟩ := locates referred
      rw [located] at success
      cases success
  | .failed located head =>
      have same := Except.error.inj failed
      obtain ⟨other, member, referred, apart⟩ := denotes _ List.mem_cons_self
      obtain ⟨found, success, ends⟩ := locates referred
      rw [located, Except.ok.injEq] at success
      subst success
      exact head.isRefusal working legal complete (congrArg Except.error same) loaded inside
        ends member being files apart
  | .interrupted located head tail =>
      have same := Except.error.inj failed
      obtain ⟨other, member, referred, apart⟩ := denotes _ List.mem_cons_self
      obtain ⟨found, success, ends⟩ := locates referred
      rw [located, Except.ok.injEq] at success
      subst success
      obtain ⟨place', model, more, leads', -, -, kept, visits, -⟩ :=
        head.visits working rfl loaded
      rw [ends, Except.ok.injEq] at leads'
      subst leads'
      refine tail.isRefusal working legal complete (congrArg Except.error same) directory kept
        ?_ leads file being files fun entry inRest => denotes entry (List.mem_cons_of_mem _ inRest)
      refine complete.visits inside (.cons visits .nil) ?_
      rwa [List.forall_mem_singleton]

end

end

end Schema

end FlatMessage
