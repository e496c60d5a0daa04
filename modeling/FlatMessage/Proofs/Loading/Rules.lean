import FlatMessage.Proofs.Places.Canonical
import FlatMessage.Schema.Loading
import Mathlib.Data.List.Basic

/-!
# Loading comes to an end

The rules of loading say how the loading of a document proceeds, without a bound on the
number of documents that are loaded inside each other.  By these rules every loading
comes to an end: the documents being loaded are distinct files, of which there are
finitely many.  So the bound that the loader has is never reached.
-/

namespace FlatMessage

/-! ## Files of a tree -/

namespace Files.Entry

mutual

/-- The places of the files in an entry. -/
def filePlaces : Entry → List Place
  | file _ => [[]]
  | directory entries => filePlacesIn entries

/-- The places of the files in the entries of a directory. -/
def filePlacesIn : List (String × Entry) → List Place
  | [] => []
  | (name, entry) :: rest => entry.filePlaces.map (name :: ·) ++ filePlacesIn rest

end

mutual

theorem length_filePlaces (entry : Entry) : entry.filePlaces.length = entry.fileCount := by
  match entry with
  | file content => rfl
  | directory entries =>
      rw [filePlaces, fileCount]
      exact length_filePlacesIn entries

theorem length_filePlacesIn (entries : List (String × Entry)) :
    (filePlacesIn entries).length = fileCountIn entries := by
  match entries with
  | [] => rfl
  | (name, entry) :: rest =>
      rw [filePlacesIn, fileCountIn, List.length_append, List.length_map,
        length_filePlaces entry, length_filePlacesIn rest]

end

theorem mem_filePlacesIn {entries : List (String × Entry)} {name : String} {inner : Entry}
    {place : Place} (found : Keyed.get? name entries = some inner)
    (inside : place ∈ inner.filePlaces) : name :: place ∈ filePlacesIn entries := by
  induction entries with
  | nil => cases found
  | cons entry rest ih =>
      obtain ⟨other, first⟩ := entry
      rw [Keyed.get?] at found
      rw [filePlacesIn, List.mem_append]
      split at found
      · next same =>
          subst same
          cases found
          exact .inl (List.mem_map.mpr ⟨place, inside, rfl⟩)
      · exact .inr (ih found)

/-- Every file has one of the places. -/
theorem mem_filePlaces {entry : Entry} {place : Place} {content : List UInt8}
    (there : entry.at? place = some (.file content)) : place ∈ entry.filePlaces := by
  induction place generalizing entry with
  | nil =>
      cases there
      exact List.mem_singleton.mpr rfl
  | cons name rest ih =>
      cases entry with
      | file content => cases there
      | directory entries =>
          simp only [at?] at there
          cases found : Keyed.get? name entries with
          | none => simp [found] at there
          | some inner =>
              rw [found] at there
              exact mem_filePlacesIn found (ih there)

end Files.Entry

namespace Schema

open Files (Place Tree)

/-- Read the document at a location. -/
def readDocument (tree : Tree) (location : String) : Except LoadError Document := do
  let text ← readAt tree location
  inDocument location (Document.parse text)

/-- A document that is read is the text of a file. -/
theorem exists_text_of_readDocument {tree : Tree} {location : String} {document : Document}
    (read : readDocument tree location = .ok document) :
    ∃ text, tree.readText location = .ok text ∧ Document.parse text = .ok document := by
  obtain ⟨text, readText, parsed⟩ := bind_eq_ok_iff.mp read
  refine ⟨text, ?_, ?_⟩
  · unfold readAt at readText
    cases found : tree.readText location with
    | ok other =>
        rw [found] at readText
        cases readText
        rfl
    | error failure => simp [found] at readText
  · cases understood : Document.parse text with
    | ok other =>
        rw [understood] at parsed
        cases parsed
        rfl
    | error error => simp [understood, inDocument] at parsed

/-- Build a document with what it imports, and add it to what is loaded. -/
def addDocument (tree : Tree) (location : String) (document : Document)
    (imported : Imported) (loading : Loading) : Except LoadError (Node × Loading) := do
  let model ← inDocument location (document.build (tree.canonical location) imported)
  loading.add (tree.canonical location) document { model with source := some location }

/-! ## The rules -/

mutual

/-- While the documents `pending` are being loaded, loading the one at a location ends
with an outcome. -/
inductive Loads (tree : Tree) :
    List String → String → Loading → Except LoadError (Node × Loading) → Prop
  /-- The document is loaded. -/
  | known {pending : List String} {location : String} {loading : Loading} {root : Node}
      (found : loading.loaded.lookup (tree.canonical location) = some root) :
      Loads tree pending location loading (.ok (root, loading))
  /-- The document is being loaded. -/
  | circular {pending : List String} {location : String} {loading : Loading}
      (absent : loading.loaded.lookup (tree.canonical location) = none)
      (again : tree.canonical location ∈ pending) :
      Loads tree pending location loading
        (.error (.circular (pending ++ [tree.canonical location])))
  /-- The document cannot be read. -/
  | unread {pending : List String} {location : String} {loading : Loading}
      {error : LoadError}
      (absent : loading.loaded.lookup (tree.canonical location) = none)
      (first : tree.canonical location ∉ pending)
      (read : readDocument tree location = .error error) :
      Loads tree pending location loading (.error error)
  /-- The imports of the document cannot be loaded. -/
  | interrupted {pending : List String} {location : String} {loading : Loading}
      {document : Document} {error : LoadError}
      (absent : loading.loaded.lookup (tree.canonical location) = none)
      (first : tree.canonical location ∉ pending)
      (read : readDocument tree location = .ok document)
      (imports : LoadsAll tree (pending ++ [tree.canonical location])
        (Files.Path.directory location) document.imports loading (.error error)) :
      Loads tree pending location loading (.error error)
  /-- The document is built with what it imports, and added to the rest. -/
  | built {pending : List String} {location : String} {loading later : Loading}
      {document : Document} {imported : Imported}
      {outcome : Except LoadError (Node × Loading)}
      (absent : loading.loaded.lookup (tree.canonical location) = none)
      (first : tree.canonical location ∉ pending)
      (read : readDocument tree location = .ok document)
      (imports : LoadsAll tree (pending ++ [tree.canonical location])
        (Files.Path.directory location) document.imports loading (.ok (imported, later)))
      (added : addDocument tree location document imported later = outcome) :
      Loads tree pending location loading outcome

/-- Loading imports one after the other ends with an outcome. -/
inductive LoadsAll (tree : Tree) :
    List String → String → List Import → Loading → Except LoadError (Imported × Loading) →
      Prop
  | nil {pending : List String} {base : String} {loading : Loading} :
      LoadsAll tree pending base [] loading (.ok ([], loading))
  /-- The first import has no location. -/
  | unlocated {pending : List String} {base : String} {entry : Import} {rest : List Import}
      {loading : Loading} {error : LoadError}
      (located : locate entry.resource base = .error error) :
      LoadsAll tree pending base (entry :: rest) loading (.error error)
  /-- The first import cannot be loaded. -/
  | failed {pending : List String} {base location : String} {entry : Import}
      {rest : List Import} {loading : Loading} {error : LoadError}
      (located : locate entry.resource base = .ok location)
      (head : Loads tree pending location loading (.error error)) :
      LoadsAll tree pending base (entry :: rest) loading (.error error)
  /-- One of the other imports cannot be loaded. -/
  | interrupted {pending : List String} {base location : String} {entry : Import}
      {rest : List Import} {loading middle : Loading} {root : Node} {error : LoadError}
      (located : locate entry.resource base = .ok location)
      (head : Loads tree pending location loading (.ok (root, middle)))
      (tail : LoadsAll tree pending base rest middle (.error error)) :
      LoadsAll tree pending base (entry :: rest) loading (.error error)
  | cons {pending : List String} {base location : String} {entry : Import}
      {rest : List Import} {loading middle later : Loading} {root : Node}
      {imported : Imported}
      (located : locate entry.resource base = .ok location)
      (head : Loads tree pending location loading (.ok (root, middle)))
      (tail : LoadsAll tree pending base rest middle (.ok (imported, later))) :
      LoadsAll tree pending base (entry :: rest) loading
        (.ok ((entry.space, root) :: imported, later))

end

/-! ## Termination -/

/-- The files that are not being loaded. -/
def remaining (tree : Tree) (pending : List String) : List Place :=
  tree.root.filePlaces.filter (·.path ∉ pending)

/-- One more document is being loaded, so fewer files remain. -/
theorem length_remaining_lt {tree : Tree} {pending : List String} {location : String}
    {document : Document} (first : tree.canonical location ∉ pending)
    (read : readDocument tree location = .ok document) :
    (remaining tree (pending ++ [tree.canonical location])).length <
      (remaining tree pending).length := by
  obtain ⟨text, readText, -⟩ := exists_text_of_readDocument read
  obtain ⟨place, content, -, canonical, -, file, -⟩ :=
    Tree.exists_place_of_readText readText
  rw [canonical] at first ⊢
  have fewer : remaining tree (pending ++ [place.path]) =
      (remaining tree pending).filter (·.path ≠ place.path) := by
    rw [remaining, remaining, List.filter_filter]
    congr 1
    funext other
    simp [not_or, and_comm]
  rw [fewer, List.length_filter_lt_length_iff_exists]
  refine ⟨place, ?_, by simp⟩
  rw [remaining, List.mem_filter]
  exact ⟨Files.Entry.mem_filePlaces file, by simpa using first⟩

theorem loadsAll_loadImports {tree : Tree} {pending : List String}
    {load : String → Loading → Except LoadError (Node × Loading)}
    (loads : ∀ location loading, Loads tree pending location loading (load location loading))
    (base : String) (imports : List Import) (loading : Loading) :
    LoadsAll tree pending base imports loading (loadImports load base imports loading) := by
  induction imports generalizing loading with
  | nil => exact .nil
  | cons entry rest ih =>
      rw [loadImports]
      cases located : locate entry.resource base with
      | error error => exact .unlocated located
      | ok location =>
          have head := loads location loading
          change LoadsAll tree pending base (entry :: rest) loading
            (load location loading >>= fun result => _)
          cases outcome : load location loading with
          | error error =>
              rw [outcome] at head
              exact .failed located head
          | ok result =>
              obtain ⟨root, middle⟩ := result
              rw [outcome] at head
              have tail := ih middle
              change LoadsAll tree pending base (entry :: rest) loading
                (loadImports load base rest middle >>= fun result => _)
              cases others : loadImports load base rest middle with
              | error error =>
                  rw [others] at tail
                  exact .interrupted located head tail
              | ok result =>
                  rw [others] at tail
                  exact .cons located head tail

/-- The loader reads a document that is neither loaded nor being loaded. -/
theorem loadDocument_succ (tree : Tree) (depth : Nat) (pending : List String)
    (location : String) (loading : Loading) :
    loadDocument tree (depth + 1) pending location loading =
      match loading.loaded.lookup (tree.canonical location) with
      | some root => .ok (root, loading)
      | none =>
          if pending.contains (tree.canonical location) then
            .error (.circular (pending ++ [tree.canonical location]))
          else
            readDocument tree location >>= fun document =>
              loadImports (loadDocument tree depth (pending ++ [tree.canonical location]))
                (Files.Path.directory location) document.imports loading >>=
                  fun result => addDocument tree location document result.1 result.2 := by
  simp only [loadDocument, readDocument, bind_assoc]
  rfl

/-- With a bound above the number of remaining files, the loader follows the rules. -/
theorem loads_loadDocument {tree : Tree} {depth : Nat} {pending : List String}
    (enough : (remaining tree pending).length < depth) (location : String)
    (loading : Loading) :
    Loads tree pending location loading
      (loadDocument tree depth pending location loading) := by
  induction depth generalizing pending location loading with
  | zero => exact absurd enough (Nat.not_lt_zero _)
  | succ depth ih =>
      rw [loadDocument_succ]
      cases found : loading.loaded.lookup (tree.canonical location) with
      | some root => exact .known found
      | none =>
          dsimp only
          by_cases again : tree.canonical location ∈ pending
          · rw [if_pos (by simpa using again)]
            exact .circular found again
          · rw [if_neg (by simpa using again)]
            cases read : readDocument tree location with
            | error error => exact .unread found again read
            | ok document =>
                have less := length_remaining_lt again read
                have inner :
                    (remaining tree (pending ++ [tree.canonical location])).length < depth := by
                  omega
                have imports := loadsAll_loadImports (ih inner)
                  (Files.Path.directory location) document.imports loading
                change Loads tree pending location loading
                  (loadImports _ _ _ _ >>= fun result => _)
                cases outcome : loadImports
                    (loadDocument tree depth (pending ++ [tree.canonical location]))
                    (Files.Path.directory location) document.imports loading with
                | error error =>
                    rw [outcome] at imports
                    exact .interrupted found again read imports
                | ok result =>
                    rw [outcome] at imports
                    exact .built found again read imports rfl

mutual

/-- The loader has no other outcome than the rules. -/
theorem loadDocument_eq_of_loads {tree : Tree} {pending : List String} {location : String}
    {loading : Loading} {outcome : Except LoadError (Node × Loading)}
    (loads : Loads tree pending location loading outcome) {depth : Nat}
    (enough : (remaining tree pending).length < depth) :
    loadDocument tree depth pending location loading = outcome := by
  obtain ⟨depth, rfl⟩ := Nat.exists_eq_add_one_of_ne_zero (Nat.ne_zero_of_lt enough)
  rw [loadDocument_succ]
  match loads with
  | .known found => rw [found]
  | .circular absent again =>
      rw [absent]
      exact if_pos (by simpa using again)
  | .unread absent first read =>
      rw [absent, read]
      exact if_neg (by simpa using first)
  | .interrupted absent first read imports =>
      have less := length_remaining_lt first read
      rw [absent, read]
      refine (if_neg (by simpa using first)).trans ?_
      change (loadImports _ _ _ _ >>= fun result => _) = _
      rw [loadImports_eq_of_loadsAll imports (by omega)]
      rfl
  | .built absent first read imports added =>
      have less := length_remaining_lt first read
      rw [absent, read]
      refine (if_neg (by simpa using first)).trans ?_
      change (loadImports _ _ _ _ >>= fun result => _) = _
      rw [loadImports_eq_of_loadsAll imports (by omega)]
      exact added

theorem loadImports_eq_of_loadsAll {tree : Tree} {pending : List String} {base : String}
    {imports : List Import} {loading : Loading}
    {outcome : Except LoadError (Imported × Loading)}
    (loads : LoadsAll tree pending base imports loading outcome) {depth : Nat}
    (enough : (remaining tree pending).length < depth) :
    loadImports (loadDocument tree depth pending) base imports loading = outcome := by
  match loads with
  | .nil => rfl
  | .unlocated located =>
      rw [loadImports, located]
      rfl
  | .failed located head =>
      rw [loadImports, located]
      change (loadDocument tree depth pending _ _ >>= fun result => _) = _
      rw [loadDocument_eq_of_loads head enough]
      rfl
  | .interrupted located head tail =>
      rw [loadImports, located]
      change (loadDocument tree depth pending _ _ >>= fun result => _) = _
      rw [loadDocument_eq_of_loads head enough]
      change (loadImports _ _ _ _ >>= fun result => _) = _
      rw [loadImports_eq_of_loadsAll tail enough]
      rfl
  | .cons located head tail =>
      rw [loadImports, located]
      change (loadDocument tree depth pending _ _ >>= fun result => _) = _
      rw [loadDocument_eq_of_loads head enough]
      change (loadImports _ _ _ _ >>= fun result => _) = _
      rw [loadImports_eq_of_loadsAll tail enough]
      rfl

end

/-- Fewer files remain than the loader allows for. -/
theorem length_remaining_lt_depthBound (tree : Tree) :
    (remaining tree []).length < depthBound tree := by
  have all : (remaining tree []).length ≤ tree.root.filePlaces.length :=
    List.length_filter_le _ _
  rw [Files.Entry.length_filePlaces] at all
  rw [depthBound]
  omega

/-- Loading a document comes to an end by the rules, with the outcome of the loader and
no other. -/
theorem loads_iff {tree : Tree} {location : String} {loading : Loading}
    {outcome : Except LoadError (Node × Loading)} :
    Loads tree [] location loading outcome ↔
      loadDocument tree (depthBound tree) [] location loading = outcome := by
  have enough := length_remaining_lt_depthBound tree
  constructor
  · intro loads
    exact loadDocument_eq_of_loads loads enough
  · rintro rfl
    exact loads_loadDocument enough location loading

/-- A document that is no manifest is loaded into a set with all that it imports. -/
theorem load_of_loads {tree : Tree} {reference base location : String} {root : Node}
    {loading : Loading} (located : locate reference base = .ok location)
    (single : isManifest location = false)
    (loads : Loads tree [] location Loading.start (.ok (root, loading))) :
    ModelSet.load tree reference base = .ok loading.finish := by
  rw [ModelSet.load, located]
  change (if isManifest location then _ else loadDocument tree _ [] location _ >>= _) = _
  rw [single, loads_iff.mp loads]
  rfl

end Schema

end FlatMessage
