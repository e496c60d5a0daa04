import FlatMessage.Proofs.Places.Walking

/-!
# Canonical paths

The canonical path of a file leads to it, and files at different places have different
canonical paths.  The names on the way must be ones that a walk takes as names: those of
the working directory have to be, and all others are found by walking.
-/

namespace FlatMessage.Files

/-- The parts of a path that a walk takes as names. -/
def IsName (name : String) : Prop :=
  name ≠ "" ∧ name ≠ "." ∧ name ≠ ".." ∧ '/' ∉ name.toList ∧
    name.utf8ByteSize ≤ Tree.nameLimit

/-- Every part of a place can be walked. -/
def Place.IsWalkable (place : Place) : Prop :=
  ∀ name ∈ place, IsName name

namespace Tree

variable {tree : Tree} {place : Place}

/-- A step leads to a place that can be walked again. -/
theorem isWalkable_of_step {part : String} {next : Place} (walkable : place.IsWalkable)
    (simple : '/' ∉ part.toList) (stepped : tree.step place part = .ok next) :
    next.IsWalkable := by
  obtain ⟨entries, there⟩ := directory_of_step stepped
  rw [step, there] at stepped
  dsimp only at stepped
  split_ifs at stepped with void up long
  · cases stepped
    exact walkable
  · cases stepped
    exact fun name member => walkable name (List.dropLast_subset place member)
  · rw [not_or] at void
    cases found : Keyed.get? part entries with
    | none => simp [found] at stepped
    | some inner =>
        rw [found] at stepped
        cases stepped
        intro name member
        rcases List.mem_append.mp member with before | last
        · exact walkable name before
        · rw [List.mem_singleton] at last
          subst last
          exact ⟨void.1, void.2, up, simple, Nat.le_of_not_lt long⟩

/-- A walk ends at a place that can be walked again. -/
theorem isWalkable_of_walk {chars : List Char} {last : Place} (walkable : place.IsWalkable)
    (walked : tree.walk place chars = .ok last) : last.IsWalkable := by
  have simple : ∀ part ∈ (Text.splitChars (· == '/') chars).map String.ofList,
      '/' ∉ part.toList := by
    intro part member
    obtain ⟨piece, inPieces, rfl⟩ := List.mem_map.mp member
    rw [String.toList_ofList]
    intro slash
    simpa using Text.not_mem_of_mem_splitChars inPieces '/' slash
  rw [walk] at walked
  generalize (Text.splitChars (· == '/') chars).map String.ofList = parts at simple walked
  induction parts generalizing place with
  | nil =>
      cases walked
      exact walkable
  | cons part rest ih =>
      rw [List.forall_mem_cons] at simple
      rw [List.foldlM_cons, bind_eq_ok_iff] at walked
      obtain ⟨next, stepped, walked⟩ := walked
      exact ih (isWalkable_of_step walkable simple.1 stepped) simple.2 walked

/-- Every path leads to a place that can be walked again. -/
theorem isWalkable_of_place? {path : String} (working : tree.working.IsWalkable)
    (found : tree.place? path = .ok place) : place.IsWalkable := by
  refine isWalkable_of_walk ?_ found
  unfold start
  split
  · exact nofun
  · exact working

end Tree

/-- The characters of names with slashes between them are cut into the names. -/
theorem splitChars_join {names : List String} (some_ : names ≠ [])
    (simple : ∀ name ∈ names, '/' ∉ name.toList) :
    Text.splitChars (· == '/') (Text.join "/" names).toList = names.map String.toList := by
  induction names with
  | nil => exact absurd rfl some_
  | cons name rest ih =>
      rw [List.forall_mem_cons] at simple
      have alone : Text.splitChars (· == '/') name.toList = [name.toList] := by
        apply Text.splitChars_of_forall_not
        intro c member
        rw [beq_eq_false_iff_ne]
        rintro rfl
        exact simple.1 member
      cases rest with
      | nil => simpa [Text.join] using alone
      | cons next others =>
          have joined : (Text.join "/" (name :: next :: others)).toList =
              name.toList ++ '/' :: (Text.join "/" (next :: others)).toList := by
            simp [Text.join]
          rw [joined, Text.splitChars_append (by decide), alone, ih (by simp) simple.2]
          rfl

namespace Place

theorem toList_path (place : Place) :
    place.path.toList = '/' :: (Text.join "/" place).toList := by
  simp [path]

theorem isAbsolute_path (place : Place) : Path.isAbsolute place.path = true := by
  simp [Path.isAbsolute, toList_path]

/-- Places that can be walked have different canonical paths. -/
theorem path_inj {place other : Place} (walkable : place.IsWalkable)
    (otherWalkable : other.IsWalkable) (same : place.path = other.path) : place = other := by
  have joined : (Text.join "/" place).toList = (Text.join "/" other).toList := by
    have lists := congrArg String.toList same
    rw [toList_path, toList_path] at lists
    exact List.tail_eq_of_cons_eq lists
  have simple : ∀ {place : Place}, place.IsWalkable → ∀ name ∈ place, '/' ∉ name.toList :=
    fun walkable name member => (walkable name member).2.2.2.1
  have bare : ∀ {place : Place}, place.IsWalkable →
      (Text.join "/" place).toList = [] → place = [] := by
    intro place walkable empty
    by_contra filled
    have cut := splitChars_join filled (simple walkable)
    rw [empty] at cut
    have one : place.map String.toList = [[]] := cut.symm
    obtain ⟨name, rfl⟩ := List.length_eq_one_iff.mp (by simpa using congrArg List.length one)
    have void : name = "" := by simpa using one
    exact (walkable name (by simp)).1 void
  by_cases empty : other = []
  · subst empty
    exact bare walkable joined
  · have filled : place ≠ [] := by
      rintro rfl
      exact empty (bare otherWalkable joined.symm)
    have cut := splitChars_join filled (simple walkable)
    rw [joined, splitChars_join empty (simple otherWalkable)] at cut
    exact (List.map_inj_right fun _ _ => String.toList_inj.mp).mp cut.symm

end Place

namespace Tree

variable {tree : Tree} {place : Place}

/-- A name in a directory is stepped to. -/
theorem step_of_isName {name : String} {inner : Entry} (named : IsName name)
    (there : tree.root.at? (place ++ [name]) = some inner) :
    tree.step place name = .ok (place ++ [name]) := by
  obtain ⟨entries, directory, found⟩ := Entry.at?_concat_eq_some_iff.mp there
  obtain ⟨filled, single, double, -, short⟩ := named
  simp [step, directory, filled, single, double, Nat.not_lt.mpr short, found]

/-- The names on the way to an entry are walked one after the other. -/
theorem foldlM_step {names : List String} {inner : Entry} (walkable : ∀ name ∈ names, IsName name)
    (there : tree.root.at? (place ++ names) = some inner) :
    names.foldlM tree.step place = .ok (place ++ names) := by
  induction names generalizing place with
  | nil =>
      rw [List.append_nil]
      rfl
  | cons name rest ih =>
      rw [List.forall_mem_cons] at walkable
      rw [← List.singleton_append, ← List.append_assoc] at there ⊢
      have outer : ∃ outer, tree.root.at? (place ++ [name]) = some outer := by
        rw [Entry.at?_append, Option.bind_eq_some_iff] at there
        obtain ⟨outer, found, -⟩ := there
        exact ⟨outer, found⟩
      obtain ⟨outer, found⟩ := outer
      rw [List.singleton_append, List.foldlM_cons, step_of_isName walkable.1 found]
      exact ih walkable.2 there

/-- The canonical path of a file leads to it. -/
theorem place?_path {content : List UInt8} (walkable : place.IsWalkable)
    (file : tree.root.at? place = some (.file content)) (filled : place ≠ []) :
    tree.place? place.path = .ok place := by
  have starts : tree.start place.path = [] := by
    simp [start, Place.isAbsolute_path]
  rw [place?, starts, Place.toList_path, walk_slash, walk,
    splitChars_join filled fun name member => (walkable name member).2.2.2.1, List.map_map]
  have names : place.map (String.ofList ∘ String.toList) = place := by simp
  rw [names]
  exact foldlM_step walkable file

/-- A location whose canonical form is that of a file leads to the file. -/
theorem place?_of_canonical {location : String} {content : List UInt8}
    (working : tree.working.IsWalkable) (walkable : place.IsWalkable)
    (file : tree.root.at? place = some (.file content)) (filled : place ≠ [])
    (canonical : tree.canonical location = place.path) :
    tree.place? location = .ok place := by
  have written : location = place.path → tree.place? location = .ok place := by
    rintro rfl
    exact place?_path walkable file filled
  rw [Tree.canonical] at canonical
  split at canonical
  · exact written canonical
  · cases leads : tree.place? location with
    | ok other =>
        have walked : (Path.parts location).foldlM tree.step (tree.start location) = .ok other :=
          leads
        rw [walked] at canonical
        rw [← Place.path_inj (isWalkable_of_place? working leads) walkable canonical]
    | error failure =>
        have walked :
            (Path.parts location).foldlM tree.step (tree.start location) = .error failure :=
          leads
        rw [walked] at canonical
        exact leads.symm.trans (written canonical)

/-- The canonical form of a path without flaws is that of its place. -/
theorem canonical_of_locate {path : String} (located : tree.locate path = .ok place) :
    tree.canonical path = place.path := by
  obtain ⟨sound, leads⟩ := locate_eq_ok_iff.mp located
  have walked : (Path.parts path).foldlM tree.step (tree.start path) = .ok place := leads
  rw [canonical, walked, if_neg]
  unfold flaw? at sound
  split_ifs at sound with zero empty
  simp_all

/-- The root is not a file that a path leads to. -/
theorem ne_nil_of_file {path : String} {content : List UInt8}
    (leads : tree.place? path = .ok place)
    (file : tree.root.at? place = some (.file content)) : place ≠ [] := by
  rintro rfl
  obtain ⟨entries, directory⟩ := directory_of_walk leads
  have whole : tree.root = .file content := by simpa [Entry.at?] using file
  rw [whole] at directory
  cases start : tree.start path <;> simp [start, Entry.at?] at directory

/-- A file that is read has a place. -/
theorem exists_place_of_readText {location text : String}
    (read : tree.readText location = .ok text) :
    ∃ place content, tree.place? location = .ok place ∧
      tree.canonical location = place.path ∧ place ≠ [] ∧
      tree.root.at? place = some (.file content) ∧ Text.ofBytes? content = some text := by
  rw [readText, bind_eq_ok_iff] at read
  obtain ⟨entry, found, read⟩ := read
  rw [Tree.entry, bind_eq_ok_iff] at found
  obtain ⟨place, located, found⟩ := found
  obtain ⟨-, leads⟩ := locate_eq_ok_iff.mp located
  cases there : tree.root.at? place with
  | none => simp [there] at found
  | some other =>
      rw [there] at found
      cases found
      cases entry with
      | directory entries => cases read
      | file content =>
          refine ⟨place, content, leads, canonical_of_locate located,
            ne_nil_of_file leads there, there, ?_⟩
          dsimp only at read
          cases decoded : Text.ofBytes? content with
          | none => simp [decoded] at read
          | some other =>
              rw [decoded] at read
              cases read
              rfl

end Tree

end FlatMessage.Files
