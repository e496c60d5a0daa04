import FlatMessage.Proofs.Orders.Manifests
import FlatMessage.Proofs.Writing.Directories

/-!
# Locations with detours

A path that goes up and down again leads where it led before, and its text grows.  What is
listed at the end of such a path is read as long as its own location is short enough.  The
location of a document that it imports may already be too long, although the document itself
is close.
-/

namespace FlatMessage

theorem Keyed.mem_of_get? {α : Type} {key : String} {value : α} {table : List (String × α)}
    (found : get? key table = some value) : (key, value) ∈ table := by
  induction table with
  | nil => cases found
  | cons binding rest ih =>
      rw [get?] at found
      split at found
      · next same =>
          cases found
          exact List.mem_cons.mpr (.inl (by rw [← same]))
      · exact List.mem_cons_of_mem _ (ih found)

namespace Files

open Files.Path (join)

/-- The path of a directory `d` that goes up and back into `d` a number of times. -/
def detour : Nat → String
  | 0 => "d"
  | count + 1 => detour count ++ "/../d"

theorem utf8ByteSize_detour (count : Nat) : (detour count).utf8ByteSize = 5 * count + 1 := by
  induction count with
  | zero => rfl
  | succ count ih =>
      have more : "/../d".utf8ByteSize = 5 := rfl
      rw [detour, String.utf8ByteSize_append, ih, more]
      omega

theorem getLast?_detour (count : Nat) : (detour count).toList.getLast? = some 'd' := by
  cases count with
  | zero => rfl
  | succ count => simp [detour]

/-- What is followed from a detour stands behind a slash. -/
theorem join_detour {reference : String} (relative : Path.isAbsolute reference = false)
    (count : Nat) : join (detour count) reference = detour count ++ "/" ++ reference := by
  have last := getLast?_detour count
  have filled : (detour count).isEmpty = false := by
    rw [Bool.eq_false_iff]
    intro empty
    rw [String.isEmpty_iff.mp empty] at last
    cases last
  rw [join, relative, filled, last]
  rfl

theorem utf8ByteSize_join_detour {reference : String}
    (relative : Path.isAbsolute reference = false) (count : Nat) :
    (join (detour count) reference).utf8ByteSize = 5 * count + 2 + reference.utf8ByteSize := by
  have slash : "/".utf8ByteSize = 1 := rfl
  rw [join_detour relative, String.utf8ByteSize_append, String.utf8ByteSize_append,
    utf8ByteSize_detour, slash]

theorem detour_succ (count : Nat) :
    detour (count + 1) = join (join (detour count) "..") "d" := by
  rw [join_detour rfl]
  have up : (detour count ++ "/" ++ "..").toList.getLast? ≠ some '/' := by simp
  have filled : (detour count ++ "/" ++ "..").isEmpty = false := by simp
  have relative : Path.isAbsolute "d" = false := rfl
  rw [join, relative, filled, Bool.or_self, if_neg Bool.false_ne_true, if_neg up, detour]
  simp [String.append_assoc]

theorem exists_detour_eq_join (count : Nat) : ∃ path, detour count = join path "d" := by
  cases count with
  | zero => exact ⟨"", (Path.join_empty "d").symm⟩
  | succ count => exact ⟨_, detour_succ count⟩

theorem isPart_d : IsPart "d" :=
  ⟨by decide, by decide, by decide, by decide⟩

/-- What is listed at the end of a detour is in the directory at its end. -/
theorem directory_join_detour {name : String} (isPart : IsPart name) (count : Nat) :
    Path.directory (join (detour count) name) = detour count := by
  obtain ⟨path, same⟩ := exists_detour_eq_join count
  rw [same, Path.directory, Tree.parent?_join_join isPart_d isPart]
  rfl

theorem lastPart?_join_detour {name : String} (isPart : IsPart name) (count : Nat) :
    Path.lastPart? (join (detour count) name) = some name := by
  obtain ⟨path, same⟩ := exists_detour_eq_join count
  rw [same, Tree.lastPart?_join_join isPart_d isPart]

namespace Tree

variable {tree : Tree} {entries : List (String × Entry)}

/-- However many detours there are, they lead to the same directory. -/
theorem place?_detour
    (there : tree.root.at? (tree.working ++ ["d"]) = some (.directory entries)) (count : Nat) :
    tree.place? (detour count) = .ok (tree.working ++ ["d"]) := by
  have named : IsName "d" := ⟨by decide, by decide, by decide, by decide, by decide⟩
  have down := step_of_isName named there
  induction count with
  | zero =>
      rw [detour, ← Path.join_empty "d", place?_join isPart_d.simple, place?,
        String.toList_empty, walk_nil, step_empty_bind]
      exact down
  | succ count ih =>
      have up : tree.step (tree.working ++ ["d"]) ".." = .ok tree.working := by
        simp [step, there]
      rw [detour_succ, place?_join isPart_d.simple, place?_join (by decide), ih]
      change (tree.step (tree.working ++ ["d"]) ".." >>= _) = _
      rw [up]
      exact down

theorem place?_join_detour
    (there : tree.root.at? (tree.working ++ ["d"]) = some (.directory entries))
    {name : String} (named : IsName name) {inner : Entry}
    (found : Keyed.get? name entries = some inner) (count : Nat) :
    tree.place? (join (detour count) name) = .ok (tree.working ++ ["d"] ++ [name]) := by
  rw [place?_join named.2.2.2.1, place?_detour there]
  exact step_of_isName named (Entry.at?_concat_eq_some_iff.mpr ⟨entries, there, found⟩)

/-! ## Legal names -/

theorem hasLegalNames_file (content : List UInt8) (working : Place) :
    HasLegalNames ⟨.file content, working⟩ := by
  intro place entries name inner there
  cases place <;> cases there

theorem hasLegalNames_directory {entries : List (String × Entry)} {working : Place}
    (all : ∀ binding ∈ entries,
      '\x00' ∉ binding.1.toList ∧ HasLegalNames ⟨binding.2, working⟩) :
    HasLegalNames ⟨.directory entries, working⟩ := by
  intro place others name inner there found
  cases place with
  | nil =>
      cases there
      exact (all _ (Keyed.mem_of_get? found)).1
  | cons first rest =>
      dsimp only at there
      rw [Entry.at?] at there
      cases outer : Keyed.get? first entries with
      | none => simp [outer] at there
      | some entry =>
          rw [outer] at there
          exact (all _ (Keyed.mem_of_get? outer)).2 rest others name inner there found

end Tree

end Files

namespace Schema

/-- A reference that is no locator is followed as a path. -/
theorem locate_of_plain {reference : String}
    (plain : Location.Locator.ofText? reference = none) (base : String) :
    locate reference base = .ok (Files.Path.join base reference) := by
  rw [locate, Location.resolve?, plain]

/-- An absolute reference is followed from everywhere. -/
theorem locate_of_absolute {reference : String}
    (plain : Location.Locator.ofText? reference = none)
    (absolute : Files.Path.isAbsolute reference = true) (base : String) :
    locate reference base = .ok reference := by
  simp [locate_of_plain plain, Files.Path.join, absolute]

end Schema

end FlatMessage
