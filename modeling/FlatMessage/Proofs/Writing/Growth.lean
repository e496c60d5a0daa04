import FlatMessage.Proofs.Places.Canonical

/-!
# Trees that grow

A tree grows when everything in it stays: directories stay directories, and files stay
files, whatever happens to their content.  Paths lead where they led before, and a path that
did not lead to where it leads later did not lead anywhere.

Making directories and writing files lets a tree grow, and if a larger tree has what is put
into a smaller one, the smaller one stays inside the larger one.
-/

namespace FlatMessage.Files

/-- Whatever is in one tree is in another one, as a file or as a directory alike. -/
structure Tree.Within (tree larger : Tree) : Prop where
  working : larger.working = tree.working
  kept : ∀ place entry, tree.root.at? place = some entry →
    ∃ later, larger.root.at? place = some later ∧ later.isDirectory = entry.isDirectory

namespace Entry

theorem exists_directory {entry : Entry} (isDirectory : entry.isDirectory = true) :
    ∃ entries, entry = .directory entries := by
  cases entry with
  | file content => cases isDirectory
  | directory entries => exact ⟨entries, rfl⟩

theorem exists_file {entry : Entry} (isFile : entry.isDirectory = false) :
    ∃ content, entry = .file content := by
  cases entry with
  | file content => exact ⟨content, rfl⟩
  | directory entries => cases isFile

/-- The entries of a directory; a file has none. -/
def children : Entry → List (String × Entry)
  | file _ => []
  | directory entries => entries

theorem at?_cons (entry : Entry) (name : String) (rest : Place) :
    entry.at? (name :: rest) = (Keyed.get? name entry.children).bind (·.at? rest) := by
  cases entry with
  | file content => rfl
  | directory entries =>
      rw [at?]
      dsimp only [children]
      cases Keyed.get? name entries <;> rfl

theorem at?_empty {place : Place} {found : Entry} (there : empty.at? place = some found) :
    place = [] ∧ found = empty := by
  cases place with
  | nil =>
      cases there
      exact ⟨rfl, rfl⟩
  | cons name rest => cases there

/-! ## Putting an entry -/

theorem put_cons (entry new : Entry) (name : String) (rest : Place) :
    entry.put new (name :: rest) =
      directory (Keyed.insert name
        (((Keyed.get? name entry.children).getD empty).put new rest) entry.children) := by
  cases entry <;> rfl

/-- What is put at a place is there. -/
theorem at?_put_self (entry new : Entry) (place : Place) :
    (entry.put new place).at? place = some new := by
  induction place generalizing entry with
  | nil => rfl
  | cons name rest ih =>
      rw [put_cons, at?_cons, children, Keyed.get?_insert_self]
      exact ih _

/-- What is found after putting an entry belongs to the new entry, or is a directory on the
way to it, or was there before. -/
theorem at?_put_cases {entry new : Entry} {place other : Place} {found : Entry}
    (there : (entry.put new place).at? other = some found) :
    (∃ rest, other = place ++ rest ∧ new.at? rest = some found) ∨
      (other <+: place ∧ other ≠ place ∧ found.isDirectory = true) ∨
        entry.at? other = some found := by
  induction place generalizing entry other with
  | nil => exact .inl ⟨other, rfl, there⟩
  | cons name rest ih =>
      cases other with
      | nil =>
          cases there
          exact .inr (.inl ⟨List.nil_prefix, by simp, rfl⟩)
      | cons first others =>
          rw [put_cons, at?_cons, children] at there
          rw [at?_cons]
          by_cases same : first = name
          · subst same
            rw [Keyed.get?_insert_self] at there
            rcases ih there with ⟨more, rfl, inside⟩ | ⟨before, shorter, directory⟩ | before
            · exact .inl ⟨more, rfl, inside⟩
            · exact .inr (.inl ⟨List.cons_prefix_cons.mpr ⟨rfl, before⟩, by simpa, directory⟩)
            · cases known : Keyed.get? first entry.children with
              | some inner =>
                  rw [known] at before
                  exact .inr (.inr before)
              | none =>
                  rw [known] at before there
                  obtain ⟨rfl, rfl⟩ := at?_empty before
                  cases rest with
                  | nil => exact .inl ⟨[], rfl, there⟩
                  | cons next more =>
                      exact .inr (.inl ⟨List.cons_prefix_cons.mpr ⟨rfl, List.nil_prefix⟩,
                        by simp, rfl⟩)
          · rw [Keyed.get?_insert_of_ne same] at there
            exact .inr (.inr there)

/-- What was there before stays when an entry is put into a directory in which its name is
free, or is that of a file that a file replaces. -/
theorem exists_at?_put {entry new : Entry} {outer other : Place} {name : String}
    {entries : List (String × Entry)} (inside : entry.at? outer = some (.directory entries))
    (free : ∀ old, Keyed.get? name entries = some old →
      old.isDirectory = false ∧ new.isDirectory = false)
    {found : Entry} (there : entry.at? other = some found) :
    ∃ later, (entry.put new (outer ++ [name])).at? other = some later ∧
      later.isDirectory = found.isDirectory := by
  induction outer generalizing entry other with
  | nil =>
      cases inside
      rw [List.nil_append, put_cons, children]
      cases other with
      | nil =>
          cases there
          exact ⟨_, rfl, rfl⟩
      | cons first others =>
          rw [at?_cons, children] at there ⊢
          by_cases same : first = name
          · subst same
            rw [Keyed.get?_insert_self]
            obtain ⟨old, known, within⟩ := Option.bind_eq_some_iff.mp there
            obtain ⟨isFile, newToo⟩ := free old known
            obtain ⟨content, rfl⟩ := exists_file isFile
            cases others with
            | cons next more => cases within
            | nil =>
                cases within
                exact ⟨new, rfl, newToo⟩
          · rw [Keyed.get?_insert_of_ne same]
            exact ⟨found, there, rfl⟩
  | cons step outer ih =>
      rw [List.cons_append, put_cons]
      rw [at?_cons] at inside
      obtain ⟨inner, known, reached⟩ := Option.bind_eq_some_iff.mp inside
      cases other with
      | nil =>
          cases entry with
          | file content => cases known
          | directory entries =>
              cases there
              exact ⟨_, rfl, rfl⟩
      | cons first others =>
          rw [at?_cons] at there ⊢
          rw [children]
          by_cases same : first = step
          · subst same
            rw [known] at there ⊢
            rw [Keyed.get?_insert_self]
            exact ih reached there
          · rw [Keyed.get?_insert_of_ne same]
            exact ⟨found, there, rfl⟩

end Entry

namespace Tree

variable {tree larger largest : Tree} {place : Place}

/-! ## Growing -/

namespace Within

theorem refl (tree : Tree) : tree.Within tree where
  working := rfl
  kept := fun _ entry there => ⟨entry, there, rfl⟩

theorem trans (first : tree.Within larger) (second : larger.Within largest) :
    tree.Within largest where
  working := second.working.trans first.working
  kept := by
    intro place entry there
    obtain ⟨later, found, same⟩ := first.kept place entry there
    obtain ⟨last, foundToo, sameToo⟩ := second.kept place later found
    exact ⟨last, foundToo, sameToo.trans same⟩

theorem directory (within : tree.Within larger) {entries : List (String × Entry)}
    (there : tree.root.at? place = some (.directory entries)) :
    ∃ entries, larger.root.at? place = some (.directory entries) := by
  obtain ⟨later, found, same⟩ := within.kept place _ there
  obtain ⟨entries, rfl⟩ := Entry.exists_directory same
  exact ⟨entries, found⟩

/-- A tree grows when an entry is put into a directory in which its name is free, or is that
of a file that a file replaces. -/
theorem put {new : Entry} {name : String} {entries : List (String × Entry)}
    (inside : tree.root.at? place = some (.directory entries))
    (free : ∀ old, Keyed.get? name entries = some old →
      old.isDirectory = false ∧ new.isDirectory = false) :
    tree.Within { tree with root := tree.root.put new (place ++ [name]) } where
  working := rfl
  kept := fun _ _ there => Entry.exists_at?_put inside free there

/-- An entry without anything in it can be put where a larger tree has one like it. -/
theorem of_put (within : tree.Within larger) {new later : Entry}
    (bare : ∀ rest found, new.at? rest = some found → rest = [] ∧ found = new)
    (there : larger.root.at? place = some later)
    (same : later.isDirectory = new.isDirectory) :
    Within { tree with root := tree.root.put new place } larger where
  working := within.working
  kept := by
    intro other entry found
    rcases Entry.at?_put_cases found with ⟨rest, rfl, inside⟩ | ⟨before, shorter, isDirectory⟩ |
      before
    · obtain ⟨rfl, rfl⟩ := bare rest entry inside
      exact ⟨later, by rwa [List.append_nil], same⟩
    · -- A place on the way to something is that of a directory.
      obtain ⟨rest, rfl⟩ := before
      obtain ⟨name, more, rfl⟩ := List.exists_cons_of_ne_nil
        (show rest ≠ [] by rintro rfl; simp at shorter)
      rw [Entry.at?_append] at there
      obtain ⟨outer, reached, inner⟩ := Option.bind_eq_some_iff.mp there
      refine ⟨outer, reached, ?_⟩
      rw [isDirectory]
      cases outer with
      | file content => cases inner
      | directory entries => rfl
    · exact within.kept other entry before

/-! ## Walking in a larger tree -/

theorem step (within : tree.Within larger) {part : String} {next : Place}
    (stepped : tree.step place part = .ok next) : larger.step place part = .ok next := by
  obtain ⟨entries, there⟩ := directory_of_step stepped
  obtain ⟨others, thereToo⟩ := within.directory there
  rw [Tree.step, there] at stepped
  rw [Tree.step, thereToo]
  dsimp only at stepped ⊢
  split_ifs at stepped ⊢ with void up long
  · exact stepped
  · exact stepped
  · cases found : Keyed.get? part entries with
    | none => simp [found] at stepped
    | some inner =>
        rw [found] at stepped
        have named := Entry.at?_concat_eq_some_iff.mpr ⟨entries, there, found⟩
        obtain ⟨later, namedToo, -⟩ := within.kept _ inner named
        obtain ⟨again, same, foundToo⟩ := Entry.at?_concat_eq_some_iff.mp namedToo
        rw [thereToo, Option.some.injEq, Entry.directory.injEq] at same
        subst same
        rw [foundToo]
        exact stepped

theorem place? (within : tree.Within larger) {path : String}
    (leads : tree.place? path = .ok place) : larger.place? path = .ok place := by
  have starts : larger.start path = tree.start path := by
    rw [start, start, within.working]
  rw [Tree.place?, walk] at leads ⊢
  rw [starts]
  generalize (Text.splitChars (· == '/') path.toList).map String.ofList = parts at leads ⊢
  generalize tree.start path = first at leads ⊢
  induction parts generalizing first with
  | nil => exact leads
  | cons part rest ih =>
      rw [List.foldlM_cons, bind_eq_ok_iff] at leads ⊢
      obtain ⟨next, stepped, walked⟩ := leads
      exact ⟨next, within.step stepped, ih next walked⟩

end Within

end Tree

end FlatMessage.Files
