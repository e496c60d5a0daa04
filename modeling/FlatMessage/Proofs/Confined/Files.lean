import FlatMessage.Proofs.Writing.Documents

/-!
# What making directories and writing a file leaves alone

Making directories leaves all files as they are, and writing a file leaves all others.
Behind a directory that is there, neither of them makes anything outside it, as long as the
parts that follow are names.
-/

namespace FlatMessage

namespace Files

namespace Tree

open Files.Path (join)

variable {tree middle later : Tree} {path name : String} {base place : Place}

/-! ## Files that are left alone -/

/-- No file of the later tree is new or has another content. -/
def KeepsFiles (tree later : Tree) : Prop :=
  ∀ place content, later.root.at? place = some (.file content) →
    tree.root.at? place = some (.file content)

theorem KeepsFiles.refl (tree : Tree) : tree.KeepsFiles tree :=
  fun _ _ there => there

theorem KeepsFiles.trans (first : tree.KeepsFiles middle) (second : middle.KeepsFiles later) :
    tree.KeepsFiles later :=
  fun place content there => first place content (second place content there)

/-- Whatever the later tree has outside a place is there before. -/
def NewInside (base : Place) (tree later : Tree) : Prop :=
  ∀ place entry, later.root.at? place = some entry →
    base <+: place ∨ ∃ old, tree.root.at? place = some old

theorem NewInside.refl (base : Place) (tree : Tree) : NewInside base tree tree :=
  fun _ entry there => .inr ⟨entry, there⟩

theorem NewInside.trans (first : NewInside base tree middle)
    (second : NewInside base middle later) : NewInside base tree later := by
  intro place entry there
  rcases second place entry there with inside | ⟨old, before⟩
  · exact .inl inside
  · exact first place old before

/-- What is new after an entry is put into a directory is the entry and what is in it. -/
theorem prefix_of_put {new found outer : Entry} {other : Place}
    (inside : tree.root.at? place = some outer)
    (there : (tree.root.put new (place ++ [name])).at? other = some found) :
    place <+: other ∨ ∃ old, tree.root.at? other = some old := by
  rcases Entry.at?_put_cases there with ⟨rest, rfl, -⟩ | ⟨before, shorter, -⟩ | before
  · exact .inl (List.append_assoc place _ _ ▸ List.prefix_append _ _)
  · have ancestor : other <+: place := by
      rcases List.prefix_concat_iff.mp before with whole | ancestor
      · exact absurd whole shorter
      · exact ancestor
    obtain ⟨rest, rfl⟩ := ancestor
    rw [Entry.at?_append] at inside
    obtain ⟨old, reached, -⟩ := Option.bind_eq_some_iff.mp inside
    exact .inr ⟨old, reached⟩
  · exact .inr ⟨found, before⟩

/-! ## Making directories -/

/-- Nothing but a directory is made. -/
theorem keepsFiles_put_empty (tree : Tree) (place : Place) :
    tree.KeepsFiles { tree with root := tree.root.put .empty place } := by
  intro other content there
  rcases Entry.at?_put_cases there with ⟨rest, -, inside⟩ | ⟨-, -, isDirectory⟩ | before
  · cases (Entry.at?_empty inside).2
  · cases isDirectory
  · exact before

theorem keepsFiles_makeDirectory (success : tree.makeDirectory path = .ok later) :
    tree.KeepsFiles later := by
  obtain ⟨outer, last, -, -, -, rfl⟩ := exists_of_makeDirectory success
  exact keepsFiles_put_empty tree _

theorem keepsFiles_makeOnce (tree : Tree) (path : String) :
    tree.KeepsFiles (tree.makeOnce path).2 := by
  unfold makeOnce
  cases made : tree.makeDirectory path with
  | ok made => exact keepsFiles_makeDirectory ‹_›
  | error failure =>
      dsimp only
      split <;> exact .refl tree

theorem keepsFiles_makeLineage (tree : Tree) (paths : List String) :
    tree.KeepsFiles (tree.makeLineage paths).2 := by
  induction paths generalizing tree with
  | nil => exact .refl tree
  | cons path outer ih =>
      by_cases missing : tree.makeDirectory path = .error .notFound
      · rw [makeLineage_cons_of_eq missing]
        have before := ih tree
        rcases outcome : tree.makeLineage outer with ⟨_ | _, larger⟩
        · rw [outcome] at before
          exact before
        · rw [outcome] at before
          exact before.trans (keepsFiles_makeOnce larger path)
      · rw [makeLineage_cons_of_ne missing]
        exact keepsFiles_makeOnce tree path

/-! ## Places behind a path -/

/-- Parts that are followed from a path are followed from where it leads. -/
theorem place?_foldl {names : List String} (parts : ∀ part ∈ names, IsPart part)
    (leads : tree.place? (names.foldl join path) = .ok place) :
    ∃ base, tree.place? path = .ok base ∧ place = base ++ names := by
  induction names generalizing path with
  | nil => exact ⟨place, leads, (List.append_nil place).symm⟩
  | cons name rest ih =>
      rw [List.forall_mem_cons] at parts
      obtain ⟨inner, reached, rfl⟩ := ih parts.2 leads
      rw [place?_join parts.1.simple, bind_eq_ok_iff] at reached
      obtain ⟨base, leadsHere, stepped⟩ := reached
      obtain ⟨rfl, -⟩ := eq_concat_of_step parts.1 stepped
      exact ⟨base, leadsHere, by simp⟩

/-! ## Directories behind a path -/

theorem newInside_makeDirectory (isPart : IsPart name)
    (below : ∀ place, tree.place? path = .ok place → base <+: place)
    (success : tree.makeDirectory (join path name) = .ok later) : NewInside base tree later := by
  obtain ⟨outer, last, found, ⟨entries, directory⟩, -, rfl⟩ := exists_of_makeDirectory success
  rw [(container_join tree path isPart).1] at found
  obtain ⟨place, leads, stepped⟩ := bind_eq_ok_iff.mp found
  obtain ⟨rfl, -⟩ := step_empty_eq_ok_iff.mp stepped
  intro other entry there
  rcases prefix_of_put directory there with inside | before
  · exact .inl ((below _ leads).trans inside)
  · exact .inr before

theorem newInside_makeOnce (isPart : IsPart name)
    (below : ∀ place, tree.place? path = .ok place → base <+: place) :
    NewInside base tree (tree.makeOnce (join path name)).2 := by
  unfold makeOnce
  cases made : tree.makeDirectory (join path name) with
  | ok made => exact newInside_makeDirectory isPart below ‹_›
  | error failure =>
      dsimp only
      split <;> exact .refl base tree

/-- Where a path leads below a directory that is there. -/
theorem prefix_of_place?_foldl {names : List String} (parts : ∀ part ∈ names, IsPart part)
    (isAt : tree.IsDirectoryAt path base)
    (leads : tree.place? (names.foldl join path) = .ok place) : base <+: place := by
  obtain ⟨other, here, rfl⟩ := place?_foldl parts leads
  rw [isAt.place?, Except.ok.injEq] at here
  subst here
  exact List.prefix_append _ _

/-- Behind a directory that is there, directories are only made inside it. -/
theorem newInside_makeDirectories {names : List String} (filled : names ≠ [])
    (parts : ∀ part ∈ names, IsPart part) (isAt : tree.IsDirectoryAt path base) :
    NewInside base tree (tree.makeDirectories (names.foldl join path)).2 := by
  induction names using List.reverseRecOn with
  | nil => exact absurd rfl filled
  | append_singleton names last ih =>
      rw [List.forall_mem_append, List.forall_mem_singleton] at parts
      obtain ⟨partsBefore, isPart⟩ := parts
      have below : ∀ {larger : Tree}, tree.Within larger →
          ∀ place, larger.place? (names.foldl join path) = .ok place → base <+: place :=
        fun within place leads => prefix_of_place?_foldl partsBefore (isAt.mono within) leads
      rw [List.foldl_append, List.foldl_cons, List.foldl_nil]
      rcases List.eq_nil_or_concat names with rfl | ⟨others, outer, rfl⟩
      · rw [List.foldl_nil, makeDirectories_join isAt isPart]
        exact newInside_makeOnce isPart (below (.refl tree))
      · have outerPart : IsPart outer := partsBefore outer (by simp)
        have before := ih (by simp) partsBefore
        have grown := within_makeLineage tree (lineage ((others.concat outer).foldl join path)
          (((others.concat outer).foldl join path).length + 1))
        rw [makeDirectories] at before ⊢
        have lines := lineage_join_join outerPart isPart (others.foldl join path)
        have folded : (others.concat outer).foldl join path =
            join (others.foldl join path) outer := by
          rw [List.concat_eq_append, List.foldl_append]
          rfl
        rw [folded] at before grown below ⊢
        rw [lines]
        by_cases missing : tree.makeDirectory
            (join (join (others.foldl join path) outer) last) = .error .notFound
        · rw [makeLineage_cons_of_eq missing]
          rcases outcome : tree.makeLineage (lineage (join (others.foldl join path) outer)
            ((join (others.foldl join path) outer).length + 1)) with ⟨_ | _, larger⟩
          · rw [outcome] at before
            exact before
          · rw [outcome] at before grown
            exact before.trans (newInside_makeOnce isPart (below grown))
        · rw [makeLineage_cons_of_ne missing]
          exact newInside_makeOnce isPart (below (.refl tree))

/-! ## Writing files -/

/-- Of the files after writing one, that one is where it was written, and all others were
there before. -/
theorem file_of_put {bytes content : List UInt8} {other : Place}
    (there : (tree.root.put (.file bytes) place).at? other = some (.file content)) :
    other = place ∨ tree.root.at? other = some (.file content) := by
  rcases Entry.at?_put_cases there with ⟨rest, rfl, inside⟩ | ⟨-, -, isDirectory⟩ | before
  · cases rest with
    | nil => exact .inl (List.append_nil place)
    | cons first others => cases inside
  · cases isDirectory
  · exact .inr before

end Tree

end Files

end FlatMessage
