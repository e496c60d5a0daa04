import FlatMessage.Location.Resolve
import FlatMessage.Files.Tree
import FlatMessage.Proofs.SoundTree
import Mathlib.Data.List.Induction
import Mathlib.Data.List.TakeWhile

/-!
# Where paths lead

Walking a path goes from place to place.  The walk is cut wherever the path has a
slash, so a reference that is followed from the directory of a file is walked from the
place of that directory: how the path of the file was spelled does not matter.
-/

namespace FlatMessage

namespace Text

/-- There is always a piece. -/
theorem splitChars_ne_nil (isMark : Char → Bool) (chars : List Char) :
    splitChars isMark chars ≠ [] := by
  cases chars with
  | nil => simp [splitChars]
  | cons c rest =>
      rw [splitChars]
      split
      · simp
      · split <;> simp

/-- A text is cut at the same characters before and after a mark. -/
theorem splitChars_append {isMark : Char → Bool} {mark : Char} (marks : isMark mark = true)
    (before after : List Char) :
    splitChars isMark (before ++ mark :: after) =
      splitChars isMark before ++ splitChars isMark after := by
  induction before with
  | nil => simp [splitChars, marks]
  | cons c rest ih =>
      rw [List.cons_append, splitChars, splitChars]
      by_cases here : isMark c
      · simp [here, ih]
      · simp only [here, Bool.false_eq_true, if_false, ih]
        cases pieces : splitChars isMark rest with
        | nil => exact absurd pieces (splitChars_ne_nil isMark rest)
        | cons piece others => rfl

/-- A text without marks is one piece. -/
theorem splitChars_of_forall_not {isMark : Char → Bool} {chars : List Char}
    (unmarked : ∀ c ∈ chars, isMark c = false) : splitChars isMark chars = [chars] := by
  induction chars with
  | nil => rfl
  | cons c rest ih =>
      rw [List.forall_mem_cons] at unmarked
      rw [splitChars, ih unmarked.2, unmarked.1]
      rfl

/-- A piece has no marks. -/
theorem not_mem_of_mem_splitChars {isMark : Char → Bool} {chars piece : List Char}
    (member : piece ∈ splitChars isMark chars) : ∀ c ∈ piece, isMark c = false := by
  induction chars generalizing piece with
  | nil =>
      rw [splitChars, List.mem_singleton] at member
      simp [member]
  | cons c rest ih =>
      rw [splitChars] at member
      by_cases here : isMark c
      · simp only [here, if_true, List.mem_cons] at member
        rcases member with rfl | later
        · simp
        · exact ih later
      · simp only [here, Bool.false_eq_true, if_false] at member
        cases pieces : splitChars isMark rest with
        | nil =>
            rw [pieces, List.mem_singleton] at member
            simpa [member] using here
        | cons first others =>
            rw [pieces] at member ih
            rcases List.mem_cons.mp member with rfl | later
            · rw [List.forall_mem_cons]
              exact ⟨by simpa using here, ih List.mem_cons_self⟩
            · exact ih (List.mem_cons_of_mem _ later)

end Text

namespace Files

/-! ## Entries at places -/

namespace Entry

/-- The entry at a place is found in two parts of the way. -/
theorem at?_append (entry : Entry) (before after : Place) :
    entry.at? (before ++ after) = (entry.at? before).bind fun inner => inner.at? after := by
  induction before generalizing entry with
  | nil => rfl
  | cons name rest ih =>
      cases entry with
      | file content => rfl
      | directory entries =>
          simp only [List.cons_append, at?]
          cases Keyed.get? name entries with
          | none => rfl
          | some inner => exact ih inner

/-- Whatever has a place is in a directory, which has its name. -/
theorem at?_concat_eq_some_iff {entry inner : Entry} {place : Place} {name : String} :
    entry.at? (place ++ [name]) = some inner ↔
      ∃ entries, entry.at? place = some (.directory entries) ∧
        Keyed.get? name entries = some inner := by
  rw [at?_append, Option.bind_eq_some_iff]
  constructor
  · rintro ⟨outer, there, inside⟩
    cases outer with
    | file content => cases inside
    | directory entries =>
        refine ⟨entries, there, ?_⟩
        simp only [at?] at inside
        cases found : Keyed.get? name entries with
        | none => simp [found] at inside
        | some other => simpa [found] using inside
  · rintro ⟨entries, there, found⟩
    exact ⟨_, there, by simp [at?, found]⟩

/-- What has a place is in a directory unless it is the root. -/
theorem directory_dropLast {entry : Entry} {place : Place} {entries : List (String × Entry)}
    (there : entry.at? place = some (.directory entries)) :
    ∃ outer, entry.at? place.dropLast = some (.directory outer) := by
  cases place using List.reverseRecOn with
  | nil => exact ⟨entries, there⟩
  | append_singleton outer name =>
      obtain ⟨siblings, directory, -⟩ := at?_concat_eq_some_iff.mp there
      rw [List.dropLast_concat]
      exact ⟨siblings, directory⟩

end Entry

/-! ## Walks -/

namespace Tree

variable {tree : Tree} {place : Place}

/-- Walk the characters of a path from a place. -/
def walk (tree : Tree) (place : Place) (chars : List Char) : Except FileError Place :=
  ((Text.splitChars (· == '/') chars).map String.ofList).foldlM tree.step place

/-- The place that a path leads to, however long the path is. -/
def place? (tree : Tree) (path : String) : Except FileError Place :=
  tree.walk (tree.start path) path.toList

/-- A path without flaws leads to its place. -/
theorem locate_eq_ok_iff {path : String} :
    tree.locate path = .ok place ↔ flaw? path = none ∧ tree.place? path = .ok place := by
  unfold locate
  cases flaw? path with
  | none => simp [place?, walk, Path.parts, Text.split]
  | some flaw => simp

/-- A step starts from a directory. -/
theorem directory_of_step {part : String} {next : Place}
    (stepped : tree.step place part = .ok next) :
    ∃ entries, tree.root.at? place = some (.directory entries) := by
  unfold step at stepped
  cases there : tree.root.at? place with
  | none => simp [there] at stepped
  | some entry =>
      cases entry with
      | file content => simp [there] at stepped
      | directory entries => exact ⟨entries, rfl⟩

/-- A void part stays. -/
theorem step_void {part : String} (void : part = "" ∨ part = ".")
    {entries : List (String × Entry)}
    (there : tree.root.at? place = some (.directory entries)) :
    tree.step place part = .ok place := by
  simp [step, there, void]

theorem eq_of_step_void {part : String} (void : part = "" ∨ part = ".") {next : Place}
    (stepped : tree.step place part = .ok next) : next = place := by
  obtain ⟨entries, there⟩ := directory_of_step stepped
  rw [step_void void there] at stepped
  cases stepped
  rfl

/-- A path is walked in two parts at a slash. -/
theorem walk_append (before after : List Char) :
    tree.walk place (before ++ '/' :: after) =
      tree.walk place before >>= fun middle => tree.walk middle after := by
  rw [walk, Text.splitChars_append (by decide), List.map_append, List.foldlM_append]
  rfl

/-- A path without slashes is one step. -/
theorem walk_of_not_mem {chars : List Char} (simple : '/' ∉ chars) :
    tree.walk place chars = tree.step place (String.ofList chars) := by
  have unmarked : ∀ c ∈ chars, (c == '/') = false := by
    intro c member
    rw [beq_eq_false_iff_ne]
    rintro rfl
    exact simple member
  simp [walk, Text.splitChars_of_forall_not unmarked]

theorem walk_nil : tree.walk place [] = tree.step place "" := by
  simp [walk_of_not_mem]

/-- Every walk starts from a directory. -/
theorem directory_of_walk {chars : List Char} {last : Place}
    (walked : tree.walk place chars = .ok last) :
    ∃ entries, tree.root.at? place = some (.directory entries) := by
  rw [walk] at walked
  obtain ⟨first, rest, split⟩ :=
    List.exists_cons_of_ne_nil (Text.splitChars_ne_nil (· == '/') chars)
  rw [split, List.map_cons, List.foldlM_cons, bind_eq_ok_iff] at walked
  obtain ⟨middle, stepped, -⟩ := walked
  exact directory_of_step stepped

/-- A slash in front leads nowhere else. -/
theorem walk_slash {chars : List Char} {last : Place} :
    tree.walk place ('/' :: chars) = .ok last ↔ tree.walk place chars = .ok last := by
  rw [← List.nil_append ('/' :: chars), walk_append, bind_eq_ok_iff]
  constructor
  · rintro ⟨middle, stayed, walked⟩
    rw [walk_nil] at stayed
    rw [eq_of_step_void (.inl rfl) stayed] at walked
    exact walked
  · intro walked
    obtain ⟨entries, there⟩ := directory_of_walk walked
    exact ⟨place, by rw [walk_nil, step_void (.inl rfl) there], walked⟩

/-! ## Directories of files -/

open Files.Path (anchor dropVoid isVoid)

theorem isVoid_iff {part : List Char} :
    isVoid part = true ↔ String.ofList part = "" ∨ String.ofList part = "." := by
  have dot : String.ofList part = "." ↔ part = ['.'] := by
    rw [show "." = String.ofList ['.'] from rfl, String.ofList_inj]
  rw [isVoid, Bool.or_eq_true, List.isEmpty_iff, beq_iff_eq, dot]
  simp

/-- Void parts at the end of a path lead nowhere else. -/
theorem walk_dropVoid {part reversed : List Char} {last : Place} (simple : '/' ∉ part)
    (walked : tree.walk place (part ++ reversed).reverse = .ok last) :
    tree.walk place (dropVoid part reversed).reverse = .ok last := by
  have void : ∀ {part : List Char} {from_ next : Place}, isVoid part = true →
      tree.step from_ (String.ofList part.reverse) = .ok next →
        next = from_ ∧ tree.walk from_ [] = .ok from_ := by
    intro part place next void stepped
    have reversed : part.reverse = part := by
      rcases part with _ | ⟨c, _ | ⟨d, rest⟩⟩ <;> simp_all [isVoid]
    rw [reversed] at stepped
    obtain ⟨entries, there⟩ := directory_of_step stepped
    exact ⟨eq_of_step_void (isVoid_iff.mp void) stepped,
      by rw [walk_nil, step_void (.inl rfl) there]⟩
  fun_induction dropVoid part reversed with
  | case1 part isVoid =>
      rw [List.append_nil, walk_of_not_mem (by simpa using simple)] at walked
      obtain ⟨rfl, stays⟩ := void isVoid walked
      exact stays
  | case2 part solid => simpa using walked
  | case3 part rest isVoid ih =>
      rw [List.reverse_append, List.reverse_cons, List.append_assoc, List.singleton_append,
        walk_append, bind_eq_ok_iff] at walked
      obtain ⟨middle, before, stayed⟩ := walked
      rw [walk_of_not_mem (by simpa using simple)] at stayed
      obtain ⟨rfl, -⟩ := void isVoid stayed
      exact ih (by simp) before
  | case4 part rest solid => simpa using walked
  | case5 part c rest other ih =>
      refine ih ?_ (by simpa using walked)
      rw [List.mem_append, List.mem_singleton, not_or]
      exact ⟨simple, fun same => other same.symm⟩

/-- A walk that ends at a file takes the name of the file last. -/
theorem eq_concat_of_step_file {name : String} {last : Place} {content : List UInt8}
    (stepped : tree.step place name = .ok last)
    (file : tree.root.at? last = some (.file content)) : last = place ++ [name] := by
  obtain ⟨entries, there⟩ := directory_of_step stepped
  rw [step, there] at stepped
  dsimp only at stepped
  split_ifs at stepped with void up long
  · cases stepped
    rw [there] at file
    cases file
  · cases stepped
    obtain ⟨outer, directory⟩ := Entry.directory_dropLast there
    rw [directory] at file
    cases file
  · cases found : Keyed.get? name entries with
    | none => simp [found] at stepped
    | some inner =>
        rw [found] at stepped
        cases stepped
        rfl

/-- The last step of a walk, from the reversed characters. -/
theorem walk_name {body : List Char} {last : Place}
    (walked : tree.walk place body.reverse = .ok last) :
    ∃ middle name, tree.walk place (body.dropWhile (· != '/')).reverse = .ok middle ∧
      tree.step middle name = .ok last := by
  have simple : '/' ∉ (body.takeWhile (· != '/')).reverse := by
    intro member
    simpa using List.mem_takeWhile_imp (List.mem_reverse.mp member)
  rw [← List.takeWhile_append_dropWhile (p := (· != '/')) (l := body), List.reverse_append]
    at walked
  cases outer : body.dropWhile (· != '/') with
  | nil =>
      rw [outer, List.reverse_nil, List.nil_append, walk_of_not_mem simple] at walked
      obtain ⟨entries, there⟩ := directory_of_step walked
      exact ⟨place, _, by rw [List.reverse_nil, walk_nil, step_void (.inl rfl) there], walked⟩
  | cons c more =>
      obtain rfl : c = '/' := by
        have head := List.head?_dropWhile_not (· != '/') body
        simpa [outer] using head
      rw [outer, List.reverse_cons, List.append_assoc, List.singleton_append, walk_append,
        bind_eq_ok_iff] at walked
      obtain ⟨middle, before, stepped⟩ := walked
      rw [walk_of_not_mem simple] at stepped
      obtain ⟨entries, there⟩ := directory_of_step stepped
      refine ⟨middle, _, ?_, stepped⟩
      rw [List.reverse_cons, walk_append, before]
      change tree.walk middle [] = _
      rw [walk_nil, step_void (.inl rfl) there]

/-- The anchor of a path leads nowhere else. -/
theorem walk_anchor {chars rest kept : List Char} {last : Place}
    (anchored : chars = anchor chars ++ rest) (before : kept <+: rest) :
    tree.walk place (anchor chars ++ kept) = .ok last ↔ tree.walk place kept = .ok last := by
  have dotted : ∀ {more : List Char}, more = [] ∨ more.head? = some '/' →
      (tree.walk place ('.' :: more) = .ok last ↔ tree.walk place more = .ok last) := by
    rintro (_ | ⟨c, more⟩) shape
    · rw [walk_of_not_mem (by decide), walk_nil]
      constructor <;> intro stepped
      · obtain ⟨entries, there⟩ := directory_of_step stepped
        rw [eq_of_step_void (.inr rfl) stepped, step_void (.inl rfl) there]
      · obtain ⟨entries, there⟩ := directory_of_step stepped
        rw [eq_of_step_void (.inl rfl) stepped]
        exact step_void (.inr rfl) there
    · obtain rfl : c = '/' := by simpa using shape
      rw [walk_slash, ← List.singleton_append, walk_append, bind_eq_ok_iff,
        walk_of_not_mem (by decide)]
      constructor
      · rintro ⟨middle, stayed, walked⟩
        rw [eq_of_step_void (.inr rfl) stayed] at walked
        exact walked
      · intro walked
        obtain ⟨entries, there⟩ := directory_of_walk walked
        exact ⟨place, step_void (.inr rfl) there, walked⟩
  have headed : rest = [] ∨ rest.head? = some '/' → kept = [] ∨ kept.head? = some '/' := by
    obtain ⟨more, rfl⟩ := before
    rcases kept with _ | ⟨c, kept⟩ <;> simp
  generalize shape : anchor chars = lead at anchored ⊢
  unfold anchor at shape
  split at shape <;> subst shape
  · exact walk_slash
  · exact dotted (headed (.inl (by simpa using anchored.symm)))
  · exact dotted (headed (.inr (by simp_all [eq_comm])))
  · rfl

/-- A path begins with its anchor. -/
theorem exists_eq_anchor_append (chars : List Char) :
    ∃ rest, chars = anchor chars ++ rest := by
  unfold anchor
  split <;> exact ⟨_, rfl⟩

/-- The anchor of a path shows whether the path is absolute. -/
theorem head?_anchor_append {chars rest kept : List Char}
    (anchored : chars = anchor chars ++ rest) (before : kept <+: rest) :
    (anchor chars ++ kept).head? = some '/' ↔ chars.head? = some '/' := by
  obtain ⟨more, rfl⟩ := before
  generalize shape : anchor chars = lead at anchored ⊢
  unfold anchor at shape
  split at shape <;> subst shape
  · simp
  · simp
  · simp
  · next absolute single dotted =>
      rw [List.nil_append] at anchored ⊢
      have relative : chars.head? ≠ some '/' := by
        intro headed
        obtain ⟨others, rfl⟩ := List.head?_eq_some_iff.mp headed
        exact absolute others rfl
      subst anchored
      cases kept <;> simp_all

/-- The directory of a path, in terms of its reversed parts. -/
theorem directory_of_divide {path : String} {lead body : List Char}
    (divided : Path.divide path = (lead, body)) (solid : body ≠ []) :
    Path.directory path =
      String.ofList (lead ++ (dropVoid [] (body.dropWhile (· != '/'))).reverse) := by
  rw [Path.directory, Path.parent?, divided]
  cases body with
  | nil => exact absurd rfl solid
  | cons c body => rfl

/-- What is left of a reversed path is an end of it. -/
theorem dropVoid_isSuffix (part reversed : List Char) :
    dropVoid part reversed <:+ part ++ reversed := by
  fun_induction dropVoid part reversed with
  | case1 part isVoid => exact List.nil_suffix
  | case2 part solid => simp
  | case3 part rest isVoid ih =>
      exact ih.trans ((List.suffix_cons _ _).trans (List.suffix_append _ _))
  | case4 part rest solid => exact List.suffix_rfl
  | case5 part c rest other ih => simpa using ih

/-- The directory of a file leads to the directory that the file is in. -/
theorem place?_directory {path : String} {content : List UInt8}
    (found : tree.place? path = .ok place)
    (file : tree.root.at? place = some (.file content)) :
    tree.place? (Path.directory path) = .ok place.dropLast ∧
      tree.start (Path.directory path) = tree.start path := by
  obtain ⟨rest, whole⟩ := exists_eq_anchor_append path.toList
  generalize lead : anchor path.toList = start at whole
  have divided : Path.divide path = (start, dropVoid [] rest.reverse) := by
    rw [Path.divide, lead, whole]
    simp
  generalize stripped : dropVoid [] rest.reverse = body at divided
  have walked : tree.walk (tree.start path) body.reverse = .ok place := by
    rw [place?, whole, ← lead] at found
    rw [walk_anchor (lead ▸ whole) List.prefix_rfl] at found
    rw [← stripped]
    exact walk_dropVoid (by simp) (by simpa using found)
  obtain ⟨siblings, directory⟩ := directory_of_walk walked
  have solid : body ≠ [] := by
    rintro rfl
    rw [List.reverse_nil, walk_nil] at walked
    rw [eq_of_step_void (.inl rfl) walked, directory] at file
    cases file
  obtain ⟨middle, name, outside, last⟩ :
      ∃ middle name, tree.walk (tree.start path) (body.dropWhile (· != '/')).reverse =
        .ok middle ∧ tree.step middle name = .ok place := walk_name walked
  obtain rfl := eq_concat_of_step_file last file
  have kept : (dropVoid [] (body.dropWhile (· != '/'))).reverse <+: rest := by
    rw [← List.reverse_suffix, List.reverse_reverse, ← List.nil_append rest.reverse]
    refine .trans ?_ (dropVoid_isSuffix [] rest.reverse)
    rw [stripped]
    exact (dropVoid_isSuffix [] _).trans (List.dropWhile_suffix _)
  have starts : tree.start (Path.directory path) = tree.start path := by
    have absolute := head?_anchor_append (lead ▸ whole) kept
    rw [lead] at absolute
    rw [directory_of_divide divided solid, Tree.start, Tree.start, Path.isAbsolute,
      Path.isAbsolute, String.toList_ofList]
    simp only [absolute]
  refine ⟨?_, starts⟩
  rw [place?, starts, directory_of_divide divided solid, String.toList_ofList, ← lead,
    walk_anchor (lead ▸ whole) kept, List.dropLast_concat]
  exact walk_dropVoid (by simp) outside

/-- A reference that is followed from the directory of a file is walked from the place
of the directory. -/
theorem place?_join_directory {path : String} {content : List UInt8}
    (found : tree.place? path = .ok place)
    (file : tree.root.at? place = some (.file content)) (reference : String) :
    tree.place? (Path.join (Path.directory path) reference) =
      tree.walk (if Path.isAbsolute reference then [] else place.dropLast)
        reference.toList := by
  obtain ⟨outer, starts⟩ := place?_directory found file
  generalize Path.directory path = base at outer starts
  unfold Path.join
  by_cases absolute : Path.isAbsolute reference
  · simp [absolute, place?, Tree.start]
  · simp only [absolute, Bool.false_eq_true, if_false, Bool.false_or]
    by_cases bare : base = ""
    · subst bare
      have relative : Path.isAbsolute "" = false := rfl
      have relativeReference : Path.isAbsolute reference = false := by simpa using absolute
      rw [place?, Tree.start, relative, String.toList_empty, walk_nil] at outer
      have here := eq_of_step_void (.inl rfl) outer
      simp [place?, Tree.start, relativeReference, here]
    · have absoluteBase : ∀ rest : String,
          tree.start (base ++ rest) = tree.start base := by
        intro rest
        have filled : base.toList ≠ [] := by simpa using bare
        obtain ⟨c, others, shape⟩ := List.exists_cons_of_ne_nil filled
        simp [Tree.start, Path.isAbsolute, shape]
      have empty : base.isEmpty = false := by simpa using bare
      simp only [empty, Bool.false_eq_true, if_false]
      split
      · next slash =>
          obtain ⟨before, shape⟩ := List.getLast?_eq_some_iff.mp slash
          rw [place?, shape, walk_append, bind_eq_ok_iff] at outer
          obtain ⟨middle, walked, stayed⟩ := outer
          rw [walk_nil] at stayed
          have here := eq_of_step_void (.inl rfl) stayed
          rw [place?, absoluteBase, String.toList_append, shape, List.append_assoc,
            List.singleton_append, walk_append, walked, here]
          rfl
      · rw [place?, String.append_assoc, absoluteBase, String.toList_append,
          String.toList_append]
        change tree.walk _ (base.toList ++ '/' :: reference.toList) = _
        rw [walk_append]
        rw [place?] at outer
        rw [outer]
        rfl

end Tree

end Files

end FlatMessage
