import FlatMessage.Proofs.Distinct.Paths
import FlatMessage.Proofs.Writing.Growth

/-!
# Making directories

A part that is followed from a path is looked up in the directory that the path leads to.
So a directory is made inside another one as soon as the other one is there, and when the
other one is missing, it is made first.
-/

namespace FlatMessage.Files

open Naming (lead toList_join isAbsolute_of_not_mem)

/-- A part of a path that is the name of something. -/
structure IsPart (name : String) : Prop where
  filled : name ≠ ""
  single : name ≠ "."
  double : name ≠ ".."
  simple : '/' ∉ name.toList

namespace Tree

variable {tree larger : Tree} {place : Place} {path name : String}

/-! ## Parts behind a path -/

/-- An empty part only asks for a directory, as every part does. -/
theorem step_empty_bind (tree : Tree) (place : Place) (part : String) :
    (tree.step place "" >>= fun next => tree.step next part) = tree.step place part := by
  cases there : tree.root.at? place with
  | none => simp [step, there, bind, Except.bind]
  | some entry =>
      cases entry with
      | file content => simp [step, there, bind, Except.bind]
      | directory entries =>
          rw [step_void (.inl rfl) there]
          rfl

theorem step_empty_eq_ok_iff {next : Place} :
    tree.step place "" = .ok next ↔
      next = place ∧ ∃ entries, tree.root.at? place = some (.directory entries) := by
  constructor
  · intro stepped
    exact ⟨eq_of_step_void (.inl rfl) stepped, directory_of_step stepped⟩
  · rintro ⟨rfl, entries, there⟩
    exact step_void (.inl rfl) there

theorem start_join (simple : '/' ∉ name.toList) :
    tree.start (Path.join path name) = tree.start path := by
  have relative := isAbsolute_of_not_mem simple
  by_cases empty : path = ""
  · subst empty
    rw [Path.join_empty, start, start, relative]
    rfl
  · have filled : path.toList ≠ [] := by simpa using empty
    obtain ⟨c, rest, shape⟩ := List.exists_cons_of_ne_nil filled
    have some_ : path.isEmpty = false := by simpa using empty
    have headed : ∃ more, (Path.join path name).toList = c :: more := by
      rw [toList_join relative, lead, some_, shape]
      split
      · next contra => cases contra
      · split <;> exact ⟨_, rfl⟩
    obtain ⟨more, shapeToo⟩ := headed
    rw [start, start, Path.isAbsolute, Path.isAbsolute, shape, shapeToo]
    rfl

/-- A path with a part behind it is cut into parts that lead where the path leads, and the
part. -/
theorem exists_parts_join (path : String) (simple : '/' ∉ name.toList) :
    ∃ before, Path.parts (Path.join path name) = before ++ [name] ∧
      ∀ (tree : Tree) (part : String),
        (before.foldlM tree.step (tree.start path) >>= fun next => tree.step next part) =
          tree.place? path >>= fun next => tree.step next part := by
  have relative := isAbsolute_of_not_mem simple
  have alone : Text.splitChars (· == '/') name.toList = [name.toList] := by
    apply Text.splitChars_of_forall_not
    intro c member
    rw [beq_eq_false_iff_ne]
    rintro rfl
    exact simple member
  rw [Path.parts, Text.split, toList_join relative, lead]
  split
  · next empty =>
      obtain rfl : path = "" := by simpa using empty
      refine ⟨[], by rw [List.nil_append, alone]; simp, fun tree part => ?_⟩
      rw [place?, String.toList_empty, walk_nil, step_empty_bind]
      rfl
  · split
    · next slash =>
        obtain ⟨before, shape⟩ := List.getLast?_eq_some_iff.mp slash
        refine ⟨(Text.splitChars (· == '/') before).map String.ofList, ?_, fun tree part => ?_⟩
        · rw [shape, List.append_assoc, List.singleton_append,
            Text.splitChars_append (by decide), alone]
          simp
        · rw [place?, shape, walk_append, bind_assoc]
          simp only [walk_nil, step_empty_bind]
          rfl
    · refine ⟨(Text.splitChars (· == '/') path.toList).map String.ofList, ?_, fun _ _ => rfl⟩
      rw [List.append_assoc, List.singleton_append, Text.splitChars_append (by decide), alone]
      simp

/-- A part is followed from where the path leads. -/
theorem place?_join (simple : '/' ∉ name.toList) :
    tree.place? (Path.join path name) =
      tree.place? path >>= fun next => tree.step next name := by
  obtain ⟨before, parts, leads⟩ := exists_parts_join path simple
  rw [← leads, place?, walk, ← Text.split, ← Path.parts, parts, List.foldlM_append,
    start_join simple]
  simp

/-- A part is looked up in the directory that the path leads to. -/
theorem container_join (tree : Tree) (path : String) (isPart : IsPart name) :
    tree.container (Path.join path name) (trimmedParts (Path.join path name)) =
        (tree.place? path >>= fun next => tree.step next "") ∧
      (trimmedParts (Path.join path name)).getLast? = some name := by
  obtain ⟨before, parts, leads⟩ := exists_parts_join path isPart.simple
  have trimmed : trimmedParts (Path.join path name) = before ++ [name] := by
    rw [trimmedParts, parts]
    simp [isPart.filled]
  rw [trimmed]
  refine ⟨?_, by simp⟩
  rw [container, List.dropLast_concat, start_join isPart.simple, leads]

/-! ## Directories -/

/-- A path leads to a directory at a place. -/
def IsDirectoryAt (tree : Tree) (path : String) (place : Place) : Prop :=
  tree.locate path = .ok place ∧ ∃ entries, tree.root.at? place = some (.directory entries)

theorem isDirectory_iff :
    tree.isDirectory path = true ↔ ∃ place, tree.IsDirectoryAt path place := by
  unfold isDirectory entry IsDirectoryAt
  cases tree.locate path with
  | error failure => simp [bind, Except.bind]
  | ok place =>
      cases there : tree.root.at? place with
      | none => simp [bind, Except.bind, there]
      | some entry =>
          cases entry <;> simp [bind, Except.bind, there, Entry.isDirectory]

namespace IsDirectoryAt

theorem place? (isAt : tree.IsDirectoryAt path place) : tree.place? path = .ok place :=
  (locate_eq_ok_iff.mp isAt.1).2

theorem flaw? (isAt : tree.IsDirectoryAt path place) : flaw? path = none :=
  (locate_eq_ok_iff.mp isAt.1).1

theorem mono (isAt : tree.IsDirectoryAt path place) (within : tree.Within larger) :
    larger.IsDirectoryAt path place := by
  obtain ⟨located, entries, there⟩ := isAt
  obtain ⟨sound, leads⟩ := locate_eq_ok_iff.mp located
  exact ⟨locate_eq_ok_iff.mpr ⟨sound, within.place? leads⟩, within.directory there⟩

theorem step_empty (isAt : tree.IsDirectoryAt path place) :
    (tree.place? path >>= fun next => tree.step next "") = .ok place := by
  rw [isAt.place?]
  exact step_empty_eq_ok_iff.mpr ⟨rfl, isAt.2⟩

end IsDirectoryAt

/-- A directory is made where its name is free. -/
theorem makeDirectory_join (tree : Tree) (sound : flaw? (Path.join path name) = none)
    (isPart : IsPart name) :
    tree.makeDirectory (Path.join path name) =
      (tree.place? path >>= fun next => tree.step next "") >>= fun place =>
        if nameLimit < name.utf8ByteSize then .error .nameTooLong
        else
          match tree.root.at? (place ++ [name]) with
          | some _ => .error .alreadyExists
          | none => .ok { tree with root := tree.root.put .empty (place ++ [name]) } := by
  obtain ⟨container, last⟩ := container_join tree path isPart
  rw [makeDirectory, sound]
  dsimp only
  have plain : ¬(name = "." ∨ name = "..") := by simp [isPart.single, isPart.double]
  rw [container, last]
  exact congrArg (_ >>= ·) (funext fun place => if_neg plain)

/-- A directory that is made is put, empty, into the one that its name is looked up in. -/
theorem exists_of_makeDirectory {made : Tree} (success : tree.makeDirectory path = .ok made) :
    ∃ outer name, tree.container path (trimmedParts path) = .ok outer ∧
      (∃ entries, tree.root.at? outer = some (.directory entries)) ∧
      tree.root.at? (outer ++ [name]) = none ∧
      made = { tree with root := tree.root.put .empty (outer ++ [name]) } := by
  unfold makeDirectory at success
  split at success
  · cases success
  · obtain ⟨place, found, success⟩ := bind_eq_ok_iff.mp success
    have inside := found
    obtain ⟨before, -, stepped⟩ := bind_eq_ok_iff.mp found
    obtain ⟨rfl, directory⟩ := step_empty_eq_ok_iff.mp stepped
    split at success
    · cases success
    · next name last =>
        split_ifs at success
        split at success
        · cases success
        · next free =>
            cases success
            exact ⟨place, name, inside, directory, free, rfl⟩

/-- Making a directory lets the tree grow. -/
theorem within_makeDirectory {made : Tree} (success : tree.makeDirectory path = .ok made) :
    tree.Within made := by
  obtain ⟨outer, last, -, ⟨entries, directory⟩, free, rfl⟩ := exists_of_makeDirectory success
  refine Within.put directory fun old known => ?_
  rw [Entry.at?_concat_eq_some_iff.mpr ⟨entries, directory, known⟩] at free
  cases free

/-- Try once to make a directory, which may be there. -/
def makeOnce (tree : Tree) (path : String) : Except FileError Unit × Tree :=
  match tree.makeDirectory path with
  | .ok made => (.ok (), made)
  | .error failure =>
      if tree.isDirectory path then (.ok (), tree) else (.error failure, tree)

/-- One try is enough when something else than a missing directory is in the way. -/
theorem makeLineage_cons_of_ne {outer : List String}
    (other : tree.makeDirectory path ≠ .error .notFound) :
    tree.makeLineage (path :: outer) = tree.makeOnce path := by
  rw [makeLineage, makeOnce]
  cases made : tree.makeDirectory path with
  | ok made => rfl
  | error failure =>
      cases failure <;> first | rfl | exact absurd made other

/-- The directory around a missing one is made first. -/
theorem makeLineage_cons_of_eq {outer : List String}
    (missing : tree.makeDirectory path = .error .notFound) :
    tree.makeLineage (path :: outer) =
      match tree.makeLineage outer with
      | (.error failure, tree) => (.error failure, tree)
      | (.ok (), tree) => tree.makeOnce path := by
  rw [makeLineage, missing]
  dsimp only
  rcases tree.makeLineage outer with ⟨_ | _, larger⟩
  · rfl
  · cases made : larger.makeDirectory path <;> simp only [makeOnce, made]

theorem within_makeOnce (tree : Tree) (path : String) :
    tree.Within (tree.makeOnce path).2 := by
  unfold makeOnce
  cases made : tree.makeDirectory path with
  | ok made => exact within_makeDirectory ‹_›
  | error failure =>
      dsimp only
      split <;> exact .refl tree

theorem within_makeLineage (tree : Tree) (paths : List String) :
    tree.Within (tree.makeLineage paths).2 := by
  induction paths generalizing tree with
  | nil => exact .refl tree
  | cons path outer ih =>
      by_cases missing : tree.makeDirectory path = .error .notFound
      · rw [makeLineage_cons_of_eq missing]
        have before := ih tree
        rcases outcome : tree.makeLineage outer with ⟨_ | _, larger⟩
        · rw [outcome] at before
          exact before
        · rw [outcome] at before
          exact before.trans (within_makeOnce larger path)
      · rw [makeLineage_cons_of_ne missing]
        exact within_makeOnce tree path

/-! ## Lineages -/

open Files.Path (anchor divide dropVoid isVoid lastPart? parent?)

theorem length_dropVoid_le (part reversed : List Char) :
    (dropVoid part reversed).length ≤ part.length + reversed.length := by
  rw [← List.length_append]
  exact (dropVoid_isSuffix part reversed).length_le

/-- What is left of a reversed path does not begin with a slash. -/
theorem head?_dropVoid {part reversed : List Char} (simple : '/' ∉ part) :
    (dropVoid part reversed).head? ≠ some '/' := by
  have solid : ∀ {part : List Char} (more : List Char), '/' ∉ part → isVoid part = false →
      (part ++ more).head? ≠ some '/' := by
    intro part more simple solid
    cases part with
    | nil => cases solid
    | cons c rest =>
        rw [List.mem_cons, not_or] at simple
        simpa [eq_comm] using simple.1
  fun_induction dropVoid part reversed with
  | case1 part void => simp
  | case2 part filled => simpa using solid [] simple (by simpa using filled)
  | case3 part rest void ih => exact ih (by simp)
  | case4 part rest filled => exact solid _ simple (by simpa using filled)
  | case5 part c rest other ih =>
      refine ih ?_
      rw [List.mem_append, List.mem_singleton, not_or]
      exact ⟨simple, fun same => other same.symm⟩

/-- What contains something has a shorter path. -/
theorem length_parent?_lt {path outer : String} (filled : path ≠ "")
    (parent : parent? path = some outer) : outer.length < path.length := by
  obtain ⟨rest, whole⟩ := exists_eq_anchor_append path.toList
  generalize lead : anchor path.toList = start at whole
  have length : path.length = start.length + rest.length := by
    rw [← String.length_toList, whole, List.length_append]
  have divided : divide path = (start, dropVoid [] rest.reverse) := by
    rw [divide, lead, whole]
    simp
  rw [parent?, divided] at parent
  have bound := length_dropVoid_le [] rest.reverse
  have head : (dropVoid [] rest.reverse).head? ≠ some '/' := head?_dropVoid List.not_mem_nil
  cases body : dropVoid [] rest.reverse with
  | nil =>
      rw [body] at parent
      dsimp only at parent
      split at parent
      · cases parent
        have some_ : path.length ≠ 0 := by simpa using filled
        simpa using Nat.pos_of_ne_zero some_
      · cases parent
  | cons c body' =>
      rw [body] at parent bound head
      obtain rfl := Option.some.inj parent
      have other : c ≠ '/' := by simpa using head
      have shorter := (List.dropWhile_suffix (· != '/') (l := body')).length_le
      have inner := length_dropVoid_le [] (body'.dropWhile (· != '/'))
      simp [other] at bound ⊢
      simp at inner
      omega

/-- A lineage does not depend on a bound that is large enough. -/
theorem lineage_eq {path : String} {fuel more : Nat} (enough : path.length < fuel)
    (enoughToo : path.length < more) : lineage path fuel = lineage path more := by
  induction fuel generalizing path more with
  | zero => omega
  | succ fuel ih =>
      obtain ⟨more, rfl⟩ := Nat.exists_eq_add_one_of_ne_zero (Nat.ne_zero_of_lt enoughToo)
      rw [lineage, lineage]
      split
      · rfl
      · next filled =>
          cases parent : parent? path with
          | none => rfl
          | some outer =>
              have shorter := length_parent?_lt filled parent
              exact congrArg (path :: ·) (ih (by omega) (by omega))

/-- A solid part at the end of a path stays there. -/
theorem dropVoid_append {part : List Char} (simple : '/' ∉ part) (solid : isVoid part = false)
    {rest : List Char} (behind : rest = [] ∨ rest.head? = some '/') :
    dropVoid [] (part ++ rest) = part ++ rest := by
  have step : ∀ (start part : List Char), '/' ∉ part →
      dropVoid start (part ++ rest) = dropVoid (start ++ part) rest := by
    intro start part simple
    induction part generalizing start with
    | nil => simp
    | cons c more ih =>
        rw [List.mem_cons, not_or] at simple
        rw [List.cons_append, dropVoid, ih _ simple.2, List.append_assoc]
        · rfl
        · exact fun same => simple.1 same.symm
  rw [step [] part simple, List.nil_append]
  rcases behind with rfl | slash
  · simp [dropVoid, solid]
  · obtain ⟨more, rfl⟩ := List.head?_eq_some_iff.mp slash
    simp [dropVoid, solid]

theorem isVoid_reverse (isPart : IsPart name) : isVoid name.toList.reverse = false := by
  have single : name.toList ≠ ['.'] := by
    intro same
    exact isPart.single (String.toList_inj.mp same)
  simpa [isVoid] using ⟨isPart.filled, single⟩

/-- What comes before a part ends in a slash, if there is anything. -/
theorem getLast?_lead (path : String) : lead path = [] ∨ (lead path).getLast? = some '/' := by
  rw [lead]
  split
  · exact .inl rfl
  · split
    · next slash => exact .inr slash
    · simp

theorem lead_join (isPart : IsPart name) :
    lead (Path.join path name) = lead path ++ (name.toList ++ ['/']) := by
  have whole : (Path.join path name).toList = lead path ++ name.toList :=
    toList_join (isAbsolute_of_not_mem isPart.simple)
  have filled : name.toList ≠ [] := by simpa using isPart.filled
  rw [Naming.lead_of_slash_free, whole, List.append_assoc]
  · simp [whole, isPart.filled]
  · rw [whole, List.getLast?_append_of_ne_nil _ filled]
    exact fun slash => isPart.simple (List.mem_of_getLast? slash)

/-- The anchor of a path is not part of a name in it. -/
theorem exists_lead_eq {name : String} (isPart : IsPart name) (path : String)
    (rest : List Char) :
    ∃ more, lead path = anchor (lead path ++ (name.toList ++ '/' :: rest)) ++ more := by
  have filled : name.toList ≠ [] := by simpa using isPart.filled
  obtain ⟨c, others, shape⟩ := List.exists_cons_of_ne_nil filled
  have simple := isPart.simple
  rw [shape, List.mem_cons, not_or] at simple
  cases start : lead path with
  | nil =>
      refine ⟨[], ?_⟩
      rw [List.nil_append, List.append_nil, shape]
      unfold anchor
      split
      · next slash => simp_all
      · next single => simp_all
      · next more dotted =>
          exfalso
          cases others with
          | nil =>
              obtain rfl : c = '.' := (List.cons.inj dotted).1
              exact isPart.single (String.toList_inj.mp shape)
          | cons next more => simp_all
      · rfl
  | cons c more =>
      rw [List.cons_append]
      unfold anchor
      split
      · next slash => exact ⟨more, by simp_all⟩
      · next single => simp_all
      · next dotted => exact ⟨more, by simp_all⟩
      · exact ⟨c :: more, rfl⟩

/-- A path is divided behind its anchor, and two parts at its end stay there. -/
theorem exists_divide_join_join {inner : String} (path : String) (isPart : IsPart name)
    (isPartToo : IsPart inner) :
    ∃ start more, lead path = start ++ more ∧
      (more.reverse = [] ∨ more.reverse.head? = some '/') ∧
        divide (Path.join (Path.join path name) inner) =
          (start, inner.toList.reverse ++ '/' :: (name.toList.reverse ++ more.reverse)) := by
  have whole : (Path.join (Path.join path name) inner).toList =
      lead path ++ (name.toList ++ '/' :: inner.toList) := by
    rw [toList_join (isAbsolute_of_not_mem isPartToo.simple), lead_join isPart]
    simp
  obtain ⟨more, split⟩ := exists_lead_eq isPart path inner.toList
  generalize start : anchor (lead path ++ (name.toList ++ '/' :: inner.toList)) = chars at split
  refine ⟨chars, more, split, ?_, ?_⟩
  · rw [List.head?_reverse]
    rcases getLast?_lead path with none_ | slash
    · left
      rw [none_] at split
      simpa using (List.append_eq_nil_iff.mp split.symm).2
    · rcases List.eq_nil_or_concat more with rfl | ⟨more, last, rfl⟩
      · exact .inl rfl
      · right
        rw [split] at slash
        simpa using slash
  · have reversed : (more ++ (name.toList ++ '/' :: inner.toList)).reverse =
        inner.toList.reverse ++ '/' :: (name.toList.reverse ++ more.reverse) := by
      simp
    have body : dropVoid [] (more ++ (name.toList ++ '/' :: inner.toList)).reverse =
        inner.toList.reverse ++ '/' :: (name.toList.reverse ++ more.reverse) := by
      rw [reversed]
      exact dropVoid_append (by simpa using isPartToo.simple) (isVoid_reverse isPartToo)
        (.inr rfl)
    rw [divide, whole, start, ← body, split]
    simp

/-- What contains a part behind a path is the path. -/
theorem parent?_join_join {inner : String} (isPart : IsPart name) (isPartToo : IsPart inner) :
    parent? (Path.join (Path.join path name) inner) = some (Path.join path name) := by
  obtain ⟨start, more, split, closed, divided⟩ :=
    exists_divide_join_join path isPart isPartToo
  have filled : inner.toList.reverse ++ '/' :: (name.toList.reverse ++ more.reverse) ≠ [] := by
    simp
  have outer : dropVoid []
      ((inner.toList.reverse ++ '/' :: (name.toList.reverse ++ more.reverse)).dropWhile
        (· != '/')) = name.toList.reverse ++ more.reverse := by
    rw [List.dropWhile_append_of_pos]
    · rw [List.dropWhile_cons_of_neg (by simp), dropVoid, if_pos (by rfl)]
      exact dropVoid_append (by simpa using isPart.simple) (isVoid_reverse isPart) closed
    · intro c member
      rw [bne_iff_ne]
      rintro rfl
      exact isPartToo.simple (List.mem_reverse.mp member)
  have joined : Path.join path name = String.ofList (start ++ (more ++ name.toList)) := by
    apply String.toList_inj.mp
    rw [toList_join (isAbsolute_of_not_mem isPart.simple), split, String.toList_ofList,
      List.append_assoc]
  rw [parent?, divided]
  obtain ⟨c, others, shape⟩ := List.exists_cons_of_ne_nil filled
  rw [shape]
  dsimp only
  rw [← shape, outer, joined]
  simp

/-- The last part of a path is the one that it ends in. -/
theorem lastPart?_join_join {inner : String} (isPart : IsPart name) (isPartToo : IsPart inner) :
    lastPart? (Path.join (Path.join path name) inner) = some inner := by
  obtain ⟨start, more, -, -, divided⟩ := exists_divide_join_join path isPart isPartToo
  have filled : inner.toList.reverse ++ '/' :: (name.toList.reverse ++ more.reverse) ≠ [] := by
    simp
  rw [lastPart?, divided]
  obtain ⟨c, others, shape⟩ := List.exists_cons_of_ne_nil filled
  rw [shape]
  dsimp only
  rw [← shape, List.takeWhile_append_of_pos]
  · simp
  · intro c member
    rw [bne_iff_ne]
    rintro rfl
    exact isPartToo.simple (List.mem_reverse.mp member)

/-! ## Joined paths -/

/-- A path without flaws has no flaws before its last part. -/
theorem flaw?_of_join (sound : flaw? (Path.join path name) = none) (filled : path ≠ "")
    (simple : '/' ∉ name.toList) : flaw? path = none := by
  have relative := isAbsolute_of_not_mem simple
  have some_ : path.isEmpty = false := by simpa using filled
  have longer : ∃ rest, Path.join path name = path ++ rest := by
    rw [Path.join, relative, some_]
    by_cases slash : path.toList.getLast? = some '/'
    · exact ⟨name, by simp [slash]⟩
    · exact ⟨"/" ++ name, by simp [slash, String.append_assoc]⟩
  obtain ⟨rest, whole⟩ := longer
  rw [flaw?, whole] at sound
  split_ifs at sound with zero empty long
  rw [flaw?, if_neg, if_neg filled, if_neg]
  · rw [String.utf8ByteSize_append] at long
    omega
  · intro there
    apply zero
    simp only [String.toList_append, List.contains_eq_mem, decide_eq_true_eq] at there ⊢
    exact List.mem_append_left _ there

theorem join_ne_empty (isPart : IsPart name) : Path.join path name ≠ "" := by
  intro empty
  have chars := congrArg String.toList empty
  rw [toList_join (isAbsolute_of_not_mem isPart.simple)] at chars
  exact isPart.filled (by simpa using (List.append_eq_nil_iff.mp chars).2)

/-- A directory that is made is there. -/
theorem isDirectoryAt_of_makeDirectory (isPart : IsPart name) {made : Tree}
    (success : tree.makeDirectory (Path.join path name) = .ok made) :
    (∃ place, made.IsDirectoryAt (Path.join path name) place) ∧
      tree.place? (Path.join path name) = .error .notFound := by
  have sound : flaw? (Path.join path name) = none := by
    cases flawed : flaw? (Path.join path name) with
    | none => rfl
    | some flaw => simp [makeDirectory, flawed] at success
  have within := within_makeDirectory success
  rw [makeDirectory_join _ sound isPart] at success
  obtain ⟨place, found, success⟩ := bind_eq_ok_iff.mp success
  obtain ⟨outer, leads, inside⟩ := bind_eq_ok_iff.mp found
  obtain ⟨rfl, entries, directory⟩ := step_empty_eq_ok_iff.mp inside
  split_ifs at success with long
  split at success
  · cases success
  · next free =>
      cases success
      have absent : Keyed.get? name entries = none := by
        cases known : Keyed.get? name entries with
        | none => rfl
        | some old =>
            rw [Entry.at?_concat_eq_some_iff.mpr ⟨entries, directory, known⟩] at free
            cases free
      have there := Entry.at?_put_self tree.root .empty (place ++ [name])
      constructor
      · refine ⟨place ++ [name], locate_eq_ok_iff.mpr ⟨sound, ?_⟩, [], there⟩
        rw [place?_join isPart.simple, within.place? leads]
        have named : IsName name :=
          ⟨isPart.filled, isPart.single, isPart.double, isPart.simple, Nat.le_of_not_lt long⟩
        exact step_of_isName named there
      · rw [place?_join isPart.simple, leads]
        change tree.step place name = _
        simp [step, directory, isPart.filled, isPart.single, isPart.double, long, absent]

/-- A directory that is tried to be made is there, and it was there or nothing was. -/
theorem isDirectoryAt_of_makeOnce (isPart : IsPart name)
    (success : tree.makeOnce (Path.join path name) = (.ok (), larger)) :
    (∃ place, larger.IsDirectoryAt (Path.join path name) place) ∧
      (larger = tree ∨ tree.place? (Path.join path name) = .error .notFound) := by
  unfold makeOnce at success
  cases made : tree.makeDirectory (Path.join path name) with
  | ok other =>
      rw [made] at success
      cases success
      obtain ⟨there, absent⟩ := isDirectoryAt_of_makeDirectory isPart made
      exact ⟨there, .inr absent⟩
  | error failure =>
      rw [made] at success
      dsimp only at success
      split at success
      · next there =>
          cases success
          exact ⟨isDirectory_iff.mp there, .inl rfl⟩
      · cases success

/-- What is missing around a directory that cannot be made is missing. -/
theorem place?_of_makeDirectory_notFound (isPart : IsPart name)
    (sound : flaw? (Path.join path name) = none)
    (missing : tree.makeDirectory (Path.join path name) = .error .notFound) :
    tree.place? path = .error .notFound ∨
      ∃ place, tree.place? path = .ok place ∧ tree.root.at? place = none := by
  rw [makeDirectory_join _ sound isPart] at missing
  cases leads : tree.place? path with
  | error failure =>
      rw [leads] at missing
      obtain rfl : failure = .notFound := by simpa [bind, Except.bind] using missing
      exact .inl rfl
  | ok place =>
      right
      refine ⟨place, rfl, ?_⟩
      rw [leads] at missing
      cases there : tree.root.at? place with
      | none => rfl
      | some entry =>
          cases entry with
          | file content => simp [step, there, bind, Except.bind] at missing
          | directory entries =>
              have stays : tree.step place "" = .ok place := step_void (.inl rfl) there
              change (tree.step place "" >>= _) = _ at missing
              rw [stays] at missing
              change (if _ then _ else _) = _ at missing
              split_ifs at missing
              · cases missing
              · split at missing <;> cases missing

theorem lineage_join (path : String) (isPart : IsPart name) (fuel : Nat) :
    ∃ outer, lineage (Path.join path name) (fuel + 1) = Path.join path name :: outer := by
  rw [lineage, if_neg (join_ne_empty isPart)]
  exact ⟨_, rfl⟩

/-- A path that something is missing for has no flaw. -/
theorem flaw?_of_makeDirectory_notFound (isPart : IsPart name)
    (missing : tree.makeDirectory (Path.join path name) = .error .notFound) :
    flaw? (Path.join path name) = none := by
  cases flawed : flaw? (Path.join path name) with
  | none => rfl
  | some flaw =>
      obtain rfl : flaw = .notFound := by simpa [makeDirectory, flawed] using missing
      rw [flaw?, if_neg (join_ne_empty isPart)] at flawed
      split_ifs at flawed <;> cases flawed

/-- What is missing for a directory with one more part is missing in every case. -/
theorem place?_eq_notFound (isPart : IsPart name)
    (missing : tree.makeDirectory (Path.join path name) = .error .notFound) :
    tree.place? (Path.join path name) = .error .notFound := by
  have sound := flaw?_of_makeDirectory_notFound isPart missing
  rw [place?_join isPart.simple]
  rcases place?_of_makeDirectory_notFound isPart sound missing with absent | ⟨place, leads, none_⟩
  · rw [absent]
    rfl
  · rw [leads]
    change tree.step place name = _
    rw [step, none_]

/-- Directories that are made are there.  They were there before, or nothing was. -/
theorem isDirectoryAt_of_makeDirectories (isPart : IsPart name)
    (success : tree.makeDirectories (Path.join path name) = (.ok (), larger)) :
    (∃ place, larger.IsDirectoryAt (Path.join path name) place) ∧
      (larger = tree ∨ tree.place? (Path.join path name) = .error .notFound) := by
  obtain ⟨outer, lines⟩ :=
    lineage_join path isPart (Path.join path name).length
  rw [makeDirectories, lines] at success
  by_cases missing : tree.makeDirectory (Path.join path name) = .error .notFound
  · rw [makeLineage_cons_of_eq missing] at success
    rcases around : tree.makeLineage outer with ⟨_ | _, middle⟩
    · rw [around] at success
      cases success
    · rw [around] at success
      exact ⟨(isDirectoryAt_of_makeOnce isPart success).1,
        .inr (place?_eq_notFound isPart missing)⟩
  · rw [makeLineage_cons_of_ne missing] at success
    exact isDirectoryAt_of_makeOnce isPart success

/-- A directory that is there stays as it is. -/
theorem makeDirectories_of_isDirectoryAt (isPart : IsPart name)
    (isAt : tree.IsDirectoryAt (Path.join path name) place) :
    tree.makeDirectories (Path.join path name) = (.ok (), tree) := by
  obtain ⟨outer, lines⟩ :=
    lineage_join path isPart (Path.join path name).length
  have missing : tree.makeDirectory (Path.join path name) ≠ .error .notFound := by
    intro missing
    have absent := place?_eq_notFound isPart missing
    rw [isAt.place?] at absent
    cases absent
  rw [makeDirectories, lines, makeLineage_cons_of_ne missing, makeOnce]
  cases made : tree.makeDirectory (Path.join path name) with
  | ok other =>
      have absent := (isDirectoryAt_of_makeDirectory isPart made).2
      rw [isAt.place?] at absent
      cases absent
  | error failure => exact if_pos (isDirectory_iff.mpr ⟨place, isAt⟩)

/-- Inside a directory that is there, one try is enough. -/
theorem makeDirectories_join (isAt : tree.IsDirectoryAt path place) (isPart : IsPart name) :
    tree.makeDirectories (Path.join path name) = tree.makeOnce (Path.join path name) := by
  obtain ⟨outer, lines⟩ :=
    lineage_join path isPart (Path.join path name).length
  rw [makeDirectories, lines, makeLineage_cons_of_ne]
  intro missing
  have sound := flaw?_of_makeDirectory_notFound isPart missing
  have here := isAt.place?
  obtain ⟨-, entries, there⟩ := isAt
  rcases place?_of_makeDirectory_notFound isPart sound missing with absent | ⟨other, leads, none_⟩
  · rw [here] at absent
    cases absent
  · rw [here, Except.ok.injEq] at leads
    rw [← leads, there] at none_
    cases none_

/-- The lineage of a directory inside another one. -/
theorem lineage_join_join {inner : String} (isPart : IsPart name) (isPartToo : IsPart inner)
    (path : String) :
    lineage (Path.join (Path.join path name) inner)
        ((Path.join (Path.join path name) inner).length + 1) =
      Path.join (Path.join path name) inner ::
        lineage (Path.join path name) ((Path.join path name).length + 1) := by
  have parent : parent? (Path.join (Path.join path name) inner) = some (Path.join path name) :=
    parent?_join_join isPart isPartToo
  have longer := length_parent?_lt (join_ne_empty isPartToo) parent
  rw [lineage, if_neg (join_ne_empty isPartToo), parent]
  exact congrArg (_ :: ·) (lineage_eq longer (Nat.lt_succ_self _))

/-- After the directories around it are made, a directory is made as before. -/
theorem makeDirectories_after {inner : String} (isPart : IsPart name) (isPartToo : IsPart inner)
    (sound : flaw? (Path.join (Path.join path name) inner) = none)
    (success : tree.makeDirectories (Path.join path name) = (.ok (), larger)) :
    tree.makeDirectories (Path.join (Path.join path name) inner) =
      larger.makeDirectories (Path.join (Path.join path name) inner) := by
  obtain ⟨⟨place, isAt⟩, same | absent⟩ := isDirectoryAt_of_makeDirectories isPart success
  · rw [same]
  · have missing : tree.makeDirectory (Path.join (Path.join path name) inner) =
        .error .notFound := by
      rw [makeDirectory_join _ sound isPartToo, absent]
      rfl
    rw [makeDirectories_join isAt isPartToo, makeDirectories,
      lineage_join_join isPart isPartToo path, makeLineage_cons_of_eq missing, ← makeDirectories,
      success]

/-- The directories around one that is made can be made. -/
theorem exists_makeDirectories_outer {inner : String} (isPart : IsPart name)
    (isPartToo : IsPart inner)
    (sound : flaw? (Path.join (Path.join path name) inner) = none)
    (success : tree.makeDirectories (Path.join (Path.join path name) inner) =
      (.ok (), larger)) :
    ∃ middle, tree.makeDirectories (Path.join path name) = (.ok (), middle) := by
  have soundOuter := flaw?_of_join sound (join_ne_empty isPart) isPartToo.simple
  by_cases there : tree.isDirectory (Path.join path name) = true
  · obtain ⟨place, isAt⟩ := isDirectory_iff.mp there
    exact ⟨tree, makeDirectories_of_isDirectoryAt isPart isAt⟩
  · have absent : ∀ place, tree.place? (Path.join path name) = .ok place →
        ∀ entries, tree.root.at? place ≠ some (.directory entries) :=
      fun place leads entries directory => there (isDirectory_iff.mpr
        ⟨place, locate_eq_ok_iff.mpr ⟨soundOuter, leads⟩, entries, directory⟩)
    rw [makeDirectories, lineage_join_join isPart isPartToo path] at success
    by_cases missing : tree.makeDirectory (Path.join (Path.join path name) inner) =
        .error .notFound
    · rw [makeLineage_cons_of_eq missing, ← makeDirectories] at success
      rcases outer : tree.makeDirectories (Path.join path name) with ⟨_ | _, middle⟩
      · rw [outer] at success
        cases success
      · exact ⟨middle, rfl⟩
    · rw [makeLineage_cons_of_ne missing, makeOnce] at success
      exfalso
      cases made : tree.makeDirectory (Path.join (Path.join path name) inner) with
      | ok other =>
          rw [makeDirectory_join _ sound isPartToo] at made
          obtain ⟨place, found, -⟩ := bind_eq_ok_iff.mp made
          obtain ⟨outer, leads, inside⟩ := bind_eq_ok_iff.mp found
          obtain ⟨rfl, entries, directory⟩ := step_empty_eq_ok_iff.mp inside
          exact absent place leads entries directory
      | error failure =>
          rw [made] at success
          dsimp only at success
          split at success
          · next isDirectory =>
              obtain ⟨place, isAt⟩ := isDirectory_iff.mp isDirectory
              have leads := isAt.place?
              rw [place?_join isPartToo.simple, bind_eq_ok_iff] at leads
              obtain ⟨outer, leads, stepped⟩ := leads
              obtain ⟨entries, directory⟩ := directory_of_step stepped
              exact absent outer leads entries directory
          · cases success

end Tree

end FlatMessage.Files
