import FlatMessage.Project.Run
import FlatMessage.Proofs.Writing.Directories

/-!
# Writing documents

All documents of a run lie in one directory or in a directory inside it.  Writing a document
makes its directory and leaves the other documents where they are, so a document that can be
written after others can be written before them: whether all documents can be written does
not depend on their order.
-/

namespace FlatMessage

namespace Files

open Naming (IsIdentifier IsDirectory lead toList_join isAbsolute_of_not_mem)

theorem isPart_of_isIdentifier {name : String} (legal : IsIdentifier name) : IsPart name where
  filled := by
    rintro rfl
    exact legal.toList_ne_nil rfl
  single := by
    rintro rfl
    exact legal.not_mem_dot (by decide)
  double := by
    rintro rfl
    exact legal.not_mem_dot (by decide)
  simple := legal.not_mem_slash

namespace Tree

variable {tree larger largest : Tree} {place : Place} {path name : String}
  {content : List UInt8}

/-! ## Files -/

/-- What is written is a part of its path. -/
theorem isPart_of_writeFile (simple : '/' ∉ name.toList)
    (success : tree.writeFile (Path.join path name) content = .ok larger) :
    flaw? (Path.join path name) = none ∧ IsPart name := by
  unfold writeFile at success
  split at success
  · cases success
  · next sound =>
      refine ⟨sound, ?_⟩
      obtain ⟨outer, -, success⟩ := bind_eq_ok_iff.mp success
      have filled : name ≠ "" := by
        rintro rfl
        have whole : (Path.join path "").toList = lead path := by
          rw [toList_join rfl]
          simp
        rcases getLast?_lead path with none_ | slash
        · have empty : Path.join path "" = "" := String.toList_inj.mp (by rw [whole, none_]; rfl)
          rw [empty] at sound
          exact absurd sound (by decide)
        · rw [← whole] at slash
          split at success
          · cases success
          · rw [if_pos (.inr (.inr slash))] at success
            cases success
      obtain ⟨before, parts, -⟩ := exists_parts_join path simple
      have trimmed : (trimmedParts (Path.join path name)).getLast? = some name := by
        rw [trimmedParts, parts]
        simp [filled]
      rw [trimmed] at success
      dsimp only at success
      split_ifs at success with dots
      rw [not_or, not_or] at dots
      exact ⟨filled, dots.1, dots.2.1, simple⟩

/-- A file is written unless a directory has its name. -/
theorem writeFile_join (tree : Tree) (content : List UInt8)
    (sound : flaw? (Path.join path name) = none) (isPart : IsPart name) :
    tree.writeFile (Path.join path name) content =
      (tree.place? path >>= fun next => tree.step next "") >>= fun place =>
        if nameLimit < name.utf8ByteSize then .error .nameTooLong
        else
          match tree.root.at? (place ++ [name]) with
          | some (.directory _) => .error .isDirectory
          | _ => .ok { tree with root := tree.root.put (.file content) (place ++ [name]) } := by
  obtain ⟨container, last⟩ := container_join tree path isPart
  have filled : name.toList ≠ [] := by simpa using isPart.filled
  have closed : (Path.join path name).toList.getLast? ≠ some '/' := by
    rw [toList_join (isAbsolute_of_not_mem isPart.simple),
      List.getLast?_append_of_ne_nil _ filled]
    exact fun slash => isPart.simple (List.mem_of_getLast? slash)
  rw [writeFile, sound]
  dsimp only
  have plain : ¬(name = "." ∨ name = ".." ∨ (Path.join path name).toList.getLast? = some '/') := by
    simp [isPart.single, isPart.double, closed]
  rw [container, last]
  exact congrArg (_ >>= ·) (funext fun place => if_neg plain)

/-- A directory has a file with a name in it. -/
structure HasFile (tree : Tree) (directory name : String) : Prop where
  sound : flaw? (Path.join directory name) = none
  isPart : IsPart name
  short : name.utf8ByteSize ≤ nameLimit
  there : ∃ place content, tree.IsDirectoryAt directory place ∧
    tree.root.at? (place ++ [name]) = some (.file content)

theorem HasFile.mono {directory : String} (has : tree.HasFile directory name)
    (within : tree.Within larger) : larger.HasFile directory name where
  sound := has.sound
  isPart := has.isPart
  short := has.short
  there := by
    obtain ⟨place, content, isAt, file⟩ := has.there
    obtain ⟨later, found, same⟩ := within.kept _ _ file
    obtain ⟨other, rfl⟩ := Entry.exists_file same
    exact ⟨place, other, isAt.mono within, found⟩

theorem HasFile.flaw? {directory : String} (has : tree.HasFile directory name) :
    Tree.flaw? directory = none := by
  obtain ⟨place, content, isAt, -⟩ := has.there
  exact isAt.flaw?

/-- A file that is written is put into the directory that the path before its name leads
to, where no directory has its name. -/
theorem exists_of_writeFile (simple : '/' ∉ name.toList)
    (success : tree.writeFile (Path.join path name) content = .ok larger) :
    ∃ outer, tree.place? path = .ok outer ∧
      (∃ entries, tree.root.at? outer = some (.directory entries)) ∧
      (∀ entries, tree.root.at? (outer ++ [name]) ≠ some (.directory entries)) ∧
      name.utf8ByteSize ≤ nameLimit ∧
      larger = { tree with root := tree.root.put (.file content) (outer ++ [name]) } := by
  obtain ⟨sound, isPart⟩ := isPart_of_writeFile simple success
  rw [writeFile_join _ _ sound isPart] at success
  obtain ⟨place, found, success⟩ := bind_eq_ok_iff.mp success
  obtain ⟨outer, leads, inside⟩ := bind_eq_ok_iff.mp found
  obtain ⟨rfl, directory⟩ := step_empty_eq_ok_iff.mp inside
  split_ifs at success with long
  split at success
  · cases success
  · next other =>
      cases success
      exact ⟨place, leads, directory, other, Nat.le_of_not_lt long, rfl⟩

/-- A tree grows when a file is put where no directory is. -/
theorem within_put_file {entries : List (String × Entry)}
    (there : tree.root.at? place = some (.directory entries))
    (free : ∀ entries, tree.root.at? (place ++ [name]) ≠ some (.directory entries))
    (content : List UInt8) :
    tree.Within { tree with root := tree.root.put (.file content) (place ++ [name]) } := by
  refine .put there fun old known => ⟨?_, rfl⟩
  cases old with
  | file content => rfl
  | directory entries =>
      exact absurd (Entry.at?_concat_eq_some_iff.mpr ⟨_, there, known⟩) (free _)

/-- A file that is written is there, and the tree has grown. -/
theorem hasFile_of_writeFile {directory : String} (filled : directory ≠ "")
    (simple : '/' ∉ name.toList)
    (success : tree.writeFile (Path.join directory name) content = .ok larger) :
    tree.Within larger ∧ larger.HasFile directory name := by
  obtain ⟨sound, isPart⟩ := isPart_of_writeFile simple success
  obtain ⟨place, leads, ⟨entries, there⟩, free, short, rfl⟩ :=
    exists_of_writeFile simple success
  have within := within_put_file there free content
  have isAt : tree.IsDirectoryAt directory place :=
    ⟨locate_eq_ok_iff.mpr ⟨flaw?_of_join sound filled simple, leads⟩, entries, there⟩
  exact ⟨within, sound, isPart, short, place, content, isAt.mono within,
    Entry.at?_put_self _ _ _⟩

/-- What a step by a name leads to is in the directory. -/
theorem eq_concat_of_step (isPart : IsPart name) {next : Place}
    (stepped : tree.step place name = .ok next) :
    next = place ++ [name] ∧ name.utf8ByteSize ≤ nameLimit := by
  obtain ⟨entries, there⟩ := directory_of_step stepped
  rw [step, there] at stepped
  simp only [isPart.filled, isPart.single, isPart.double, or_self, if_false] at stepped
  split_ifs at stepped with long
  cases found : Keyed.get? name entries with
  | none => simp [found] at stepped
  | some inner =>
      rw [found] at stepped
      cases stepped
      exact ⟨rfl, Nat.le_of_not_lt long⟩

/-- A directory that a larger tree has can be made. -/
theorem exists_makeDirectories (within : tree.Within larger)
    (isAt : tree.IsDirectoryAt path place) (isPart : IsPart name) {inner : Place}
    (there : larger.IsDirectoryAt (Path.join path name) inner) :
    ∃ made, tree.makeDirectories (Path.join path name) = (.ok (), made) ∧
      made.Within larger ∧ tree.Within made ∧ made.IsDirectoryAt (Path.join path name) inner := by
  have sound := there.flaw?
  have leads := there.place?
  rw [place?_join isPart.simple, (isAt.mono within).place?] at leads
  obtain ⟨rfl, short⟩ := eq_concat_of_step isPart leads
  obtain ⟨-, entries, directory⟩ := there
  have named : IsName name :=
    ⟨isPart.filled, isPart.single, isPart.double, isPart.simple, short⟩
  have attempt := makeDirectory_join tree sound isPart
  rw [isAt.step_empty] at attempt
  change _ = (if _ then _ else _) at attempt
  rw [if_neg (Nat.not_lt.mpr short)] at attempt
  have here : ∀ {tree : Tree}, tree.IsDirectoryAt path place →
      (∃ entries, tree.root.at? (place ++ [name]) = some (.directory entries)) →
        tree.IsDirectoryAt (Path.join path name) (place ++ [name]) := by
    rintro tree isAt ⟨entries, there⟩
    refine ⟨locate_eq_ok_iff.mpr ⟨sound, ?_⟩, entries, there⟩
    rw [place?_join isPart.simple, isAt.place?]
    exact step_of_isName named there
  rw [makeDirectories_join isAt isPart, makeOnce]
  cases known : tree.root.at? (place ++ [name]) with
  | none =>
      rw [known] at attempt
      have grown := within_makeDirectory attempt
      rw [attempt]
      refine ⟨_, rfl, within.of_put (fun _ _ => Entry.at?_empty) directory rfl, grown, ?_⟩
      exact here (isAt.mono grown) ⟨[], Entry.at?_put_self _ _ _⟩
  | some entry =>
      rw [known] at attempt
      obtain ⟨later, found, same⟩ := within.kept _ _ known
      rw [directory, Option.some.injEq] at found
      subst found
      obtain ⟨others, rfl⟩ := Entry.exists_directory same.symm
      have isAtToo := here isAt ⟨others, known⟩
      rw [attempt]
      exact ⟨tree, if_pos (isDirectory_iff.mpr ⟨_, isAtToo⟩), within, .refl tree, isAtToo⟩

/-- A file that a larger tree has can be written. -/
theorem exists_writeFile (within : tree.Within larger) {directory : String}
    (has : larger.HasFile directory name) (isAt : tree.IsDirectoryAt directory place)
    (content : List UInt8) :
    ∃ written, tree.writeFile (Path.join directory name) content = .ok written ∧
      written.Within larger ∧ tree.Within written := by
  obtain ⟨other, old, isAtLarger, file⟩ := has.there
  obtain rfl : place = other := by
    have same := (isAt.mono within).place?
    rw [isAtLarger.place?] at same
    exact (Except.ok.inj same).symm
  have attempt := writeFile_join tree content has.sound has.isPart
  rw [isAt.step_empty] at attempt
  change _ = (if _ then _ else _) at attempt
  rw [if_neg (Nat.not_lt.mpr has.short)] at attempt
  have isFile : ∀ entry, tree.root.at? (place ++ [name]) = some entry →
      entry.isDirectory = false := by
    intro entry known
    obtain ⟨later, found, same⟩ := within.kept _ _ known
    rw [file, Option.some.injEq] at found
    subst found
    exact same.symm
  have written : tree.writeFile (Path.join directory name) content =
      .ok { tree with root := tree.root.put (.file content) (place ++ [name]) } := by
    rw [attempt]
    split
    · next entries known => cases isFile _ known
    · rfl
  obtain ⟨-, entries, there⟩ := isAt
  refine ⟨_, written, within.of_put ?_ file rfl, .put there ?_⟩
  · intro rest found inside
    cases rest with
    | nil => exact ⟨rfl, (Option.some.inj inside).symm⟩
    | cons first others => cases inside
  · intro old known
    exact ⟨isFile old (Entry.at?_concat_eq_some_iff.mpr ⟨entries, there, known⟩), rfl⟩

end Tree

end Files

namespace Project

open Artifact (Document)
open Files (IsPart Tree)
open Files.Path (join)

/-- A document lies in a directory, or in a directory inside it. -/
structure LiesIn (destination home : String) (document : Document) : Prop where
  simple : '/' ∉ document.fileName.toList
  directory : document.directory destination = home ∨
    ∃ segment, IsPart segment ∧ document.directory destination = join home segment

section

variable {tree larger : Tree} {destination path name : String} {document : Document}
  {documents others : List Document}

theorem LiesIn.directory_ne_empty (isPart : IsPart name)
    (lies : LiesIn destination (join path name) document) :
    document.directory destination ≠ "" := by
  rcases lies.directory with same | ⟨segment, isPartToo, same⟩
  · rw [same]
    exact Tree.join_ne_empty isPart
  · rw [same]
    exact Tree.join_ne_empty isPartToo

theorem writeDocuments_cons_of_ok
    (written : writeDocument tree destination document = (.ok (), larger)) :
    writeDocuments tree destination (document :: documents) =
      writeDocuments larger destination documents := by
  refine (writeDocuments.eq_def _ _ _).trans ?_
  dsimp only
  rw [written]

theorem writeDocuments_cons_of_error {failure : Files.FileError}
    (failed : writeDocument tree destination document = (.error failure, larger)) :
    writeDocuments tree destination (document :: documents) = (.error failure, larger) := by
  refine (writeDocuments.eq_def _ _ _).trans ?_
  dsimp only
  rw [failed]

/-- A document that is written is there, and the tree has grown. -/
theorem hasFile_of_writeDocument (isPart : IsPart name)
    (lies : LiesIn destination (join path name) document)
    (success : writeDocument tree destination document = (.ok (), larger)) :
    tree.Within larger ∧
      larger.HasFile (document.directory destination) document.fileName ∧
        ∃ middle, tree.makeDirectories (document.directory destination) = (.ok (), middle) := by
  unfold writeDocument at success
  rcases made : tree.makeDirectories (document.directory destination) with ⟨_ | _, middle⟩
  · rw [made] at success
    cases success
  · rw [made] at success
    dsimp only at success
    have grown := Tree.within_makeLineage tree (Tree.lineage (document.directory destination)
      ((document.directory destination).length + 1))
    rw [← Tree.makeDirectories, made] at grown
    cases written : middle.writeFile (document.path destination)
        (Text.bytes document.content) with
    | error failure =>
        rw [written] at success
        cases success
    | ok other =>
        rw [written] at success
        cases success
        obtain ⟨within, has⟩ :=
          Tree.hasFile_of_writeFile (lies.directory_ne_empty isPart) lies.simple written
        exact ⟨grown.trans within, has, middle, rfl⟩

/-- Documents that are written are there. -/
theorem hasFile_of_writeDocuments (isPart : IsPart name)
    (lie : ∀ document ∈ documents, LiesIn destination (join path name) document)
    (success : writeDocuments tree destination documents = (.ok (), larger)) :
    tree.Within larger ∧ ∀ document ∈ documents,
      larger.HasFile (document.directory destination) document.fileName := by
  induction documents generalizing tree with
  | nil =>
      cases success
      exact ⟨.refl _, nofun⟩
  | cons document rest ih =>
      rw [List.forall_mem_cons] at lie
      rcases first : writeDocument tree destination document with ⟨_ | _, middle⟩
      · rw [writeDocuments_cons_of_error first] at success
        cases success
      · rw [writeDocuments_cons_of_ok first] at success
        obtain ⟨grown, has, -⟩ := hasFile_of_writeDocument isPart lie.1 first
        obtain ⟨within, all⟩ := ih lie.2 success
        rw [List.forall_mem_cons]
        exact ⟨grown.trans within, has.mono within, all⟩

/-- A document that a larger tree has can be written when its home is there. -/
theorem exists_writeDocument (isPart : IsPart name)
    (lies : LiesIn destination (join path name) document) (within : tree.Within larger)
    {place : Files.Place} (home : tree.IsDirectoryAt (join path name) place)
    (has : larger.HasFile (document.directory destination) document.fileName) :
    ∃ written, writeDocument tree destination document = (.ok (), written) ∧
      written.Within larger ∧ tree.Within written := by
  have made : ∃ middle inner,
      tree.makeDirectories (document.directory destination) = (.ok (), middle) ∧
        middle.Within larger ∧ tree.Within middle ∧
        middle.IsDirectoryAt (document.directory destination) inner := by
    rcases lies.directory with same | ⟨segment, isPartToo, same⟩
    · rw [same]
      exact ⟨tree, place, Tree.makeDirectories_of_isDirectoryAt isPart home, within, .refl tree,
        home⟩
    · obtain ⟨inner, content, isAt, -⟩ := has.there
      rw [same] at isAt ⊢
      obtain ⟨middle, success, inside, grown, isAtToo⟩ :=
        Tree.exists_makeDirectories within home isPartToo isAt
      exact ⟨middle, inner, success, inside, grown, isAtToo⟩
  obtain ⟨middle, inner, made, inside, grown, isAt⟩ := made
  obtain ⟨written, success, insideToo, grownToo⟩ :=
    Tree.exists_writeFile inside has isAt (Text.bytes document.content)
  refine ⟨written, ?_, insideToo, grown.trans grownToo⟩
  rw [writeDocument, made]
  dsimp only
  rw [Document.path, success]

/-- Documents that a larger tree has can be written when their home is there. -/
theorem exists_writeDocuments (isPart : IsPart name)
    (lie : ∀ document ∈ documents, LiesIn destination (join path name) document)
    (within : tree.Within larger) {place : Files.Place}
    (home : tree.IsDirectoryAt (join path name) place)
    (all : ∀ document ∈ documents,
      larger.HasFile (document.directory destination) document.fileName) :
    ∃ written, writeDocuments tree destination documents = (.ok (), written) := by
  induction documents generalizing tree with
  | nil => exact ⟨tree, rfl⟩
  | cons document rest ih =>
      rw [List.forall_mem_cons] at lie all
      obtain ⟨middle, success, inside, grown⟩ :=
        exists_writeDocument isPart lie.1 within home all.1
      rw [writeDocuments_cons_of_ok success]
      exact ih lie.2 inside (home.mono grown) all.2

/-- The home of documents is made first, whichever of them is the first one. -/
theorem writeDocuments_after (isPart : IsPart name)
    (lie : ∀ document ∈ documents, LiesIn destination (join path name) document)
    (some_ : documents ≠ []) {middle : Tree}
    (sound : ∀ document ∈ documents,
      Tree.flaw? (document.directory destination) = none)
    (home : tree.makeDirectories (join path name) = (.ok (), middle)) :
    writeDocuments tree destination documents =
      writeDocuments middle destination documents := by
  obtain ⟨document, rest, rfl⟩ := List.exists_cons_of_ne_nil some_
  rw [List.forall_mem_cons] at lie sound
  have same : tree.makeDirectories (document.directory destination) =
      middle.makeDirectories (document.directory destination) := by
    rcases lie.1.directory with here | ⟨segment, isPartToo, inside⟩
    · obtain ⟨⟨place, isAt⟩, -⟩ := Tree.isDirectoryAt_of_makeDirectories isPart home
      rw [here, home, Tree.makeDirectories_of_isDirectoryAt isPart isAt]
    · have clean := sound.1
      rw [inside] at clean ⊢
      exact Tree.makeDirectories_after isPart isPartToo clean home
  have first : writeDocument tree destination document =
      writeDocument middle destination document := by
    rw [writeDocument, writeDocument, same]
  rcases outcome : writeDocument middle destination document with ⟨_ | _, later⟩
  · rw [writeDocuments_cons_of_error outcome, writeDocuments_cons_of_error (first.trans outcome)]
  · rw [writeDocuments_cons_of_ok outcome, writeDocuments_cons_of_ok (first.trans outcome)]

/-- The home of documents that can be written can be made. -/
theorem exists_home_of_writeDocuments (isPart : IsPart name)
    (lie : ∀ document ∈ documents, LiesIn destination (join path name) document)
    (some_ : documents ≠ [])
    (success : writeDocuments tree destination documents = (.ok (), larger)) :
    ∃ middle, tree.makeDirectories (join path name) = (.ok (), middle) := by
  obtain ⟨-, has⟩ := hasFile_of_writeDocuments isPart lie success
  obtain ⟨first, rest, rfl⟩ := List.exists_cons_of_ne_nil some_
  rw [List.forall_mem_cons] at lie has
  rcases written : writeDocument tree destination first with ⟨_ | _, later⟩
  · rw [writeDocuments_cons_of_error written] at success
    cases success
  · obtain ⟨-, -, middle, made⟩ := hasFile_of_writeDocument isPart lie.1 written
    rcases lie.1.directory with here | ⟨segment, isPartToo, inside⟩
    · rw [here] at made
      exact ⟨middle, made⟩
    · have clean := has.1.flaw?
      rw [inside] at made clean
      exact Tree.exists_makeDirectories_outer isPart isPartToo clean made

/-- Documents with one place lie in the same directory. -/
theorem LiesIn.of_place {home : String} {other : Document}
    (lies : LiesIn destination home document) (space : document.space = other.space)
    (fileName : document.fileName = other.fileName) : LiesIn destination home other where
  simple := fileName ▸ lies.simple
  directory := by
    have same := lies.directory
    rwa [Document.directory, space] at same

/-- Documents that have the places of documents that can be written can be written. -/
theorem writeDocuments_of_places (isPart : IsPart name)
    (lie : ∀ document ∈ documents, LiesIn destination (join path name) document)
    (among : ∀ other ∈ others, ∃ document ∈ documents,
      document.space = other.space ∧ document.fileName = other.fileName)
    (success : (writeDocuments tree destination documents).1 = .ok ()) :
    (writeDocuments tree destination others).1 = .ok () := by
  rcases outcome : writeDocuments tree destination documents with ⟨_ | _, larger⟩
  · rw [outcome] at success
    cases success
  by_cases none_ : others = []
  · subst none_
    rfl
  have some_ : documents ≠ [] := by
    rintro rfl
    obtain ⟨other, rest, rfl⟩ := List.exists_cons_of_ne_nil none_
    obtain ⟨document, member, -⟩ := among other List.mem_cons_self
    cases member
  obtain ⟨middle, made⟩ := exists_home_of_writeDocuments isPart lie some_ outcome
  obtain ⟨⟨place, isAt⟩, -⟩ := Tree.isDirectoryAt_of_makeDirectories isPart made
  obtain ⟨-, has⟩ := hasFile_of_writeDocuments isPart lie outcome
  -- The other documents are written after the home, too, into a part of what is written here.
  rw [writeDocuments_after isPart lie some_ (fun document member => (has document member).flaw?)
    made] at outcome
  obtain ⟨within, -⟩ := hasFile_of_writeDocuments isPart lie outcome
  have lieToo : ∀ other ∈ others, LiesIn destination (join path name) other := by
    intro other member
    obtain ⟨document, inDocuments, space, fileName⟩ := among other member
    exact (lie document inDocuments).of_place space fileName
  have placed : ∀ other ∈ others,
      larger.HasFile (other.directory destination) other.fileName := by
    intro other member
    obtain ⟨document, inDocuments, space, fileName⟩ := among other member
    have there := has document inDocuments
    rwa [Document.directory, space, fileName] at there
  rw [writeDocuments_after isPart lieToo none_ (fun other member => (placed other member).flaw?)
    made]
  obtain ⟨written, success⟩ := exists_writeDocuments isPart lieToo within isAt placed
  rw [success]

end

end Project

end FlatMessage
