import FlatMessage.Project.Production
import FlatMessage.Proofs.Names

/-!
# Paths of documents

A document lies in the directory of its namespace, which has one part for each segment.
The segments are identifiers, so neither they nor the name of the document hold a slash,
and documents have the same path only when their namespaces and their names agree.

The segments of a namespace hold no dots either, so the qualified name of a type shows
its namespace and its name.
-/

namespace FlatMessage

namespace Text

/-- The pieces of a text give the text back. -/
theorem intercalate_splitChars (mark : Char) (chars : List Char) :
    [mark].intercalate (splitChars (· == mark) chars) = chars := by
  induction chars with
  | nil => rfl
  | cons c rest ih =>
      rw [splitChars]
      cases pieces : splitChars (· == mark) rest with
      | nil => exact absurd pieces (splitChars_ne_nil _ rest)
      | cons piece others =>
          rw [pieces] at ih
          by_cases here : c = mark
          · subst here
            simpa [List.intercalate] using ih
          · have other : (c == mark) = false := by simpa using here
            rw [other]
            cases others <;> simpa [List.intercalate] using ih

/-- Texts with the same pieces are the same. -/
theorem splitChars_inj {mark : Char} {chars other : List Char}
    (same : splitChars (· == mark) chars = splitChars (· == mark) other) : chars = other := by
  rw [← intercalate_splitChars mark chars, same, intercalate_splitChars]

/-- What stands before and after the last mark is found in the text. -/
theorem append_mark_inj {mark : Char} {before after before' after' : List Char}
    (last : mark ∉ after) (last' : mark ∉ after')
    (same : before ++ mark :: after = before' ++ mark :: after') :
    before = before' ∧ after = after' := by
  have alone : ∀ {chars : List Char}, mark ∉ chars →
      splitChars (· == mark) chars = [chars] := by
    intro chars absent
    apply splitChars_of_forall_not
    intro c member
    rw [beq_eq_false_iff_ne]
    rintro rfl
    exact absent member
  have pieces := congrArg (splitChars (· == mark)) same
  rw [splitChars_append (by simp), splitChars_append (by simp), alone last, alone last']
    at pieces
  obtain ⟨first, second⟩ := List.append_inj' pieces rfl
  exact ⟨splitChars_inj first, List.singleton_inj.mp second⟩

end Text

namespace Naming

/-! ## Namespaces -/

/-- A namespace is valid when its segments are identifiers. -/
theorem checkNamespace_eq_ok_iff {space : String} :
    checkNamespace space = .ok () ↔ ∀ segment ∈ segments space, IsIdentifier segment := by
  have checks : ∀ names : List String,
      (names.forM fun segment => (check space segment).map fun _ => ()) = .ok () ↔
        ∀ segment ∈ names, IsIdentifier segment := by
    intro names
    induction names with
    | nil => simp [pure, Except.pure]
    | cons name rest ih =>
        rw [List.forall_mem_cons, ← ih]
        change (((check space name).map fun _ => ()) >>= fun _ => rest.forM _) = _ ↔ _
        unfold check IsIdentifier
        cases objection? name <;> simp [Except.map, bind, Except.bind]
  exact checks (segments space)

theorem segments_ne_nil (space : String) : segments space ≠ [] := by
  simpa [segments, Text.split] using Text.splitChars_ne_nil _ _

/-- A namespace inside another one has one segment more. -/
theorem segments_inside {space segment : String} (legal : IsIdentifier segment) :
    segments (Project.inside space segment) = segments space ++ [segment] := by
  have whole : (Project.inside space segment).toList =
      space.toList ++ '.' :: segment.toList := by
    simp [Project.inside]
  have alone : Text.splitChars (· == '.') segment.toList = [segment.toList] := by
    apply Text.splitChars_of_forall_not
    intro c member
    rw [beq_eq_false_iff_ne]
    rintro rfl
    exact legal.not_mem_dot member
  rw [segments, Text.split, whole, Text.splitChars_append (by decide), alone, List.map_append]
  simp [segments, Text.split]

theorem inside_inj {space segment other : String} :
    Project.inside space segment = Project.inside space other ↔ segment = other := by
  simp [Project.inside]

theorem inside_ne {space segment : String} : Project.inside space segment ≠ space := by
  intro same
  have lengths := congrArg (·.toList.length) same
  simp [Project.inside] at lengths

theorem space_eq_of_segments {space other : String} (same : segments space = segments other) :
    space = other := by
  rw [segments, segments, Text.split, Text.split] at same
  have pieces := (List.map_inj_right fun _ _ => String.ofList_inj.mp).mp same
  exact String.toList_inj.mp (Text.splitChars_inj pieces)

/-! ## Directories -/

/-- What comes before a relative reference when it is followed from a path. -/
def lead (path : String) : List Char :=
  if path.isEmpty then []
  else if path.toList.getLast? = some '/' then path.toList
  else path.toList ++ ['/']

/-- A relative reference is put after what comes before it. -/
theorem toList_join {path reference : String}
    (relative : Files.Path.isAbsolute reference = false) :
    (Files.Path.join path reference).toList = lead path ++ reference.toList := by
  rw [Files.Path.join, relative, Bool.false_or, lead]
  split
  · simp
  · split
    · simp
    · simp

theorem lead_of_slash_free {path : String} (filled : path.toList ≠ [])
    (last : path.toList.getLast? ≠ some '/') : lead path = path.toList ++ ['/'] := by
  have some_ : path.isEmpty = false := by simpa using filled
  rw [lead, some_, if_neg last]
  rfl

theorem isAbsolute_of_not_mem {path : String} (simple : '/' ∉ path.toList) :
    Files.Path.isAbsolute path = false := by
  rw [Files.Path.isAbsolute]
  cases shape : path.toList with
  | nil => rfl
  | cons c rest =>
      rw [shape, List.mem_cons, not_or] at simple
      simpa [eq_comm] using simple.1

/-- A directory is made of parts that can be told apart. -/
structure IsDirectory (parts : List String) (directory : String) : Prop where
  pieces : Text.splitChars (· == '/') directory.toList = parts.map String.toList
  relative : Files.Path.isAbsolute directory = false
  filled : directory.toList ≠ []
  closed : directory.toList.getLast? ≠ some '/'

theorem isDirectory_singleton {name : String} (legal : IsIdentifier name) :
    IsDirectory [name] name where
  pieces := by
    rw [List.map_singleton]
    apply Text.splitChars_of_forall_not
    intro c member
    rw [beq_eq_false_iff_ne]
    rintro rfl
    exact legal.not_mem_slash member
  relative := isAbsolute_of_not_mem legal.not_mem_slash
  filled := legal.toList_ne_nil
  closed := fun last => legal.not_mem_slash (List.mem_of_getLast? last)

/-- One more part is put behind a slash. -/
theorem IsDirectory.join {parts : List String} {directory name : String}
    (made : IsDirectory parts directory) (legal : IsIdentifier name) :
    IsDirectory (parts ++ [name]) (Files.Path.join directory name) := by
  have one := isDirectory_singleton legal
  have whole : (Files.Path.join directory name).toList =
      directory.toList ++ '/' :: name.toList := by
    rw [toList_join one.relative, lead_of_slash_free made.filled made.closed,
      List.append_assoc]
    rfl
  refine ⟨?_, ?_, ?_, ?_⟩
  · rw [whole, Text.splitChars_append (by decide), made.pieces, one.pieces, List.map_append]
  · have relative := made.relative
    obtain ⟨c, rest, shape⟩ := List.exists_cons_of_ne_nil made.filled
    rw [Files.Path.isAbsolute, shape] at relative
    rw [Files.Path.isAbsolute, whole, shape]
    exact relative
  · simp [whole]
  · rw [whole, List.getLast?_append_of_ne_nil _ (List.cons_ne_nil _ _),
      List.getLast?_cons_of_ne_nil one.filled]
    exact one.closed

/-- Identifiers are the parts of the directory that they are joined to. -/
theorem isDirectory_foldl {names : List String} (filled : names ≠ [])
    (legal : ∀ name ∈ names, IsIdentifier name) :
    IsDirectory names (names.foldl Files.Path.join "") := by
  induction names using List.reverseRecOn with
  | nil => exact absurd rfl filled
  | append_singleton names last ih =>
      rw [List.forall_mem_append, List.forall_mem_singleton] at legal
      rw [List.foldl_append]
      by_cases first : names = []
      · subst first
        change IsDirectory [last] (Files.Path.join "" last)
        rw [Files.Path.join_empty]
        exact isDirectory_singleton legal.2
      · exact (ih first legal.1).join legal.2

/-- A valid namespace has its segments for the parts of its directory. -/
theorem isDirectory_directory {space : String} (valid : checkNamespace space = .ok ()) :
    IsDirectory (segments space) (directory space) :=
  isDirectory_foldl (segments_ne_nil space) (checkNamespace_eq_ok_iff.mp valid)

end Naming

/-! ## Documents -/

namespace Artifact.Document

open Naming (checkNamespace lead isDirectory_directory)

/-- The path of a document in a valid namespace. -/
theorem toList_path {document : Document} (valid : checkNamespace document.space = .ok ())
    (simple : '/' ∉ document.fileName.toList) (destination : String) :
    (document.path destination).toList =
      lead destination ++
        ((Naming.directory document.space).toList ++ '/' :: document.fileName.toList) := by
  have made := isDirectory_directory valid
  have directory : (document.directory destination).toList =
      lead destination ++ (Naming.directory document.space).toList :=
    Naming.toList_join made.relative
  have filled : (document.directory destination).toList ≠ [] := by
    simp [directory, made.filled]
  have closed : (document.directory destination).toList.getLast? ≠ some '/' := by
    rw [directory, List.getLast?_append_of_ne_nil _ made.filled]
    exact made.closed
  rw [path, Naming.toList_join (Naming.isAbsolute_of_not_mem simple),
    Naming.lead_of_slash_free filled closed, directory]
  simp

/-- Documents with the same path have the same namespace and the same name. -/
theorem path_inj {document other : Document}
    (valid : checkNamespace document.space = .ok ())
    (validOther : checkNamespace other.space = .ok ())
    (simple : '/' ∉ document.fileName.toList) (simpleOther : '/' ∉ other.fileName.toList)
    {destination : String} :
    document.path destination = other.path destination ↔
      document.space = other.space ∧ document.fileName = other.fileName := by
  constructor
  · intro same
    have chars := congrArg String.toList same
    rw [toList_path valid simple, toList_path validOther simpleOther,
      List.append_cancel_left_eq] at chars
    obtain ⟨directory, name⟩ := Text.append_mark_inj simple simpleOther chars
    refine ⟨?_, String.toList_inj.mp name⟩
    have pieces := (isDirectory_directory valid).pieces
    rw [directory, (isDirectory_directory validOther).pieces] at pieces
    exact Naming.space_eq_of_segments
      ((List.map_inj_right fun _ _ => String.toList_inj.mp).mp pieces).symm
  · rintro ⟨space, name⟩
    rw [path, path, directory, directory, space, name]

end Artifact.Document

/-- The qualified name of a type shows its namespace and its name. -/
theorem Codec.CompiledType.qualifiedName_inj {type other : Codec.CompiledType}
    (simple : '.' ∉ type.name.toList) (simpleOther : '.' ∉ other.name.toList) :
    type.qualifiedName = other.qualifiedName ↔
      type.space = other.space ∧ type.name = other.name := by
  have whole : ∀ type : Codec.CompiledType,
      type.qualifiedName.toList = type.space.toList ++ '.' :: type.name.toList := by
    intro type
    simp [Codec.CompiledType.qualifiedName]
  constructor
  · intro same
    have chars := congrArg String.toList same
    rw [whole, whole] at chars
    obtain ⟨space, name⟩ := Text.append_mark_inj simple simpleOther chars
    exact ⟨String.toList_inj.mp space, String.toList_inj.mp name⟩
  · rintro ⟨space, name⟩
    rw [Codec.CompiledType.qualifiedName, Codec.CompiledType.qualifiedName, space, name]

end FlatMessage
