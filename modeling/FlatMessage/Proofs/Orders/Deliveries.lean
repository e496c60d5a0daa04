import FlatMessage.Proofs.Distinct.Artifacts
import FlatMessage.Proofs.Orders.Reports
import FlatMessage.Proofs.Writing.Documents

/-!
# Deliveries in another order

The documents of a production lie in the directory of its namespace and in directories
inside it.  So when the documents of one production can be written, those of another one
that lists the same entries can be written too.
-/

namespace FlatMessage

namespace Naming

open Files (IsPart)
open Files.Path (join)

theorem isIdentifier_of_namespaceSegment {name segment : String}
    (named : namespaceSegment name = .ok segment) : IsIdentifier segment := by
  unfold namespaceSegment check at named
  cases objected : objection? (snakeCase name) with
  | some objection => simp [objected] at named
  | none =>
      obtain rfl : snakeCase name = segment := by simpa [objected] using named
      exact objected

/-- A directory with one more part lies in the directory. -/
theorem join_join {parts : List String} {directory name : String}
    (made : IsDirectory parts directory) (legal : IsIdentifier name) (destination : String) :
    join destination (join directory name) = join (join destination directory) name := by
  have one := isAbsolute_of_not_mem legal.not_mem_slash
  have both := made.join legal
  have whole : (join destination directory).toList = lead destination ++ directory.toList :=
    toList_join made.relative
  have filled : (join destination directory).toList ≠ [] := by
    simp [whole, made.filled]
  have closed : (join destination directory).toList.getLast? ≠ some '/' := by
    rw [whole, List.getLast?_append_of_ne_nil _ made.filled]
    exact made.closed
  apply String.toList_inj.mp
  rw [toList_join both.relative, toList_join one, toList_join one,
    lead_of_slash_free made.filled made.closed, lead_of_slash_free filled closed, whole]
  simp

/-- The directory of a namespace inside another one lies in the directory of the other. -/
theorem join_directory_inside {space segment : String} (valid : checkNamespace space = .ok ())
    (legal : IsIdentifier segment) (destination : String) :
    join destination (directory (Project.inside space segment)) =
      join (join destination (directory space)) segment := by
  have deeper : directory (Project.inside space segment) = join (directory space) segment := by
    rw [directory, segments_inside legal, List.foldl_append]
    rfl
  rw [deeper]
  exact join_join (isDirectory_directory valid) legal destination

/-- The directory of a namespace has a last part. -/
theorem exists_join_directory {space : String} (valid : checkNamespace space = .ok ())
    (destination : String) :
    ∃ path name, IsPart name ∧ join destination (directory space) = join path name := by
  have legal := checkNamespace_eq_ok_iff.mp valid
  rw [directory]
  rcases List.eq_nil_or_concat (segments space) with none_ | ⟨before, last, names⟩
  · exact absurd none_ (segments_ne_nil space)
  · rw [List.concat_eq_append] at names
    rw [names, List.forall_mem_append, List.forall_mem_singleton] at legal
    have isPart := Files.isPart_of_isIdentifier legal.2
    rw [names, List.foldl_append]
    by_cases first : before = []
    · subst first
      exact ⟨destination, last, isPart, congrArg (join destination) (Files.Path.join_empty last)⟩
    · exact ⟨_, last, isPart, join_join (isDirectory_foldl first legal.1) legal.2 destination⟩

end Naming

namespace Artifact

/-- Rearranged documents have the same place. -/
theorem Document.Rearranged.place {document other : Document}
    (rearranged : document.Rearranged other) :
    document.space = other.space ∧ document.fileName = other.fileName := by
  cases rearranged with
  | codec same => exact ⟨eq_of_withoutSource same (·.space) fun _ => rfl, rfl⟩
  | _ => exact ⟨rfl, rfl⟩

/-- The same documents have the same places. -/
theorem SameDocuments.places {documents others : List Document}
    (same : SameDocuments documents others) :
    ∀ other ∈ others, ∃ document ∈ documents,
      document.space = other.space ∧ document.fileName = other.fileName := by
  obtain ⟨matched, all, perm⟩ := same
  intro other member
  rw [← perm.mem_iff] at member
  clear perm
  induction all with
  | nil => cases member
  | cons head _ ih =>
      rcases List.mem_cons.mp member with rfl | later
      · exact ⟨_, List.mem_cons_self, head.place⟩
      · obtain ⟨document, inDocuments, place⟩ := ih later
        exact ⟨document, List.mem_cons_of_mem _ inDocuments, place⟩

/-- Types and binding trees are not rearranged. -/
theorem Document.Rearranged.eq_of_fileName {document other : Document}
    (rearranged : document.Rearranged other)
    (plain : document.fileName = "types.json" ∨ document.fileName = "binding-config.json") :
    document = other := by
  have others : ∀ name ∈ ["codec-config.json", "classes.lst", "message-bindings.json",
      "interchange-bindings.json"], ¬(name = "types.json" ∨ name = "binding-config.json") := by
    decide
  cases rearranged with
  | same => rfl
  | codec same => exact absurd plain (others "codec-config.json" (by simp))
  | classes space perm => exact absurd plain (others "classes.lst" (by simp))
  | messages space perm => exact absurd plain (others "message-bindings.json" (by simp))
  | interchange space flavour version perm =>
      exact absurd plain (others "interchange-bindings.json" (by simp))
  | factory space flavour perm =>
      obtain ⟨capitals, name⟩ : ∃ capitals : String,
          Interchange.factoryName space = capitals ++ "InterchangeFactory" := ⟨_, rfl⟩
      have ending : Interchange.factoryName space ++ ".json" =
          capitals ++ "InterchangeFactory.json" := by
        rw [name, String.append_assoc]
        rfl
      rcases plain with types | binding
      · exact absurd (types.symm.trans ending) (Text.ne_append _ _ _ (by decide))
      · exact absurd (binding.symm.trans ending) (Text.ne_append _ _ _ (by decide))

theorem SameDocuments.mem_iff {documents others : List Document}
    (same : SameDocuments documents others) {document : Document}
    (plain : document.fileName = "types.json" ∨ document.fileName = "binding-config.json") :
    document ∈ documents ↔ document ∈ others := by
  obtain ⟨matched, all, perm⟩ := same
  rw [← perm.mem_iff]
  clear perm
  induction all with
  | nil => exact Iff.rfl
  | cons head _ ih =>
      rw [List.mem_cons, List.mem_cons, ih]
      refine or_congr_left ⟨?_, ?_⟩
      · rintro rfl
        exact head.eq_of_fileName plain
      · rintro rfl
        refine (head.eq_of_fileName ?_).symm
        rwa [head.place.2]

end Artifact

namespace Project

open Artifact (Document SameDocuments)
open Files (Tree)
open Files.Path (join)
open Naming (checkNamespace)
open Schema (ModelSet)

variable {tree : Tree} {settings : Settings} {set other : ModelSet} {report report' : Report}

/-- A legal segment is decided by the name of a message or reserved. -/
theorem isIdentifier_of_segmentsOf {segments : List String}
    (found : segmentsOf settings set = some segments) :
    ∀ segment ∈ segments, Naming.IsIdentifier segment := by
  obtain ⟨names, all, rfl⟩ := Option.map_eq_some_iff.mp found
  rw [List.forall_mem_append]
  constructor
  · intro segment member
    split at member
    · obtain rfl := List.mem_singleton.mp member
      rfl
    · cases member
  · intro segment member
    obtain ⟨model, -, named⟩ := (mem_iff_of_mapM_eq_some all).mp member
    cases outcome : Naming.namespaceSegment model.description.name with
    | error illegal => simp [outcome, Except.toOption] at named
    | ok other =>
        obtain rfl : other = segment := by simpa [outcome, Except.toOption] using named
        exact Naming.isIdentifier_of_namespaceSegment outcome

/-- The documents of a production lie in the directory of its namespace or in a directory
inside it. -/
theorem liesIn_of_produce (valid : checkNamespace settings.space = .ok ())
    (success : (produce settings set).outcome = .ok report) :
    ∀ document ∈ (produce settings set).documents,
      LiesIn settings.destination
        (join settings.destination (Naming.directory settings.space)) document := by
  obtain ⟨progress, segments, steady, -, found, spaces, own, documents, named⟩ :=
    steady_of_produce valid success
  rw [documents, steady.documents, List.forall_mem_append]
  constructor
  · intro document member
    obtain ⟨model, inModels, inModel⟩ := List.mem_flatMap.mp member
    have ownModel := (steady.models model inModels).areNamed
    have inSpaces := List.mem_map_of_mem (f := Compiler.CompiledModel.space) inModels
    rw [spaces] at inSpaces
    obtain ⟨segment, inSegments, space⟩ := List.mem_map.mp inSpaces
    have legal := isIdentifier_of_segmentsOf found segment inSegments
    refine ⟨ownModel.simple document inModel, .inr ⟨segment,
      Files.isPart_of_isIdentifier legal, ?_⟩⟩
    rw [Document.directory, ownModel.placed document inModel, ← space]
    exact Naming.join_directory_inside valid legal settings.destination
  · intro document member
    refine ⟨named.simple document member, .inl ?_⟩
    rw [Document.directory, named.placed document member]

/-- Documents are delivered when they are made and can be written. -/
theorem deliver_eq_ok_iff {destination : String} {production : Production} :
    (deliver tree destination production).1 = .ok report ↔
      (writeDocuments tree destination production.documents).1 = .ok () ∧
        production.outcome = .ok report := by
  unfold deliver
  rcases writeDocuments tree destination production.documents with ⟨_ | _, later⟩
  · simp
  · simp

/-- The documents of another production with the same entries can be written as well. -/
theorem deliver_of_sameDocuments (valid : checkNamespace settings.space = .ok ())
    (same : SameDocuments (produce settings set).documents (produce settings other).documents)
    (delivered : (deliver tree settings.destination (produce settings set)).1 = .ok report)
    (success : (produce settings other).outcome = .ok report') :
    (deliver tree settings.destination (produce settings other)).1 = .ok report' := by
  obtain ⟨written, produced⟩ := deliver_eq_ok_iff.mp delivered
  obtain ⟨path, name, isPart, home⟩ :=
    Naming.exists_join_directory valid settings.destination
  have lie := liesIn_of_produce valid produced
  rw [home] at lie
  exact deliver_eq_ok_iff.mpr ⟨writeDocuments_of_places isPart lie same.places written, success⟩

end Project

end FlatMessage
