import FlatMessage.Proofs.Distinct.Artifacts
import FlatMessage.Proofs.Writing.Documents

/-!
# Where documents lie

A document of a production is in a namespace whose segments are identifiers, and its name
is a fixed one or an identifier with a fixed ending.  This holds of every text that a
schema can name a message or a container with, and also of a production that fails.

The path of a document is the destination followed by the segments and by the name, and
none of these parts leads upwards or somewhere else.
-/

namespace FlatMessage

namespace Naming

/-! ## Identifiers in capitals -/

/-- No reserved word ends like the name of an interchange. -/
theorem reserved_not_interchange (start : String) :
    reserved.contains (start ++ "Interchange") = false := by
  have all : ∀ word ∈ reserved, ¬"Interchange".toList <:+ word.toList := by decide
  rw [Bool.eq_false_iff]
  intro among
  have member : start ++ "Interchange" ∈ reserved := by simpa using among
  exact all _ member (by simp)

/-- An identifier in capitals can be given the name of an interchange. -/
theorem isIdentifier_interchange {segment : String} (legal : IsIdentifier segment) :
    IsIdentifier
      (String.ofList (segment.toList.flatMap Text.toUppercase) ++ "Interchange") := by
  obtain ⟨⟨first, rest, shape, letter, word⟩, -⟩ := isIdentifier_iff.mp legal
  rw [List.all_eq_true] at word
  obtain ⟨capital, mapped, -, letterToo⟩ :=
    toUppercase_of_isWord (word first List.mem_cons_self)
  refine isIdentifier_iff.mpr ⟨⟨capital,
    rest.flatMap Text.toUppercase ++ "Interchange".toList, ?_, letterToo letter, ?_⟩,
    reserved_not_interchange _⟩
  · simp [shape, mapped]
  · have capitals : ∀ c ∈ (first :: rest).flatMap Text.toUppercase, isWord c = true := by
      intro c member
      obtain ⟨small, among, inUpper⟩ := List.mem_flatMap.mp member
      obtain ⟨large, single, wordToo, -⟩ := toUppercase_of_isWord (word small among)
      rw [single, List.mem_singleton] at inUpper
      rwa [inUpper]
    rw [List.flatMap_cons, mapped, List.singleton_append] at capitals
    rw [← List.cons_append, List.all_append, Bool.and_eq_true]
    exact ⟨List.all_eq_true.mpr capitals, by decide⟩

end Naming

namespace Artifact

open Compiler (CompiledModel)
open Files (IsPart)
open Files.Path (join)
open Naming (IsIdentifier checkNamespace)

/-! ## Names and namespaces -/

/-- The names that documents have whatever they are about. -/
def fixedNames : List String :=
  ["types.json", "binding-config.json", "codec-config.json", "classes.lst",
    "message-bindings.json", "interchange-bindings.json"]

/-- A name that a document can have. -/
inductive IsFileName : String → Prop
  | fixed {name : String} (among : name ∈ fixedNames) : IsFileName name
  | factory {identifier : String} (legal : IsIdentifier identifier) :
      IsFileName (identifier ++ "Factory.json")

/-- A namespace and a name that a document can have. -/
structure IsArtifact (space name : String) : Prop where
  segments : ∀ segment ∈ Naming.segments space, IsIdentifier segment
  fileName : IsFileName name

/-- The name of a document is a part of a path. -/
theorem IsFileName.isPart {name : String} (named : IsFileName name) : IsPart name := by
  cases named with
  | fixed among =>
      have all : ∀ name ∈ fixedNames,
          name ≠ "" ∧ name ≠ "." ∧ name ≠ ".." ∧ '/' ∉ name.toList := by
        decide
      obtain ⟨filled, single, double, simple⟩ := all name among
      exact ⟨filled, single, double, simple⟩
  | @factory identifier legal =>
      have whole : (identifier ++ "Factory.json").toList =
          identifier.toList ++ "Factory.json".toList := String.toList_append
      have differs : ∀ {short : String}, short.toList.length ≤ 2 →
          identifier ++ "Factory.json" ≠ short := by
        rintro short bound rfl
        rw [whole, List.length_append] at bound
        exact absurd ((Nat.le_add_left _ _).trans bound) (by decide)
      refine ⟨differs (by decide), differs (by decide), differs (by decide), ?_⟩
      rw [whole, List.mem_append, not_or]
      exact ⟨legal.not_mem_slash, by decide⟩

/-- The parts of the path of a document behind its destination. -/
def Document.parts (document : Document) : List String :=
  Naming.segments document.space ++ [document.fileName]

/-- No part of the path of a document is empty, leads upwards or is a path itself. -/
theorem IsArtifact.isPart {document : Document}
    (artifact : IsArtifact document.space document.fileName) :
    ∀ part ∈ document.parts, IsPart part := by
  rw [Document.parts, List.forall_mem_append, List.forall_mem_singleton]
  exact ⟨fun segment member => Files.isPart_of_isIdentifier (artifact.segments segment member),
    artifact.fileName.isPart⟩

/-! ## Paths -/

/-- Following a directory from a path is following its parts one by one. -/
theorem join_foldl {names : List String} (filled : names ≠ [])
    (legal : ∀ name ∈ names, IsIdentifier name) (path : String) :
    join path (names.foldl join "") = names.foldl join path := by
  induction names using List.reverseRecOn with
  | nil => exact absurd rfl filled
  | append_singleton names last ih =>
      rw [List.forall_mem_append, List.forall_mem_singleton] at legal
      rw [List.foldl_append, List.foldl_append]
      by_cases first : names = []
      · subst first
        change join path (join "" last) = join path last
        rw [Files.Path.join_empty]
      · rw [← ih first legal.1]
        have made := Naming.isDirectory_foldl first legal.1
        have one := Naming.isDirectory_singleton legal.2
        generalize names.foldl join "" = directory at made ⊢
        change join path (join directory last) = join (join path directory) last
        have inner : (join path directory).toList = Naming.lead path ++ directory.toList :=
          Naming.toList_join made.relative
        have some_ : (join path directory).toList ≠ [] := by
          simp [inner, made.filled]
        have closed : (join path directory).toList.getLast? ≠ some '/' := by
          rw [inner, List.getLast?_append_of_ne_nil _ made.filled]
          exact made.closed
        apply String.toList_inj.mp
        rw [Naming.toList_join (made.join legal.2).relative, Naming.toList_join one.relative,
          Naming.toList_join one.relative, Naming.lead_of_slash_free some_ closed, inner,
          Naming.lead_of_slash_free made.filled made.closed]
        simp only [List.append_assoc]

/-- The path of a document is its destination followed by the segments of its namespace and
by its name. -/
theorem IsArtifact.path {document : Document}
    (artifact : IsArtifact document.space document.fileName) (destination : String) :
    document.path destination = document.parts.foldl join destination := by
  rw [Document.path, Document.directory, Naming.directory,
    join_foldl (Naming.segments_ne_nil _) artifact.segments, Document.parts, List.foldl_append]
  rfl

/-! ## Documents of models and of interchanges -/

theorem isArtifact_modelDocuments {model : CompiledModel} (placed : IsPlaced model) :
    ∀ document ∈ modelDocuments model, IsArtifact document.space document.fileName := by
  have legal := Naming.checkNamespace_eq_ok_iff.mp placed.valid
  intro document member
  have among := (modelDocuments_sublist model).subset member
  simp only [List.mem_cons, List.not_mem_nil, or_false] at among
  rcases among with rfl | rfl | rfl | rfl
  · exact ⟨legal, .fixed (by decide : "types.json" ∈ fixedNames)⟩
  · exact ⟨legal, .fixed (by decide : "binding-config.json" ∈ fixedNames)⟩
  · exact ⟨legal, .fixed (by decide : "codec-config.json" ∈ fixedNames)⟩
  · exact ⟨legal, .factory placed.root⟩

/-- The factory of an interchange is named after the last segment in capitals. -/
theorem isFileName_factory {space : String} (valid : checkNamespace space = .ok ()) :
    IsFileName (Interchange.factoryName space ++ ".json") := by
  have last := Naming.checkNamespace_eq_ok_iff.mp valid _
    (List.getLast_mem (Naming.segments_ne_nil space))
  have named := IsFileName.factory (Naming.isIdentifier_interchange last)
  rw [Interchange.factoryName, List.getLast?_eq_some_getLast (Naming.segments_ne_nil space),
    Option.getD_some]
  simpa [String.append_assoc] using named

end Artifact

namespace Project

open Artifact (Document IsArtifact fixedNames)
open Naming (checkNamespace)
open Schema (Model ModelSet)

/-! ## Productions -/

variable {settings : Settings} {set : ModelSet} {progress : Progress}

/-- What is compiled stays told apart, also when a message fails. -/
theorem Progress.Steady.addMessages_run (steady : progress.Steady) (settings : Settings)
    (hasInterchange : Bool) (models : List Model) :
    (progress.addMessages settings hasInterchange models).2.Steady := by
  induction models generalizing progress with
  | nil => exact steady
  | cons model rest ih =>
      rw [Progress.addMessages]
      cases first : progress.addMessage settings hasInterchange model with
      | error error => exact steady
      | ok middle => exact ih (steady.addMessage first).1

theorem Progress.Steady.isArtifact (steady : progress.Steady) :
    ∀ document ∈ progress.documents, IsArtifact document.space document.fileName := by
  rw [steady.documents]
  intro document member
  obtain ⟨model, among, inModel⟩ := List.mem_flatMap.mp member
  exact Artifact.isArtifact_modelDocuments (steady.models model among) document inModel

/-- The documents of an interchange and the list of root types lie in the namespace of the
production. -/
theorem Progress.Steady.isArtifact_finish (steady : progress.Steady)
    (valid : checkNamespace settings.space = .ok ())
    (interchange : Option Schema.InterchangeProperties) :
    ∀ document ∈ (progress.finish settings interchange).documents,
      IsArtifact document.space document.fileName := by
  have legal := Naming.checkNamespace_eq_ok_iff.mp valid
  have listed : ∀ document ∈ progress.documents ++
      [Artifact.classList settings.space (progress.messages.map Interchange.Message.rootType)],
      IsArtifact document.space document.fileName := by
    rw [List.forall_mem_append, List.forall_mem_singleton]
    exact ⟨steady.isArtifact, legal, .fixed (by decide : "classes.lst" ∈ fixedNames)⟩
  unfold finish
  dsimp only
  cases interchange with
  | none => exact listed
  | some properties =>
      dsimp only
      split
      · exact listed
      · unfold Interchange.assemble
        cases Interchange.flavourOf properties with
        | error error => exact listed
        | ok flavour =>
            change ∀ document ∈ _ ++ _, _
            rw [List.forall_mem_append]
            refine ⟨listed, ?_⟩
            intro document member
            simp only [List.mem_cons, List.not_mem_nil, or_false] at member
            rcases member with rfl | rfl | rfl
            · exact ⟨legal, .fixed (by decide : "message-bindings.json" ∈ fixedNames)⟩
            · exact ⟨legal, .fixed (by decide : "interchange-bindings.json" ∈ fixedNames)⟩
            · exact ⟨legal, Artifact.isFileName_factory valid⟩

/-- Every document of a production, failed or not, is in a namespace of identifiers and has
a name that documents have. -/
theorem isArtifact_produce (valid : checkNamespace settings.space = .ok ()) (set : ModelSet) :
    ∀ document ∈ (produce settings set).documents,
      IsArtifact document.space document.fileName := by
  unfold produce
  dsimp only
  cases first : Progress.start.addDefinitions settings set with
  | error error => exact nofun
  | ok shared =>
      have steady := (Progress.steady_start.addDefinitions first).1
      have kept := steady.addMessages_run settings (interchangeOf set).isSome
        (selectedMessages settings set)
      dsimp only
      rcases second : shared.addMessages settings (interchangeOf set).isSome
        (selectedMessages settings set) with ⟨_ | _, progress⟩
      · rw [second] at kept
        exact kept.isArtifact
      · rw [second] at kept
        exact kept.isArtifact_finish valid _

end Project

end FlatMessage
