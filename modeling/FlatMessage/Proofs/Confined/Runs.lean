import FlatMessage.Proofs.Confined.Documents
import FlatMessage.Proofs.Confined.Files

/-!
# What a run writes stays under its destination

A document is written to the place that the destination leads to, followed by the segments
of its namespace and its name.  So whatever a schema says, a run leaves every file alone
that is not at the place of a document, and inside a destination that is there nothing is
made anywhere else.
-/

namespace FlatMessage

namespace Project

open Artifact (Document IsArtifact)
open Files (IsPart Place Tree)
open Files.Path (join)
open Schema (ModelSet)

variable {tree middle later : Tree} {destination : String} {document : Document}
  {documents : List Document} {base : Place}

/-- A place where a document can be: behind the place of the destination, in the directory of
a namespace. -/
def IsArtifactPlace (tree : Tree) (destination : String) (place : Place) : Prop :=
  ∃ base space name, tree.place? destination = .ok base ∧ IsArtifact space name ∧
    place = base ++ (Naming.segments space ++ [name])

/-- Everything stays, and no file is made or changed that is not at the place of a
document. -/
structure OnlyArtifacts (destination : String) (tree later : Tree) : Prop where
  within : tree.Within later
  files : ∀ place content, later.root.at? place = some (.file content) →
    tree.root.at? place = some (.file content) ∨ IsArtifactPlace later destination place

namespace OnlyArtifacts

theorem of_keepsFiles (within : tree.Within later) (keeps : tree.KeepsFiles later) :
    OnlyArtifacts destination tree later where
  within := within
  files := fun place content there => .inl (keeps place content there)

theorem trans (first : OnlyArtifacts destination tree middle)
    (second : OnlyArtifacts destination middle later) :
    OnlyArtifacts destination tree later where
  within := first.within.trans second.within
  files := by
    intro place content there
    rcases second.files place content there with before | artifact
    · rcases first.files place content before with unchanged | ⟨base, space, name, leads, rest⟩
      · exact .inl unchanged
      · exact .inr ⟨base, space, name, second.within.place? leads, rest⟩
    · exact .inr artifact

end OnlyArtifacts

/-- Making directories leaves files alone. -/
theorem onlyArtifacts_makeDirectories (destination : String) (tree : Tree) (path : String) :
    OnlyArtifacts destination tree (tree.makeDirectories path).2 :=
  .of_keepsFiles (Tree.within_makeLineage tree _) (Tree.keepsFiles_makeLineage tree _)

/-! ## Documents -/

/-- The directory of a document is followed from the destination segment by segment. -/
theorem directory_eq_foldl (artifact : IsArtifact document.space document.fileName) :
    document.directory destination =
      (Naming.segments document.space).foldl join destination :=
  Artifact.join_foldl (Naming.segments_ne_nil _) artifact.segments destination

theorem onlyArtifacts_writeFile (artifact : IsArtifact document.space document.fileName)
    {bytes : List UInt8}
    (success : tree.writeFile (document.path destination) bytes = .ok later) :
    OnlyArtifacts destination tree later := by
  obtain ⟨outer, leads, ⟨entries, directory⟩, free, -, rfl⟩ :=
    Tree.exists_of_writeFile artifact.fileName.isPart.simple success
  have within : tree.Within
      { tree with root := tree.root.put (.file bytes) (outer ++ [document.fileName]) } :=
    Tree.within_put_file directory free bytes
  refine ⟨within, ?_⟩
  intro place content there
  rcases Tree.file_of_put there with rfl | before
  · rw [directory_eq_foldl artifact] at leads
    obtain ⟨base, here, rfl⟩ := Tree.place?_foldl
      (fun segment member => Files.isPart_of_isIdentifier (artifact.segments segment member))
      leads
    exact .inr ⟨base, document.space, document.fileName, within.place? here, artifact,
      List.append_assoc _ _ _⟩
  · exact .inl before

/-- What writing a document leaves is what making its directory leaves, or the document in
it. -/
theorem tree_of_writeDocument (tree : Tree) (destination : String) (document : Document) :
    (writeDocument tree destination document).2 =
        (tree.makeDirectories (document.directory destination)).2 ∨
      (tree.makeDirectories (document.directory destination)).2.writeFile
          (document.path destination) (Text.bytes document.content) =
        .ok (writeDocument tree destination document).2 := by
  unfold writeDocument
  rcases tree.makeDirectories (document.directory destination) with ⟨_ | _, middle⟩
  · exact .inl rfl
  · dsimp only
    cases middle.writeFile (document.path destination) (Text.bytes document.content) with
    | error failure => exact .inl rfl
    | ok later => exact .inr rfl

theorem onlyArtifacts_writeDocument (artifact : IsArtifact document.space document.fileName)
    (destination : String) (tree : Tree) :
    OnlyArtifacts destination tree (writeDocument tree destination document).2 := by
  have made := onlyArtifacts_makeDirectories destination tree (document.directory destination)
  rcases tree_of_writeDocument tree destination document with outcome | written
  · rw [outcome]
    exact made
  · exact made.trans (onlyArtifacts_writeFile artifact written)

/-- Writing documents leaves everything alone that is not at the place of a document, also
when one of them cannot be written. -/
theorem onlyArtifacts_writeDocuments
    (artifacts : ∀ document ∈ documents, IsArtifact document.space document.fileName)
    (destination : String) (tree : Tree) :
    OnlyArtifacts destination tree (writeDocuments tree destination documents).2 := by
  induction documents generalizing tree with
  | nil => exact .of_keepsFiles (.refl tree) (.refl tree)
  | cons document rest ih =>
      rw [List.forall_mem_cons] at artifacts
      have first := onlyArtifacts_writeDocument artifacts.1 destination tree
      rcases outcome : writeDocument tree destination document with ⟨_ | _, middle⟩
      · rw [writeDocuments_cons_of_error outcome]
        rw [outcome] at first
        exact first
      · rw [writeDocuments_cons_of_ok outcome]
        rw [outcome] at first
        exact first.trans (ih artifacts.2 middle)

/-! ## Inside a destination that is there -/

theorem newInside_writeDocument (artifact : IsArtifact document.space document.fileName)
    (isAt : tree.IsDirectoryAt destination base) :
    Tree.NewInside base tree (writeDocument tree destination document).2 := by
  have parts : ∀ segment ∈ Naming.segments document.space, IsPart segment :=
    fun segment member => Files.isPart_of_isIdentifier (artifact.segments segment member)
  have made := Tree.newInside_makeDirectories (Naming.segments_ne_nil document.space) parts isAt
  have grown :=
    (onlyArtifacts_makeDirectories destination tree (document.directory destination)).within
  rw [← directory_eq_foldl artifact] at made
  rcases tree_of_writeDocument tree destination document with outcome | written
  · rw [outcome]
    exact made
  · generalize (tree.makeDirectories (document.directory destination)).2 = middle
      at made grown written
    obtain ⟨outer, leads, ⟨entries, directory⟩, -, -, whole⟩ :=
      Tree.exists_of_writeFile artifact.fileName.isPart.simple written
    rw [directory_eq_foldl artifact] at leads
    have below := Tree.prefix_of_place?_foldl parts (isAt.mono grown) leads
    refine made.trans fun place entry there => ?_
    rw [whole] at there
    rcases Tree.prefix_of_put directory there with inside | before
    · exact .inl (below.trans inside)
    · exact .inr before

/-- Inside a destination that is there, nothing is made anywhere else. -/
theorem newInside_writeDocuments
    (artifacts : ∀ document ∈ documents, IsArtifact document.space document.fileName)
    (isAt : tree.IsDirectoryAt destination base) :
    Tree.NewInside base tree (writeDocuments tree destination documents).2 := by
  induction documents generalizing tree with
  | nil => exact .refl base tree
  | cons document rest ih =>
      rw [List.forall_mem_cons] at artifacts
      have first := newInside_writeDocument artifacts.1 isAt
      have grown := (onlyArtifacts_writeDocument artifacts.1 destination tree).within
      rcases outcome : writeDocument tree destination document with ⟨_ | _, middle⟩
      · rw [writeDocuments_cons_of_error outcome]
        rw [outcome] at first
        exact first
      · rw [writeDocuments_cons_of_ok outcome]
        rw [outcome] at first grown
        exact first.trans (ih artifacts.2 (isAt.mono grown))

/-! ## Runs -/

/-- Delivering a production is writing its documents. -/
theorem deliver_snd (tree : Tree) (destination : String) (production : Production) :
    (deliver tree destination production).2 =
      (writeDocuments tree destination production.documents).2 := by
  unfold deliver
  rcases writeDocuments tree destination production.documents with ⟨_ | _, later⟩ <;> rfl

theorem onlyArtifacts_makeDestination (tree : Tree) (destination : String) :
    OnlyArtifacts destination tree (makeDestination tree destination).2 := by
  unfold makeDestination
  split
  · exact .of_keepsFiles (.refl tree) (.refl tree)
  · have made := onlyArtifacts_makeDirectories destination tree destination
    rcases outcome : tree.makeDirectories destination with ⟨_ | _, later⟩ <;>
    · rw [outcome] at made
      exact made

/-- What a run leaves is what making its destination leaves, or what delivering a production
to it does. -/
theorem tree_of_run (tree : Tree) (settings : Settings) :
    (run tree settings).2 = (makeDestination tree settings.destination).2 ∨
      ∃ set, (run tree settings).2 = (deliver (makeDestination tree settings.destination).2
        settings.destination (produce settings set)).2 := by
  unfold run
  rcases makeDestination tree settings.destination with ⟨_ | _, middle⟩
  · exact .inl rfl
  · dsimp only
    cases Schema.ModelSet.load middle settings.schema settings.base with
    | error error => exact .inl rfl
    | ok set => exact .inr ⟨set, rfl⟩

/-- The paths that a run reports are those of the documents of a production. -/
theorem paths_of_run {settings : Settings} {completion : Completion}
    (success : (run tree settings).1 = .ok completion) :
    ∃ set, completion.paths =
      (produce settings set).documents.map (·.path settings.destination) := by
  revert success
  unfold run
  rcases makeDestination tree settings.destination with ⟨_ | _, middle⟩
  · exact nofun
  · dsimp only
    cases Schema.ModelSet.load middle settings.schema settings.base with
    | error error => exact nofun
    | ok set =>
        dsimp only
        rcases deliver middle settings.destination (produce settings set) with ⟨_ | _, later⟩
        · exact nofun
        · rintro ⟨⟩
          exact ⟨set, rfl⟩

/-- A run leaves every file alone that is not at the place of a document. -/
theorem onlyArtifacts_run {settings : Settings}
    (valid : Naming.checkNamespace settings.space = .ok ()) (tree : Tree) :
    OnlyArtifacts settings.destination tree (run tree settings).2 := by
  have made := onlyArtifacts_makeDestination tree settings.destination
  rcases tree_of_run tree settings with outcome | ⟨set, outcome⟩
  · rw [outcome]
    exact made
  · rw [outcome, deliver_snd]
    exact made.trans (onlyArtifacts_writeDocuments (isArtifact_produce valid set) _ _)

/-- The namespace of accepted settings is valid. -/
theorem checkNamespace_of_ofRequest {request : Request} {settings : Settings}
    (accepted : Settings.ofRequest request = .ok settings) :
    Naming.checkNamespace settings.space = .ok () := by
  unfold Settings.ofRequest at accepted
  obtain ⟨schema, -, accepted⟩ := bind_eq_ok_iff.mp accepted
  obtain ⟨destination, -, accepted⟩ := bind_eq_ok_iff.mp accepted
  obtain ⟨space, -, accepted⟩ := bind_eq_ok_iff.mp accepted
  cases valid : Naming.checkNamespace space with
  | error illegal =>
      rw [valid] at accepted
      cases accepted
  | ok _ =>
      rw [valid] at accepted
      cases accepted
      exact valid

/-- Everything that a run writes stays under its destination, whatever the schema and its
models are called and whether or not it succeeds: documents lie in a directory for each
segment of a namespace, which are identifiers, and have a fixed name or that of a factory.
No other file is made or changed, and inside a destination that is there nothing is made
anywhere else. -/
theorem output_stays_under_destination {request : Request} {settings : Settings}
    (accepted : Settings.ofRequest request = .ok settings) (tree : Tree) :
    (∀ set, ∀ document ∈ (produce settings set).documents,
      IsArtifact document.space document.fileName ∧
        (∀ part ∈ document.parts, IsPart part) ∧
        document.path settings.destination =
          document.parts.foldl join settings.destination) ∧
      (∀ set,
        OnlyArtifacts settings.destination tree
          (deliver tree settings.destination (produce settings set)).2 ∧
        ∀ base, tree.IsDirectoryAt settings.destination base →
          Tree.NewInside base tree
            (deliver tree settings.destination (produce settings set)).2) ∧
      OnlyArtifacts settings.destination tree (run tree settings).2 ∧
      ∀ completion, (run tree settings).1 = .ok completion →
        ∀ path ∈ completion.paths, ∃ space name, IsArtifact space name ∧
          path = (Naming.segments space ++ [name]).foldl join settings.destination := by
  have valid := checkNamespace_of_ofRequest accepted
  refine ⟨?_, ?_, onlyArtifacts_run valid tree, ?_⟩
  · intro set document member
    have artifact := isArtifact_produce valid set document member
    exact ⟨artifact, artifact.isPart, artifact.path _⟩
  · intro set
    have artifacts := isArtifact_produce valid set
    rw [deliver_snd]
    exact ⟨onlyArtifacts_writeDocuments artifacts _ tree,
      fun base isAt => newInside_writeDocuments artifacts isAt⟩
  · intro completion success
    obtain ⟨set, paths⟩ := paths_of_run success
    rw [paths, List.forall_mem_map]
    intro document member
    have artifact := isArtifact_produce valid set document member
    exact ⟨document.space, document.fileName, artifact, artifact.path _⟩

/-- A place to write to, beside a file that is none of a run's business. -/
def sharedTree : Tree where
  root := .directory [("notes.txt", .file [104, 105]), ("out", .directory [])]
  working := []

/-- Orders and invoices that are written to a shared place leave the other file there. -/
theorem notes_stay_beside_output :
    Settings.ofRequest
        { schema := some "set.toml", base := none, destination := some "out",
          space := some "com.acme", messages := none, flushSegments := false } =
      .ok everyMessage ∧
      sharedTree.IsDirectoryAt "out" ["out"] ∧
      OnlyArtifacts "out" sharedTree
        (deliver sharedTree "out" (produce everyMessage (revisions "INVOIC"))).2 ∧
      Tree.NewInside ["out"] sharedTree
        (deliver sharedTree "out" (produce everyMessage (revisions "INVOIC"))).2 := by
  have accepted : Settings.ofRequest
      { schema := some "set.toml", base := none, destination := some "out",
        space := some "com.acme", messages := none, flushSegments := false } =
      .ok everyMessage := rfl
  have isAt : sharedTree.IsDirectoryAt "out" ["out"] := ⟨rfl, [], rfl⟩
  obtain ⟨-, written, -⟩ := output_stays_under_destination accepted sharedTree
  obtain ⟨only, inside⟩ := written (revisions "INVOIC")
  exact ⟨accepted, isAt, only, inside ["out"] isAt⟩

end Project

end FlatMessage
