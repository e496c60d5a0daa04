import FlatMessage.Proofs.Distinct.Paths
import Mathlib.Data.List.Flatten

/-!
# Names of documents

The documents of a model have different names, and so have the documents of the namespace
that a production runs in: of the names that are made for one model or one interchange,
none ends like a fixed one.  So two documents share a path only if two models share a
namespace.
-/

namespace FlatMessage

namespace Text

/-- A text that ends differently is not made by appending the ending. -/
theorem ne_append (text start ending : String) (other : ¬ ending.toList <:+ text.toList) :
    text ≠ start ++ ending := by
  rintro rfl
  exact other (by simp)

/-- Capital letters, digits and underscores are no slashes. -/
theorem slash_not_mem_toUppercase {c : Char} (word : Naming.isWord c = true) :
    '/' ∉ toUppercase c := by
  obtain ⟨capital, single, wordToo, -⟩ := Naming.toUppercase_of_isWord word
  rw [single, List.mem_singleton]
  rintro rfl
  exact absurd wordToo (by decide)

end Text

namespace Artifact

open Codec (CompiledType)
open Compiler (CompiledModel)
open Naming (IsIdentifier checkNamespace)

/-- A compiled model is in a valid namespace, and the types that it created can be told
apart there. -/
structure IsPlaced (model : CompiledModel) : Prop where
  valid : checkNamespace model.space = .ok ()
  distinct : (model.types.map CompiledType.name).Nodup
  types : ∀ type ∈ model.types, IsIdentifier type.name ∧ type.space = model.space
  root : IsIdentifier model.root.name

/-- Documents of one namespace, with different names that are no paths. -/
structure AreNamed (space : String) (documents : List Document) : Prop where
  placed : ∀ document ∈ documents, document.space = space
  distinct : (documents.map Document.fileName).Nodup
  simple : ∀ document ∈ documents, '/' ∉ document.fileName.toList

theorem AreNamed.sublist {space : String} {documents others : List Document}
    (named : AreNamed space others) (among : documents.Sublist others) :
    AreNamed space documents where
  placed := fun document member => named.placed document (among.subset member)
  distinct := (among.map Document.fileName).nodup named.distinct
  simple := fun document member => named.simple document (among.subset member)

/-- The options of a model select some of four documents. -/
theorem modelDocuments_sublist (model : CompiledModel) :
    (modelDocuments model).Sublist
      [typesDocument model, bindingDocument model, codecDocument model,
        factoryDocument model] := by
  unfold modelDocuments
  split_ifs <;> simp

/-- The documents of a model are told apart in its namespace. -/
theorem IsPlaced.areNamed {model : CompiledModel} (placed : IsPlaced model) :
    AreNamed model.space (modelDocuments model) := by
  refine AreNamed.sublist ⟨?_, ?_, ?_⟩ (modelDocuments_sublist model)
  · simp [typesDocument, bindingDocument, codecDocument, factoryDocument, Document.ofTemplate]
  · change ["types.json", "binding-config.json", "codec-config.json",
      model.root.name ++ "Factory.json"].Nodup
    have types := Text.ne_append "types.json" model.root.name "Factory.json" (by decide)
    have binding :=
      Text.ne_append "binding-config.json" model.root.name "Factory.json" (by decide)
    have codec := Text.ne_append "codec-config.json" model.root.name "Factory.json" (by decide)
    simp [types, binding, codec]
  · have simple : '/' ∉ (model.root.name ++ "Factory.json").toList := by
      rw [String.toList_append, List.mem_append, not_or]
      exact ⟨placed.root.not_mem_slash, by decide⟩
    simpa [typesDocument, bindingDocument, codecDocument, factoryDocument,
      Document.ofTemplate] using simple

/-- The name of an interchange's factory begins with capitals that are no path. -/
theorem exists_capitals {space : String} (valid : checkNamespace space = .ok ()) :
    ∃ capitals : String, '/' ∉ capitals.toList ∧
      Interchange.factoryName space = capitals ++ "InterchangeFactory" := by
  refine ⟨_, ?_, rfl⟩
  rw [List.getLast?_eq_some_getLast (Naming.segments_ne_nil space), Option.getD_some,
    String.toList_ofList, List.mem_flatMap]
  rintro ⟨c, member, slash⟩
  have legal := Naming.checkNamespace_eq_ok_iff.mp valid _
    (List.getLast_mem (Naming.segments_ne_nil space))
  exact Text.slash_not_mem_toUppercase (legal.isWord c member) slash

/-- The documents of an interchange and the list of root types are told apart in their
namespace. -/
theorem areNamed_interchange {space : String} (valid : checkNamespace space = .ok ())
    (classes : List String) (flavour : Interchange.Flavour) (version : String)
    (messages : List Interchange.Message) :
    AreNamed space
      [classList space classes, Interchange.messagesDocument space messages,
        Interchange.interchangeDocument space flavour version messages,
        Interchange.factoryDocument space flavour messages] := by
  obtain ⟨capitals, noPath, name⟩ := exists_capitals valid
  refine ⟨?_, ?_, ?_⟩
  · simp [classList, Interchange.messagesDocument, Interchange.interchangeDocument,
      Interchange.factoryDocument, Document.ofTemplate]
  · change ["classes.lst", "message-bindings.json", "interchange-bindings.json",
      Interchange.factoryName space ++ ".json"].Nodup
    rw [name, String.append_assoc]
    have list := Text.ne_append "classes.lst" capitals "InterchangeFactory.json" (by decide)
    have bindings :=
      Text.ne_append "message-bindings.json" capitals "InterchangeFactory.json" (by decide)
    have interchange :=
      Text.ne_append "interchange-bindings.json" capitals "InterchangeFactory.json" (by decide)
    simp [list, bindings, interchange]
  · have simple : '/' ∉ (Interchange.factoryName space ++ ".json").toList := by
      rw [name, String.append_assoc, String.toList_append, List.mem_append, not_or]
      exact ⟨noPath, by decide⟩
    simpa [classList, Interchange.messagesDocument, Interchange.interchangeDocument,
      Interchange.factoryDocument, Document.ofTemplate] using simple

/-! ## Paths and qualified names -/

section

variable {space other : String} {documents others : List Document} {destination : String}

/-- Documents of one namespace have different paths. -/
theorem AreNamed.paths_ne (named : AreNamed space documents)
    (valid : checkNamespace space = .ok ()) :
    documents.Pairwise fun document later =>
      document.path destination ≠ later.path destination := by
  refine (List.pairwise_map.mp named.distinct).imp_of_mem ?_
  intro document later member memberLater apart same
  refine apart ((Document.path_inj ?_ ?_ ?_ ?_).mp same).2
  · rwa [named.placed document member]
  · rwa [named.placed later memberLater]
  · exact named.simple document member
  · exact named.simple later memberLater

/-- Documents of different namespaces have different paths. -/
theorem AreNamed.paths_ne_of_ne (named : AreNamed space documents)
    (namedOther : AreNamed other others) (valid : checkNamespace space = .ok ())
    (validOther : checkNamespace other = .ok ()) (apart : space ≠ other) :
    ∀ document ∈ documents, ∀ later ∈ others,
      document.path destination ≠ later.path destination := by
  intro document member later memberLater same
  have spaces := named.placed document member
  have spacesOther := namedOther.placed later memberLater
  refine apart ?_
  rw [← spaces, ← spacesOther]
  refine ((Document.path_inj ?_ ?_ ?_ ?_).mp same).1
  · rwa [spaces]
  · rwa [spacesOther]
  · exact named.simple document member
  · exact namedOther.simple later memberLater

end

/-- The documents of models and of one more namespace have different paths exactly when the
namespaces of the models are different. -/
theorem nodup_paths_iff {models : List CompiledModel} {space : String}
    {own : List Document} {destination : String}
    (placed : ∀ model ∈ models, IsPlaced model) (valid : checkNamespace space = .ok ())
    (named : AreNamed space own) (apart : ∀ model ∈ models, model.space ≠ space) :
    ((models.flatMap modelDocuments ++ own).map (·.path destination)).Nodup ↔
      (models.map CompiledModel.space).Nodup := by
  unfold List.Nodup
  rw [List.pairwise_map, List.pairwise_append, List.pairwise_flatMap, List.pairwise_map]
  constructor
  · rintro ⟨⟨-, between⟩, -⟩
    refine between.imp ?_
    intro model later all same
    have types : ∀ model, typesDocument model ∈ modelDocuments model := by
      simp [modelDocuments]
    refine all _ (types model) _ (types later) ?_
    change Files.Path.join (Files.Path.join _ (Naming.directory model.space)) _ = _
    rw [same]
    rfl
  · intro distinct
    refine ⟨⟨?_, ?_⟩, named.paths_ne valid, ?_⟩
    · intro model member
      exact (placed model member).areNamed.paths_ne (placed model member).valid
    · refine distinct.imp_of_mem ?_
      intro model later member memberLater spaces
      exact (placed model member).areNamed.paths_ne_of_ne (placed later memberLater).areNamed
        (placed model member).valid (placed later memberLater).valid spaces
    · intro document among later memberLater
      obtain ⟨model, member, inModel⟩ := List.mem_flatMap.mp among
      exact (placed model member).areNamed.paths_ne_of_ne named (placed model member).valid
        valid (apart model member) document inModel later memberLater

/-- Types of models in different namespaces have different qualified names. -/
theorem nodup_qualifiedNames {models : List CompiledModel}
    (placed : ∀ model ∈ models, IsPlaced model)
    (distinct : (models.map CompiledModel.space).Nodup) :
    (models.flatMap fun model => model.types.map CompiledType.qualifiedName).Nodup := by
  rw [List.Nodup, List.pairwise_flatMap]
  constructor
  · intro model member
    have types := (placed model member).types
    refine (List.pairwise_map.mp (placed model member).distinct).imp_of_mem ?_ |>
      List.pairwise_map.mpr
    intro type later created createdLater apart same
    exact apart ((CompiledType.qualifiedName_inj (types type created).1.not_mem_dot
      (types later createdLater).1.not_mem_dot).mp same).2
  · refine (List.pairwise_map.mp distinct).imp_of_mem ?_
    intro model later member memberLater spaces
    rw [List.forall_mem_map]
    intro type created
    rw [List.forall_mem_map]
    intro other createdOther same
    obtain ⟨legal, space⟩ := (placed model member).types type created
    obtain ⟨legalOther, spaceOther⟩ := (placed later memberLater).types other createdOther
    refine spaces ?_
    rw [← space, ← spaceOther]
    exact ((CompiledType.qualifiedName_inj legal.not_mem_dot
      legalOther.not_mem_dot).mp same).1

end Artifact

end FlatMessage
