import FlatMessage.Proofs.Orders.Calls
import Mathlib.Data.List.Perm.Basic

/-!
# Reports up to order

Two productions list the same entries when their reports and their documents do, in any
order and apart from the locations that the models were read from.  Finishing what has been
compiled in one order lists the same entries as finishing what has been compiled in another
one.
-/

namespace FlatMessage

open Compiler (CompiledModel)
open Interchange (Factory Flavour Message)

/-! ## Tables -/

namespace Keyed

variable {α : Type}

theorem perm_insert {key : String} (value : α) {table : List (String × α)}
    (fresh : key ∉ table.map Prod.fst) :
    (insert key value table).Perm ((key, value) :: table) := by
  induction table with
  | nil => exact .refl _
  | cons binding rest ih =>
      obtain ⟨name, old⟩ := binding
      rw [List.map_cons, List.mem_cons, not_or] at fresh
      rw [insert, if_neg (Ne.symm fresh.1)]
      split
      · exact .refl _
      · exact ((ih fresh.2).cons _).trans (.swap _ _ _)

/-- The table of bindings with different keys has all of them. -/
theorem perm_ofList {bindings : List (String × α)}
    (distinct : (bindings.map Prod.fst).Nodup) : (ofList bindings).Perm bindings := by
  induction bindings using List.reverseRecOn with
  | nil => exact .refl _
  | append_singleton bindings last ih =>
      rw [List.map_append, List.nodup_append] at distinct
      obtain ⟨distinct, -, apart⟩ := distinct
      have all := ih distinct
      have fresh : last.1 ∉ (ofList bindings).map Prod.fst := by
        rw [(all.map Prod.fst).mem_iff]
        intro member
        exact apart _ member last.1 (by simp) rfl
      have whole : ofList (bindings ++ [last]) = insert last.1 last.2 (ofList bindings) := by
        rw [ofList, List.foldl_append]
        rfl
      rw [whole]
      exact (perm_insert last.2 fresh).trans
        ((all.cons last).trans (List.perm_append_singleton last bindings).symm)

end Keyed

/-! ## Documents -/

/-- A message of an interchange without the location that it was read from. -/
def Interchange.Message.withoutSource (message : Message) : Message :=
  { message with model := message.model.withoutSource }

namespace Artifact

/-- Two documents are the same, or they list the same entries in some order.  The codec
configuration of a model names the location that it was read from. -/
inductive Document.Rearranged : Document → Document → Prop
  | same (document : Document) : Rearranged document document
  | codec {model other : CompiledModel} (same : model.withoutSource = other.withoutSource) :
      Rearranged (codecDocument model) (codecDocument other)
  | classes (space : String) {classes others : List String} (perm : classes.Perm others) :
      Rearranged (classList space classes) (classList space others)
  | messages (space : String) {messages others : List Message}
      (perm : (messages.map Message.descriptor).Perm (others.map Message.descriptor)) :
      Rearranged (Interchange.messagesDocument space messages)
        (Interchange.messagesDocument space others)
  | interchange (space : String) (flavour : Flavour) (version : String)
      {messages others : List Message}
      (perm : (messages.map Message.name).Perm (others.map Message.name)) :
      Rearranged (Interchange.interchangeDocument space flavour version messages)
        (Interchange.interchangeDocument space flavour version others)
  | factory (space : String) (flavour : Flavour) {messages others : List Message}
      (perm : (messages.map fun message => (message.name, message.bindingPath)).Perm
        (others.map fun message => (message.name, message.bindingPath))) :
      Rearranged (Interchange.factoryDocument space flavour messages)
        (Interchange.factoryDocument space flavour others)

/-- Documents are the same ones up to their order and the order of their entries. -/
def SameDocuments (documents others : List Document) : Prop :=
  ∃ matched, List.Forall₂ Document.Rearranged documents matched ∧ matched.Perm others

theorem SameDocuments.of_forall₂ {documents others : List Document}
    (all : List.Forall₂ Document.Rearranged documents others) :
    SameDocuments documents others :=
  ⟨others, all, .refl _⟩

theorem SameDocuments.append {documents others more rest : List Document}
    (first : SameDocuments documents others) (second : SameDocuments more rest) :
    SameDocuments (documents ++ more) (others ++ rest) := by
  obtain ⟨matched, all, perm⟩ := first
  obtain ⟨matched', all', perm'⟩ := second
  exact ⟨matched ++ matched', List.rel_append all all', perm.append perm'⟩

/-- What models show without their sources is the same. -/
theorem eq_of_withoutSource {α : Type} {model other : CompiledModel}
    (same : model.withoutSource = other.withoutSource) (shown : CompiledModel → α)
    (plain : ∀ model : CompiledModel, shown model.withoutSource = shown model) :
    shown model = shown other := by
  rw [← plain model, same, plain other]

/-- Only the codec configuration of a model depends on where it was read from. -/
theorem forall₂_modelDocuments {model other : CompiledModel}
    (same : model.withoutSource = other.withoutSource) :
    List.Forall₂ Document.Rearranged (modelDocuments model) (modelDocuments other) := by
  have types := eq_of_withoutSource same typesDocument fun _ => rfl
  have binding := eq_of_withoutSource same bindingDocument fun _ => rfl
  have factory := eq_of_withoutSource same factoryDocument fun _ => rfl
  have options := eq_of_withoutSource same CompiledModel.options fun _ => rfl
  unfold modelDocuments
  rw [types, binding, factory, options]
  refine List.rel_append (List.rel_append (List.rel_append ?_ ?_) ?_) ?_
  · exact .cons (.same _) .nil
  · split
    · exact .cons (.same _) .nil
    · exact .nil
  · split
    · exact .cons (.codec same) .nil
    · exact .nil
  · split
    · exact .cons (.same _) .nil
    · exact .nil

/-- Models in another order have their documents in another order. -/
theorem sameDocuments_of_perm {models others : List CompiledModel}
    (perm : (models.map CompiledModel.withoutSource).Perm
      (others.map CompiledModel.withoutSource)) :
    SameDocuments (models.flatMap modelDocuments) (others.flatMap modelDocuments) := by
  have paired : List.Forall₂ (fun plain other => plain = CompiledModel.withoutSource other)
      (others.map CompiledModel.withoutSource) others := by
    rw [List.forall₂_map_left_iff, List.forall₂_same]
    exact fun _ _ => rfl
  obtain ⟨matched, same, order⟩ := List.perm_comp_forall₂ perm paired
  rw [List.forall₂_map_left_iff] at same
  exact ⟨matched.flatMap modelDocuments,
    List.rel_flatMap same fun _ _ => forall₂_modelDocuments, order.flatMap_right _⟩

end Artifact

/-! ## Reports -/

/-- Two factories list the same messages. -/
structure Interchange.Factory.SameEntries (factory other : Factory) : Prop where
  flavour : factory.flavour = other.flavour
  version : factory.version = other.version
  name : factory.name = other.name
  messages :
    (factory.messages.map fun entry => (entry.1, entry.2.withoutSource)).Perm
      (other.messages.map fun entry => (entry.1, entry.2.withoutSource))

namespace Project

open Artifact (SameDocuments)

/-- Two reports list the same entries: the same compiled models, apart from where they were
read from, the same root types, and the same interchange if there is one. -/
structure Report.SameEntries (report other : Report) : Prop where
  models :
    (report.models.map CompiledModel.withoutSource).Perm
      (other.models.map CompiledModel.withoutSource)
  rootClasses : report.rootClasses.Perm other.rootClasses
  interchange : Option.Rel Factory.SameEntries report.interchange other.interchange

section

variable {messages others : List Message}

/-- What messages show without their sources is listed in another order. -/
theorem perm_map_of_withoutSource {α : Type}
    (perm : (messages.map Message.withoutSource).Perm (others.map Message.withoutSource))
    (shown : Message → α)
    (plain : ∀ message : Message, shown message.withoutSource = shown message) :
    (messages.map shown).Perm (others.map shown) := by
  have whole := perm.map shown
  have same : shown ∘ Message.withoutSource = shown := funext plain
  rwa [List.map_map, List.map_map, same] at whole

theorem sameDocuments_of_messages (space : String) (flavour : Flavour) (version : String)
    (perm : (messages.map Message.withoutSource).Perm (others.map Message.withoutSource)) :
    SameDocuments
      [Interchange.messagesDocument space messages,
        Interchange.interchangeDocument space flavour version messages,
        Interchange.factoryDocument space flavour messages]
      [Interchange.messagesDocument space others,
        Interchange.interchangeDocument space flavour version others,
        Interchange.factoryDocument space flavour others] := by
  apply SameDocuments.of_forall₂
  refine .cons (.messages space ?_) (.cons (.interchange space flavour version ?_)
    (.cons (.factory space flavour ?_) .nil))
  · exact perm_map_of_withoutSource perm _ fun _ => rfl
  · exact perm_map_of_withoutSource perm _ fun _ => rfl
  · exact perm_map_of_withoutSource perm _ fun _ => rfl

theorem sameEntries_factory (flavour : Flavour) (version name : String)
    (perm : (messages.map Message.withoutSource).Perm (others.map Message.withoutSource))
    (distinct : (messages.map Message.name).Nodup) :
    Factory.SameEntries
      ⟨flavour, version, name,
        Keyed.ofList (messages.map fun message => (message.name, message))⟩
      ⟨flavour, version, name,
        Keyed.ofList (others.map fun message => (message.name, message))⟩ := by
  have names := perm_map_of_withoutSource perm Message.name fun _ => rfl
  have first : (Keyed.ofList (messages.map fun message => (message.name, message))).Perm _ :=
    Keyed.perm_ofList (by rwa [List.map_map])
  have second : (Keyed.ofList (others.map fun message => (message.name, message))).Perm _ :=
    Keyed.perm_ofList (by rw [List.map_map]; exact names.nodup distinct)
  refine ⟨rfl, rfl, rfl, ?_⟩
  refine (first.map _).trans (.trans ?_ (second.map _).symm)
  rw [List.map_map, List.map_map]
  exact perm_map_of_withoutSource perm _ fun _ => rfl

end

/-- What has been compiled in another order is finished with the same entries. -/
theorem Progress.sameEntries_of_finish {progress other : Progress} {settings : Settings}
    {interchange : Option Schema.InterchangeProperties} {report : Report}
    (models : (progress.models.map CompiledModel.withoutSource).Perm
      (other.models.map CompiledModel.withoutSource))
    (messages : (progress.messages.map Message.withoutSource).Perm
      (other.messages.map Message.withoutSource))
    (distinct : (progress.messages.map Message.name).Nodup)
    (documents : SameDocuments progress.documents other.documents)
    (success : (progress.finish settings interchange).outcome = .ok report) :
    ∃ report', (other.finish settings interchange).outcome = .ok report' ∧
      report.SameEntries report' ∧
        SameDocuments (progress.finish settings interchange).documents
          (other.finish settings interchange).documents := by
  have classes : (progress.messages.map Message.rootType).Perm
      (other.messages.map Message.rootType) :=
    perm_map_of_withoutSource messages _ fun _ => rfl
  have listed : SameDocuments
      (progress.documents ++ [Artifact.classList settings.space _])
      (other.documents ++ [Artifact.classList settings.space _]) :=
    documents.append (.of_forall₂ (.cons (.classes settings.space classes) .nil))
  have empty : progress.messages.isEmpty = other.messages.isEmpty := by
    have length := messages.length_eq
    simp only [List.length_map] at length
    cases first : progress.messages <;> cases second : other.messages <;>
      simp_all
  unfold finish at success ⊢
  dsimp only at success ⊢
  cases interchange with
  | none =>
      cases success
      exact ⟨_, rfl, ⟨models, classes, .none⟩, listed⟩
  | some properties =>
      dsimp only at success ⊢
      rw [← empty]
      cases none_ : progress.messages.isEmpty with
      | true =>
          rw [none_] at success
          cases success
          exact ⟨_, rfl, ⟨models, classes, .none⟩, listed⟩
      | false =>
          rw [none_] at success
          unfold Interchange.assemble at success ⊢
          cases known : Interchange.flavourOf properties with
          | error error =>
              rw [known] at success
              cases success
          | ok flavour =>
              rw [known] at success
              cases success
              refine ⟨_, rfl, ⟨models, classes, .some ?_⟩, ?_⟩
              · exact sameEntries_factory flavour _ _ messages distinct
              · exact listed.append (sameDocuments_of_messages _ flavour _ messages)

end Project

end FlatMessage
