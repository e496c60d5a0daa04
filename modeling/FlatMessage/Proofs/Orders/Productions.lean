import FlatMessage.Proofs.Orders.Reports

/-!
# Productions in another order

When the calls of one production are those of another in a different order, and every
container has the same owner in both, then one succeeds if the other does and they list the
same entries.
-/

namespace FlatMessage

open Compiler (CompiledModel)

namespace Compiler.Objects

open Schema (Container NodeId)

variable {identities : NodeId → Option Container} {first second : List Call}

/-- Calls that succeed in one order succeed in another one with the same owners. -/
theorem Succeed.of_owners (distinct : first.Nodup) (perm : first.Perm second)
    (accepted : ∀ call ∈ first, call.Accepted identities) (succeed : Succeed first)
    (owners : ∀ id owner, IsOwner first id owner → IsOwner second id owner) :
    Succeed second := by
  intro before' call after' there
  have member : call ∈ first := perm.mem_iff.mpr (by simp [there])
  obtain ⟨before, after, here⟩ := List.append_of_mem member
  obtain ⟨outcome, added, one, other⟩ :=
    same_of_owners distinct (perm.nodup distinct) accepted succeed owners here there
  obtain ⟨compiled, success⟩ := succeed before call after here
  rw [one] at success
  exact ⟨compiled, by rw [other]; exact success⟩

/-- A call has one result in both orders. -/
theorem IsResult.eq_of_owners (distinct : first.Nodup) (perm : first.Perm second)
    (accepted : ∀ call ∈ first, call.Accepted identities) (succeed : Succeed first)
    (owners : ∀ id owner, IsOwner first id owner → IsOwner second id owner)
    {call : Call} {compiled other : CompiledModel} (result : IsResult first call compiled)
    (result' : IsResult second call other) : compiled = other := by
  obtain ⟨before, after, here, success⟩ := result
  obtain ⟨before', after', there, success'⟩ := result'
  obtain ⟨outcome, added, step, step'⟩ :=
    same_of_owners distinct (perm.nodup distinct) accepted succeed owners here there
  rw [step] at success
  rw [step', success] at success'
  exact Except.ok.inj success'

end Compiler.Objects

namespace Project

open Artifact (SameDocuments)
open Compiler.Objects (Call IsOwner IsResult Succeed)
open Schema (Container Description ModelSet NodeId)

/-- Lists that are matched with one list by a function are the same. -/
theorem eq_of_forall₂ {α β : Type} {related related' : α → β → Prop} {items : List α}
    {results others : List β} (all : List.Forall₂ related items results)
    (all' : List.Forall₂ related' items others)
    (unique : ∀ item result other, related item result → related' item other →
      result = other) : results = others := by
  induction all generalizing others with
  | nil =>
      cases all'
      rfl
  | cons head tail ih =>
      cases all' with
      | cons head' tail' => rw [unique _ _ _ head head', ih tail']

/-- Lists that are matched with a list and another order of it by a function are orders of
the same list. -/
theorem perm_of_forall₂ {α β : Type} {related related' : α → β → Prop} {items items' : List α}
    {results others : List β} (perm : items.Perm items')
    (all : List.Forall₂ related items results) (all' : List.Forall₂ related' items' others)
    (unique : ∀ item result other, related item result → related' item other →
      result = other) : results.Perm others := by
  obtain ⟨middle, matched, order⟩ := List.perm_comp_forall₂ perm all'
  rw [eq_of_forall₂ all matched unique]
  exact order

/-- Messages in another order are joined in another order. -/
theorem perm_joined (hasInterchange : Bool) {models others : List CompiledModel}
    (perm : (models.map CompiledModel.withoutSource).Perm
      (others.map CompiledModel.withoutSource)) :
    ((joined hasInterchange models).map Interchange.Message.withoutSource).Perm
      ((joined hasInterchange others).map Interchange.Message.withoutSource) := by
  unfold joined
  split
  · have mapped := perm.map messageOf
    rw [List.map_map, List.map_map] at mapped ⊢
    exact mapped
  · exact .refl _

/-- Models with different names are joined as messages with different names. -/
theorem nodup_joined (hasInterchange : Bool) {models : List CompiledModel}
    (names : (models.map (·.description.name)).Nodup) :
    ((joined hasInterchange models).map Interchange.Message.name).Nodup := by
  unfold joined
  split
  · rw [List.map_map]
    exact names
  · exact List.nodup_nil

section

variable {settings : Settings} {set other : ModelSet} {calls calls' : List Call}
  {progress progress' : Progress}
  {definitions definitions' messages messages' : List CompiledModel}

/-- The shared definitions and the messages are what their calls return. -/
theorem IsFinished.results
    (finished : IsFinished settings set calls progress definitions messages) :
    List.Forall₂ (IsResult (definitionsCalls settings set ++ calls))
        (definitionsCalls settings set) (definitions.map CompiledModel.withoutSource) ∧
      List.Forall₂ (IsResult (definitionsCalls settings set ++ calls)) calls
        (messages.map CompiledModel.withoutSource) := by
  have all := finished.follows.results.forall₂
  rw [finished.models, List.map_append] at all
  have length : (definitions.map CompiledModel.withoutSource).length =
      (definitionsCalls settings set).length := by
    rw [List.length_map, finished.counted]
  have front := List.forall₂_take_append _ _ _ all
  have back := List.forall₂_drop_append _ _ _ all
  rw [length, List.take_left] at front
  rw [length, List.drop_left] at back
  exact ⟨front, back⟩

/-- Results are described as the models that are compiled. -/
theorem descriptions_of_results {all : List Call} {results : List CompiledModel}
    (matched : List.Forall₂ (IsResult all) calls results) :
    results.map CompiledModel.description = calls.map (·.model.description) := by
  induction matched with
  | nil => rfl
  | cons head tail ih =>
      obtain ⟨before, after, -, success⟩ := head
      rw [List.map_cons, List.map_cons, ih, (Compiler.described_of_compile success).1]

/-- Results are named as the models that are compiled. -/
theorem names_of_results {all : List Call} {results : List CompiledModel}
    (matched : List.Forall₂ (IsResult all) calls results) :
    results.map (·.description.name) = calls.map (·.model.description.name) := by
  have names := congrArg (List.map Description.name) (descriptions_of_results matched)
  rwa [List.map_map, List.map_map] at names

/-- The calls of a production in another order lead to the same entries. -/
theorem sameEntries_of_owners {identities : NodeId → Option Container}
    (named : messageCalls? settings set = some calls)
    (named' : messageCalls? settings other = some calls')
    (shared : definitionsCalls settings other = definitionsCalls settings set)
    (interchange : interchangeOf other = interchangeOf set) (perm : calls.Perm calls')
    (distinct : (definitionsCalls settings set ++ calls).Nodup)
    (names : (calls.map (·.model.description.name)).Nodup)
    (accepted : ∀ call ∈ definitionsCalls settings set ++ calls, call.Accepted identities)
    (owners : ∀ id owner, IsOwner (definitionsCalls settings set ++ calls) id owner →
      IsOwner (definitionsCalls settings set ++ calls') id owner)
    {report : Report} (success : (produce settings set).outcome = .ok report) :
    ∃ report', (produce settings other).outcome = .ok report' ∧
      report.SameEntries report' ∧
        SameDocuments (produce settings set).documents (produce settings other).documents := by
  obtain ⟨again, namedAgain, succeed⟩ := succeed_of_produce success
  rw [named, Option.some.injEq] at namedAgain
  subst namedAgain
  have order := perm.append_left (definitionsCalls settings set)
  have succeed' := succeed.of_owners distinct order accepted owners
  rw [← shared] at succeed'
  obtain ⟨progress, definitions, messages, finished⟩ := exists_isFinished named succeed
  obtain ⟨progress', definitions', messages', finished'⟩ := exists_isFinished named' succeed'
  obtain ⟨front, back⟩ := finished.results
  obtain ⟨front', back'⟩ := finished'.results
  rw [shared] at front' back'
  have unique : ∀ call compiled compiled',
      IsResult (definitionsCalls settings set ++ calls) call compiled →
        IsResult (definitionsCalls settings set ++ calls') call compiled' →
          compiled = compiled' := by
    intro call compiled compiled' result result'
    exact result.eq_of_owners distinct order accepted succeed owners result'
  have sameDefinitions := eq_of_forall₂ front front' unique
  have permMessages := perm_of_forall₂ perm back back' unique
  have permModels : (progress.models.map CompiledModel.withoutSource).Perm
      (progress'.models.map CompiledModel.withoutSource) := by
    rw [finished.models, finished'.models, List.map_append, List.map_append, sameDefinitions]
    exact permMessages.append_left _
  have permJoined : (progress.messages.map Interchange.Message.withoutSource).Perm
      (progress'.messages.map Interchange.Message.withoutSource) := by
    rw [finished.messages, finished'.messages, interchange]
    exact perm_joined _ permMessages
  have distinctNames : (progress.messages.map Interchange.Message.name).Nodup := by
    have listed := names_of_results back
    rw [List.map_map] at listed
    rw [finished.messages]
    exact nodup_joined _ (listed ▸ names : (messages.map _).Nodup)
  have documents : SameDocuments progress.documents progress'.documents := by
    rw [finished.follows.documents, finished'.follows.documents]
    exact Artifact.sameDocuments_of_perm permModels
  rw [finished.finished] at success ⊢
  rw [finished'.finished, interchange]
  exact Progress.sameEntries_of_finish permModels permJoined distinctNames documents success

end

end Project

end FlatMessage
