import FlatMessage.Proofs.Filters.Runs
import FlatMessage.Proofs.Flushing.Productions
import FlatMessage.Proofs.Flushing.Segments

/-!
# Flushes of produced models

All models that a production reports have the flush option of its settings at every depth,
in types that they share as well.  So each of them flushes after every segment that it
writes, or never.
-/

namespace FlatMessage

namespace Compiler.Objects

open Schema (Container NodeId)

variable {identities : NodeId → Option Container} {calls : List Call}

/-- What is registered after calls with stored models is reached by them. -/
theorem reached_registryAfter
    (stored : ∀ call ∈ calls, call.model.root.StoredIn identities) :
    Reached identities (registryAfter calls) := by
  induction calls using List.reverseRecOn with
  | nil => exact .empty
  | append_singleton calls last ih =>
      rw [List.forall_mem_append, List.forall_mem_singleton] at stored
      rw [registryAfter_concat]
      exact .compile (ih stored.1) last.target last.model stored.2

end Compiler.Objects

namespace Project

open Compiler (CompiledModel FlushesAfter Reached Yields deliver_flushing_false
  described_of_compile exists_flushesAfter yields_of_compile)
open Compiler.Objects (Call reached_registryAfter registryAfter)
open Reading (readContainer)
open Schema (Container Model ModelSet Node NodeId)

variable {identities : NodeId → Option Container} {settings : Settings} {set : ModelSet}
  {report : Report}

/-- Every call compiles a model of the set. -/
theorem exists_model_of_mem_calls {calls : List Call}
    (named : messageCalls? settings set = some calls) {call : Call}
    (member : call ∈ definitionsCalls settings set ++ calls) :
    ∃ model ∈ set.models, call.model = model.withoutSource := by
  rcases List.mem_append.mp member with isShared | isMessage
  · rw [definitionsCalls, Option.mem_toList, Option.map_eq_some_iff] at isShared
    obtain ⟨definitions, found, rfl⟩ := isShared
    exact ⟨definitions, List.mem_of_find?_eq_some found, rfl⟩
  · obtain ⟨model, inSet, -, made⟩ := exists_model_of_call named isMessage
    exact ⟨model, inSet, model_of_messageCall? made⟩

/-- A reported model has a type that the root of its model yields. -/
theorem exists_yields_of_produce
    (stored : ∀ model ∈ set.models, model.root.StoredIn identities)
    (success : (produce settings set).outcome = .ok report) {compiled : CompiledModel}
    (member : compiled ∈ report.models) :
    ∃ model ∈ set.models, ∃ root, compiled.description = model.description ∧
      model.root = .container root ∧ Yields root compiled.root := by
  obtain ⟨calls, named, results⟩ := results_of_produce success
  have plain : compiled.withoutSource ∈ report.models.map CompiledModel.withoutSource :=
    List.mem_map_of_mem member
  obtain ⟨call, inCalls, before, after, split, returned⟩ :=
    exists_of_forall₂ results.forall₂ plain
  obtain ⟨model, inSet, same⟩ := exists_model_of_mem_calls named inCalls
  have storedCalls := storedIn_of_calls stored named
  have reached : Reached identities (registryAfter before) := by
    apply reached_registryAfter
    intro earlier inBefore
    exact storedCalls earlier (split ▸ List.mem_append_left _ inBefore)
  obtain ⟨root, tree, yields⟩ :=
    yields_of_compile reached.sound (storedCalls call inCalls) returned
  have described := (described_of_compile returned).1
  rw [same] at tree described
  exact ⟨model, inSet, root, described, tree, yields⟩

/-- The models that are reported have the flush option of the settings. -/
theorem flushing_eq_of_produce (success : (produce settings set).outcome = .ok report)
    {compiled : CompiledModel} (member : compiled ∈ report.models) :
    compiled.flushing settings.flushSegments = compiled := by
  have same := produce_flushing settings.flushSegments settings set
  have settled : settings.flushing settings.flushSegments = settings := rfl
  rw [settled] at same
  have outcome := congrArg Production.outcome same
  rw [Production.flushing, success] at outcome
  have models := congrArg Report.models (Except.ok.inj outcome)
  have each := List.map_inj_left.mp ((List.map_id report.models).trans models)
  exact (each compiled member).symm

/-- A reported model of an accepted set is one of a sound root. -/
theorem exists_sound_of_produce (valid : ∀ model ∈ set.models, model.validate = .ok ())
    (stored : ∀ model ∈ set.models, model.root.StoredIn identities)
    (success : (produce settings set).outcome = .ok report) {compiled : CompiledModel}
    (member : compiled ∈ report.models) :
    ∃ model ∈ set.models, ∃ root, compiled.description = model.description ∧
      model.root = .container root ∧ root.kind = .segmentGroup ∧ root.Sound ∧
        Yields root compiled.root := by
  obtain ⟨model, inSet, root, described, tree, yields⟩ :=
    exists_yields_of_produce stored success member
  obtain ⟨other, again, group, sound⟩ := Model.sound_of_validate (valid model inSet)
  obtain rfl : root = other := Node.container.inj (tree.symm.trans again)
  exact ⟨model, inSet, root, described, tree, group, sound, yields⟩

/-- A model that is compiled without the flush option delivers what another one does,
unflushed. -/
structure IsUnflushed (compiled plain : CompiledModel) : Prop where
  description : plain.description = compiled.description
  space : plain.space = compiled.space
  deliver : ∀ table room bean,
    plain.root.deliver table room bean =
      { compiled.root.deliver table room bean with flushes := 0 }

/-- With the flush option every message is flushed after each of its segments with fields,
those of shared definitions included, before the segments nested in it and nowhere else.
Without it, the same messages deliver the same bytes and are never flushed. -/
theorem flushes_after_every_segment
    (valid : ∀ model ∈ set.models, model.validate = .ok ())
    (stored : ∀ model ∈ set.models, model.root.StoredIn identities)
    (flushing : settings.flushSegments = true)
    (success : (produce settings set).outcome = .ok report) :
    (∀ compiled ∈ report.models, ∃ model ∈ set.models, ∃ root,
      compiled.description = model.description ∧ model.root = .container root ∧
        ∀ table bean, (compiled.root.deliver table none bean).outcome = .ok () →
          ∃ reading, readContainer root bean = .ok reading ∧
            FlushesAfter compiled.root table bean reading.trim.coded) ∧
      ∃ plain, (produce { settings with flushSegments := false } set).outcome = .ok plain ∧
        List.Forall₂ IsUnflushed report.models plain.models := by
  constructor
  · intro compiled member
    obtain ⟨model, inSet, root, described, tree, group, sound, yields⟩ :=
      exists_sound_of_produce valid stored success member
    have set_ := flushing_eq_of_produce success member
    rw [flushing] at set_
    have flushed := congrArg CompiledModel.root set_
    refine ⟨model, inSet, root, described, tree, ?_⟩
    intro table bean delivered
    exact exists_flushesAfter sound group yields flushed delivered
  · have outcome := congrArg Production.outcome (produce_flushing false settings set)
    rw [Production.flushing, success] at outcome
    refine ⟨report.flushing false, outcome, ?_⟩
    rw [Report.flushing, List.forall₂_map_right_iff, List.forall₂_same]
    intro compiled member
    obtain ⟨model, inSet, root, -, -, -, sound, yields⟩ :=
      exists_sound_of_produce valid stored success member
    exact ⟨rfl, rfl, deliver_flushing_false sound yields⟩

/-! ## Shared partners -/

/-- A segment with the contact of a partner. -/
def contact : Container where
  id := ⟨"contact", []⟩
  kind := .segment
  name := "contact"
  code := some "CTA"
  truncatable := false
  documentation := none
  children := [⟨.once, .value ⟨"name", .field, none, []⟩⟩]
  segments := []

/-- A segment with a partner, and his contact nested in it. -/
def partner : Container where
  id := ⟨"partner", []⟩
  kind := .segment
  name := "partner"
  code := some "NAD"
  truncatable := true
  documentation := none
  children := [⟨.once, .value ⟨"role", .field, none, []⟩⟩]
  segments := [⟨.once, .container contact⟩]

/-- A model that has any number of partners. -/
def withPartners (name version : String) : Model where
  description := ⟨name, version⟩
  delimiters := .edifact
  root := .container
    { id := ⟨name, []⟩
      kind := .segmentGroup
      name := "document"
      code := none
      truncatable := false
      documentation := none
      children := []
      segments := [⟨⟨0, none⟩, .container partner⟩] }
  source := none

/-- An order that has the partners of shared definitions. -/
def trade : ModelSet where
  models := [withPartners "__modelset_definitions" "local", withPartners "ORDERS" "D03B"]
  interchange := none

/-- Settings that ask for flushes. -/
def flushedMessages : Settings :=
  { everyMessage with flushSegments := true }

/-- A buyer with a contact, and a supplier. -/
def twoPartners : Bean :=
  [("partner", .list
    [.bean [("contact", .bean [("name", .scalar (.text "Jo"))]),
        ("role", .scalar (.text "BY"))],
      .bean [("role", .scalar (.text "SU"))]])]

theorem storedIn_trade :
    ∀ model ∈ trade.models, model.root.StoredIn (Schema.containerOf trade.models) := by
  have listed : ∀ name version, (withPartners name version).root.containers =
      (withPartners name version).root.container?.toList ++ [partner, contact] :=
    fun _ _ => rfl
  simp only [trade, List.forall_mem_cons]
  refine ⟨?_, ?_, nofun⟩ <;>
  · intro container member
    rw [listed, withPartners, Schema.Node.container?, Option.toList_some,
      List.singleton_append, List.mem_cons, List.mem_pair] at member
    rcases member with rfl | rfl | rfl <;> rfl

/-- The partners of the order are flushed, each before its contact. -/
theorem partners_flushed :
    ∃ report plain, (produce flushedMessages trade).outcome = .ok report ∧
      (produce everyMessage trade).outcome = .ok plain ∧
      List.Forall₂ IsUnflushed report.models plain.models ∧
      ∀ compiled ∈ report.models, ∃ root reading,
        readContainer root twoPartners = .ok reading ∧
          FlushesAfter compiled.root .edifact twoPartners reading.trim.coded ∧
          (compiled.root.deliver .edifact none twoPartners).flushes = 3 := by
  obtain ⟨report, success⟩ : ∃ report, (produce flushedMessages trade).outcome = .ok report :=
    ⟨_, rfl⟩
  have valid : ∀ model ∈ trade.models, model.validate = .ok () := by
    simp only [trade, List.forall_mem_cons]
    exact ⟨rfl, rfl, nofun⟩
  obtain ⟨flushed, plain, outcome, same⟩ :=
    flushes_after_every_segment valid storedIn_trade rfl success
  have arrived : ∀ compiled ∈
      (produce flushedMessages trade).outcome.toOption.elim [] Report.models,
      (compiled.root.deliver .edifact none twoPartners).outcome.isOk = true ∧
        (compiled.root.deliver .edifact none twoPartners).flushes = 3 := by
    decide +kernel
  rw [success] at arrived
  refine ⟨report, plain, success, outcome, same, ?_⟩
  intro compiled member
  obtain ⟨delivered, count⟩ := arrived compiled member
  obtain ⟨_, complete⟩ := isOk_iff_exists.mp delivered
  obtain ⟨model, -, root, -, -, each⟩ := flushed compiled member
  obtain ⟨reading, read, flushes⟩ := each .edifact twoPartners complete
  exact ⟨root, reading, read, flushes, count⟩

end Project

end FlatMessage
