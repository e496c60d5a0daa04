import FlatMessage.Proofs.Filters.Calls
import FlatMessage.Proofs.Orders.Ownership

/-!
# What a message filter changes

A filter leaves messages out of a run.  A container that several messages share is compiled
with the first of them, in its namespace, so a message that is left out may take a type with
it that another message uses.  That message has the type in its own namespace then.  The
output for the selected messages is the same exactly when no message that is left out
introduces a container of one of them.
-/

namespace FlatMessage.Project

open Artifact (Document bindingDocument modelDocuments typesDocument)
open Compiler (CompiledModel typedNodes)
open Compiler.Objects (AreResults Call IsResult LeavesOutOwn Succeed)
open Naming (checkNamespace)
open Schema (Container Model ModelSet NodeId)

/-- The settings without their filter. -/
def Settings.unfiltered (settings : Settings) : Settings :=
  { settings with filter := none }

/-- A message of a set introduces a container when it is compiled with it, and neither the
shared definitions nor an earlier message are. -/
def Introduces (set : ModelSet) (message : Model) (id : NodeId) : Prop :=
  ∃ before after, set.messages = before ++ message :: after ∧ id ∈ typedNodes message ∧
    ∀ earlier ∈ set.definitions?.toList ++ before, id ∉ typedNodes earlier

/-- What a document of a namespace holds when all documents of a production have been written:
of several with one name the last one is left. -/
def Production.content? (production : Production) (space fileName : String) : Option String :=
  (production.documents.reverse.find? fun document =>
    (document.space, document.fileName) = (space, fileName)).map Document.content

/-- Two productions leave a document with one content. -/
def SameContent (production other : Production) (space fileName : String) : Prop :=
  ∃ content, production.content? space fileName = some content ∧
    other.content? space fileName = some content

/-- Two productions have the same output for a model: the same types, the same binding tree,
and the same documents that describe them. -/
structure SameOutput (production other : Production) (compiled compiled' : CompiledModel) :
    Prop where
  space : compiled.space = compiled'.space
  types : compiled.types = compiled'.types
  bindings : compiled.bindings = compiled'.bindings
  typesContent : SameContent production other compiled.space "types.json"
  bindingContent : SameContent production other compiled.space "binding-config.json"

section

variable {settings : Settings} {set : ModelSet} {report : Report} {calls : List Call}

/-! ## Messages and their calls -/

/-- The call that compiles a message, if the name of the message has a segment. -/
def messageCall (settings : Settings) (hasInterchange : Bool) (model : Model) : Call :=
  (messageCall? settings hasInterchange model).getD
    ⟨⟨settings.space, .standalone⟩, model.withoutSource⟩

@[simp]
theorem model_messageCall (settings : Settings) (hasInterchange : Bool) (model : Model) :
    (messageCall settings hasInterchange model).model = model.withoutSource := by
  unfold messageCall
  cases made : messageCall? settings hasInterchange model with
  | none => rfl
  | some call => exact model_of_messageCall? made

theorem calls_eq_map (named : messageCalls? settings set = some calls) :
    calls = (selectedMessages settings set).map
      (messageCall settings (interchangeOf set).isSome) := by
  rw [messageCalls?, mapM_eq_some_iff] at named
  generalize selectedMessages settings set = models at named ⊢
  induction named with
  | nil => rfl
  | cons first _ ih => rw [List.map_cons, ← ih, messageCall, first, Option.getD_some]

theorem selectedMessages_unfiltered (settings : Settings) (set : ModelSet) :
    selectedMessages settings.unfiltered set = set.messages := by
  simp [selectedMessages, Settings.selects, Settings.unfiltered]

theorem messageCall_unfiltered (settings : Settings) :
    messageCall settings.unfiltered = messageCall settings :=
  rfl

theorem calls_unfiltered (named : messageCalls? settings.unfiltered set = some calls) :
    calls = set.messages.map (messageCall settings (interchangeOf set).isSome) := by
  rw [calls_eq_map named, selectedMessages_unfiltered, messageCall_unfiltered]

theorem definitionsCalls_unfiltered (settings : Settings) (set : ModelSet) :
    definitionsCalls settings.unfiltered set = definitionsCalls settings set :=
  rfl

/-- Whether the message that a call compiles is selected. -/
def Settings.takes (settings : Settings) (call : Call) : Bool :=
  settings.selects call.model.description.name

theorem takes_messageCall (settings : Settings) (hasInterchange : Bool) (model : Model) :
    settings.takes (messageCall settings hasInterchange model) =
      settings.selects model.description.name := by
  rw [Settings.takes, model_messageCall]
  rfl

/-- The calls with a filter are some of those without it. -/
theorem calls_filter {calls' : List Call}
    (named : messageCalls? settings.unfiltered set = some calls)
    (named' : messageCalls? settings set = some calls') : calls' = calls.filter settings.takes := by
  rw [calls_unfiltered named, calls_eq_map named', List.filter_map, selectedMessages]
  refine congrArg _ (List.filter_congr fun model _ => ?_)
  rw [Function.comp_apply, takes_messageCall]

theorem typedNodes_messageCall (settings : Settings) (hasInterchange : Bool) (model : Model) :
    typedNodes (messageCall settings hasInterchange model).model = typedNodes model := by
  rw [model_messageCall]
  rfl

/-- A call introduces a container when its message does. -/
theorem introduces_iff (named : messageCalls? settings.unfiltered set = some calls) {call : Call}
    {id : NodeId} :
    Compiler.Objects.Introduces (definitionsCalls settings set) calls call id ↔
      ∃ message, messageCall settings (interchangeOf set).isSome message = call ∧
        Introduces set message id := by
  have unknown : ∀ before : List Model,
      (∀ earlier ∈ definitionsCalls settings set ++
          before.map (messageCall settings (interchangeOf set).isSome),
        id ∉ typedNodes earlier.model) ↔
        ∀ earlier ∈ set.definitions?.toList ++ before, id ∉ typedNodes earlier := by
    intro before
    rw [List.forall_mem_append, List.forall_mem_append, List.forall_mem_map]
    refine and_congr ?_ (forall₂_congr fun message _ => by rw [typedNodes_messageCall])
    rw [definitionsCalls]
    cases set.definitions? with
    | none => simp
    | some definitions => simp [definitionsCall, typedNodes, Model.withoutSource]
  constructor
  · rintro ⟨before, after, split, reached, fresh⟩
    rw [calls_unfiltered named, List.map_eq_append_iff] at split
    obtain ⟨earlier, rest, whole, rfl, split⟩ := split
    obtain ⟨message, later, rfl, rfl, rfl⟩ := List.map_eq_cons_iff.mp split
    rw [typedNodes_messageCall] at reached
    exact ⟨message, rfl, earlier, later, whole, reached, (unknown earlier).mp fresh⟩
  · rintro ⟨message, rfl, before, after, split, reached, fresh⟩
    refine ⟨before.map (messageCall settings (interchangeOf set).isSome),
      after.map (messageCall settings (interchangeOf set).isSome), ?_, ?_,
      (unknown before).mpr fresh⟩
    · rw [calls_unfiltered named, split, List.map_append, List.map_cons]
    · rwa [typedNodes_messageCall]

/-- What is left out introduces nothing for the selected messages. -/
def FilterLeavesOutOwn (settings : Settings) (set : ModelSet) : Prop :=
  ∀ message id, Introduces set message id →
    settings.selects message.description.name = false →
      ∀ other ∈ selectedMessages settings set, id ∉ typedNodes other

theorem leavesOutOwn_iff (named : messageCalls? settings.unfiltered set = some calls) :
    LeavesOutOwn (definitionsCalls settings set) calls settings.takes ↔
      FilterLeavesOutOwn settings set := by
  constructor
  · intro own message id introduces leftOut other selected
    rw [← typedNodes_messageCall settings (interchangeOf set).isSome]
    rw [selectedMessages, List.mem_filter] at selected
    refine own _ id ((introduces_iff named).mpr ⟨message, rfl, introduces⟩) ?_ _ ?_ ?_
    · rwa [takes_messageCall]
    · rw [calls_unfiltered named]
      exact List.mem_map_of_mem selected.1
    · rw [takes_messageCall]
      exact selected.2
  · intro own call id introduces leftOut other member isChosen
    obtain ⟨message, rfl, introduced⟩ := (introduces_iff named).mp introduces
    rw [calls_unfiltered named] at member
    obtain ⟨selected, inMessages, rfl⟩ := List.mem_map.mp member
    rw [takes_messageCall] at leftOut isChosen
    rw [typedNodes_messageCall]
    exact own message id introduced leftOut selected (List.mem_filter.mpr ⟨inMessages, isChosen⟩)

/-! ## Results of messages -/

/-- A call of a production that succeeds has its result in the report. -/
theorem exists_result (success : (produce settings set).outcome = .ok report)
    (named : messageCalls? settings set = some calls) {call : Call} (member : call ∈ calls) :
    ∃ compiled ∈ report.models,
      IsResult (definitionsCalls settings set ++ calls) call compiled.withoutSource := by
  obtain ⟨again, namedAgain, results⟩ := results_of_produce success
  rw [named, Option.some.injEq] at namedAgain
  subst namedAgain
  obtain ⟨before, after, split⟩ :=
    List.append_of_mem (List.mem_append_right (definitionsCalls settings set) member)
  obtain ⟨result, found, returned⟩ := results.exists_getElem? split
  obtain ⟨compiled, inReport, rfl⟩ := List.mem_map.mp (List.mem_of_getElem? found)
  exact ⟨compiled, inReport, before, after, split, returned⟩

/-- Shared definitions are not described as a message. -/
theorem description_ne_of_call (named : messageCalls? settings set = some calls)
    {call shared : Call} (member : call ∈ calls)
    (isShared : shared ∈ definitionsCalls settings set) :
    shared.model.description ≠ call.model.description := by
  rw [calls_eq_map named] at member
  obtain ⟨message, selected, rfl⟩ := List.mem_map.mp member
  rw [definitionsCalls, Option.mem_toList, Option.map_eq_some_iff] at isShared
  obtain ⟨definitions, found, rfl⟩ := isShared
  rw [model_messageCall]
  intro same
  have described : definitions.description = message.description := same
  exact description_ne_definitions selected
    (described.symm.trans (ModelSet.description_of_definitions? found))

/-- The model of a report that is described as a message is the result of its call. -/
theorem isResult_of_description (success : (produce settings set).outcome = .ok report)
    (named : messageCalls? settings set = some calls)
    (names : (calls.map (·.model.description.name)).Nodup) {call : Call} (member : call ∈ calls)
    {compiled : CompiledModel} (inReport : compiled ∈ report.models)
    (described : compiled.description = call.model.description) :
    IsResult (definitionsCalls settings set ++ calls) call compiled.withoutSource := by
  obtain ⟨again, namedAgain, results⟩ := results_of_produce success
  rw [named, Option.some.injEq] at namedAgain
  subst namedAgain
  obtain ⟨other, inCalls, result⟩ := exists_of_forall₂ results.forall₂
    (List.mem_map_of_mem (f := CompiledModel.withoutSource) inReport)
  obtain ⟨before, after, split, returned⟩ := id result
  have same : other.model.description = call.model.description :=
    (Compiler.described_of_compile returned).1.symm.trans described
  rcases List.mem_append.mp inCalls with isShared | isMessage
  · exact absurd same (description_ne_of_call named member isShared)
  · obtain rfl := List.inj_on_of_nodup_map names isMessage member (congrArg _ same)
    exact result

/-- The namespace of a production that compiles a message is valid. -/
theorem checkNamespace_of_produce (success : (produce settings set).outcome = .ok report)
    {message : Model} (selected : message ∈ selectedMessages settings set) :
    checkNamespace settings.space = .ok () := by
  obtain ⟨calls, named, -⟩ := succeed_of_produce success
  obtain ⟨call, made⟩ := exists_of_mapM_eq_some named selected
  have member := (mem_iff_of_mapM_eq_some named).mpr ⟨message, selected, made⟩
  obtain ⟨compiled, -, before, after, -, returned⟩ := exists_result success named member
  obtain ⟨segment, accepted, rfl⟩ := Option.map_eq_some_iff.mp made
  obtain ⟨rfl, legal⟩ := Naming.check_eq_ok_iff.mp (toOption_eq_some_iff.mp accepted)
  have whole := Naming.checkNamespace_eq_ok_iff.mp (Compiler.checkNamespace_of_compile returned)
  dsimp only at whole
  rw [Naming.segments_inside legal] at whole
  exact Naming.checkNamespace_eq_ok_iff.mpr fun part inSpace =>
    whole part (List.mem_append_left _ inSpace)

/-- Where no two models share a namespace, every document of a model is left. -/
theorem content?_of_produce (valid : checkNamespace settings.space = .ok ())
    (success : (produce settings set).outcome = .ok report)
    (apart : ∀ segments, segmentsOf settings set = some segments → segments.Nodup)
    {compiled : CompiledModel} (member : compiled ∈ report.models) {document : Document}
    (inModel : document ∈ modelDocuments compiled) :
    (produce settings set).content? document.space document.fileName = some document.content := by
  obtain ⟨progress, segments, steady, models, found, spaces, own, documents, placed⟩ :=
    steady_of_produce valid success
  have inner : ∀ model ∈ progress.models, model.space ≠ settings.space := by
    intro model inProgress same
    have inSpaces := List.mem_map_of_mem (f := CompiledModel.space) inProgress
    rw [spaces, same] at inSpaces
    obtain ⟨segment, -, whole⟩ := List.mem_map.mp inSpaces
    exact Naming.inside_ne whole
  have distinct : ((produce settings set).documents.map (·.path settings.destination)).Nodup := by
    rw [documents, steady.documents, Artifact.nodup_paths_iff steady.models valid placed inner,
      spaces]
    exact (apart segments found).map fun _ _ => Naming.inside_inj.mp
  have keys : ((produce settings set).documents.reverse.map fun document =>
      (document.space, document.fileName)).Nodup := by
    rw [List.map_reverse, List.nodup_reverse]
    refine (List.pairwise_map.mp distinct).imp ?_ |> List.pairwise_map.mpr
    intro document later different same
    obtain ⟨space, name⟩ := Prod.mk.inj same
    exact different (by rw [Document.path, Document.path, Document.directory,
      Document.directory, space, name])
  have there : document ∈ (produce settings set).documents.reverse := by
    rw [List.mem_reverse, documents, steady.documents, ← models]
    exact List.mem_append_left _ (List.mem_flatMap.mpr ⟨compiled, member, inModel⟩)
  rw [Production.content?, (find?_eq_some_iff_of_nodup keys).mpr ⟨there, rfl⟩]
  rfl

/-- The types and the binding tree of a message are left in its documents. -/
theorem contents_of_produce (valid : checkNamespace settings.space = .ok ())
    (success : (produce settings set).outcome = .ok report)
    (apart : ∀ segments, segmentsOf settings set = some segments → segments.Nodup)
    {compiled : CompiledModel} (member : compiled ∈ report.models)
    (bound : compiled.options.bindingConfig = true) :
    (produce settings set).content? compiled.space "types.json" =
        some (typesDocument compiled).content ∧
      (produce settings set).content? compiled.space "binding-config.json" =
        some (bindingDocument compiled).content := by
  have types : typesDocument compiled ∈ modelDocuments compiled := by simp [modelDocuments]
  have binding : bindingDocument compiled ∈ modelDocuments compiled := by
    simp [modelDocuments, bound]
  exact ⟨content?_of_produce valid success apart member types,
    content?_of_produce valid success apart member binding⟩

/-- Every message has its binding tree described. -/
theorem bindingConfig_of_result {all : List Call} {message : Model} {call : Call}
    {compiled : CompiledModel} {hasInterchange : Bool}
    (made : messageCall? settings hasInterchange message = some call)
    (result : IsResult all call compiled) : compiled.options.bindingConfig = true := by
  obtain ⟨before, after, -, returned⟩ := result
  rw [(Compiler.described_of_compile returned).2.2]
  obtain ⟨segment, -, rfl⟩ := Option.map_eq_some_iff.mp made
  cases hasInterchange <;> rfl

theorem description_of_result {all : List Call} {message : Model} {call : Call}
    {compiled : CompiledModel} {hasInterchange : Bool}
    (made : messageCall? settings hasInterchange message = some call)
    (result : IsResult all call compiled) : compiled.description = message.description := by
  obtain ⟨before, after, -, returned⟩ := result
  rw [(Compiler.described_of_compile returned).1, model_of_messageCall? made]
  rfl

/-- A filter leaves namespaces apart. -/
theorem nodup_segments_of_unfiltered
    (named : messageCalls? settings.unfiltered set = some calls)
    (apart : ∀ segments, segmentsOf settings.unfiltered set = some segments → segments.Nodup)
    {segments : List String} (found : segmentsOf settings set = some segments) :
    segments.Nodup := by
  obtain ⟨whole, foundAll, -⟩ := spaces_of_messageCalls? named
  have distinct := apart whole foundAll
  obtain ⟨own, mine, rfl⟩ := Option.map_eq_some_iff.mp found
  obtain ⟨others, theirs, rfl⟩ := Option.map_eq_some_iff.mp foundAll
  rw [selectedMessages_unfiltered] at theirs
  have part := sublist_of_mapM_eq_some theirs List.filter_sublist mine
  exact distinct.sublist (part.append_left _)

/-- The models of calls are those of the set. -/
theorem storedIn_of_calls {identities : NodeId → Option Container}
    (stored : ∀ model ∈ set.models, model.root.StoredIn identities)
    (named : messageCalls? settings set = some calls) :
    ∀ call ∈ definitionsCalls settings set ++ calls, call.model.root.StoredIn identities := by
  intro call member
  rcases List.mem_append.mp member with isShared | isMessage
  · rw [definitionsCalls, Option.mem_toList, Option.map_eq_some_iff] at isShared
    obtain ⟨definitions, found, rfl⟩ := isShared
    exact stored definitions (List.mem_of_find?_eq_some found)
  · obtain ⟨model, inSet, -, made⟩ := exists_model_of_call named isMessage
    rw [model_of_messageCall? made]
    exact stored model inSet

/-! ## Both runs -/

/-- What is the same in both runs has the same output. -/
theorem sameOutput_of_eq {filtered : Report} (valid : checkNamespace settings.space = .ok ())
    (apart : ∀ segments, segmentsOf settings.unfiltered set = some segments → segments.Nodup)
    (apart' : ∀ segments, segmentsOf settings set = some segments → segments.Nodup)
    (success : (produce settings.unfiltered set).outcome = .ok report)
    (success' : (produce settings set).outcome = .ok filtered) {compiled other : CompiledModel}
    (inReport : compiled ∈ report.models) (inFiltered : other ∈ filtered.models)
    (bound : compiled.options.bindingConfig = true)
    (same : compiled.withoutSource = other.withoutSource) :
    SameOutput (produce settings.unfiltered set) (produce settings set) compiled other := by
  have shown : ∀ {α : Type} (show_ : CompiledModel → α),
      (∀ model : CompiledModel, show_ model.withoutSource = show_ model) →
        show_ compiled = show_ other :=
    fun show_ plain => Artifact.eq_of_withoutSource same show_ plain
  have space := shown CompiledModel.space fun _ => rfl
  have validToo : checkNamespace settings.unfiltered.space = .ok () := valid
  have boundToo : other.options.bindingConfig = true :=
    shown CompiledModel.options (fun _ => rfl) ▸ bound
  obtain ⟨types, binding⟩ := contents_of_produce validToo success apart inReport bound
  obtain ⟨types', binding'⟩ := contents_of_produce valid success' apart' inFiltered boundToo
  rw [← shown typesDocument fun _ => rfl, ← space] at types'
  rw [← shown bindingDocument fun _ => rfl, ← space] at binding'
  exact ⟨space, shown CompiledModel.types fun _ => rfl, shown CompiledModel.bindings fun _ => rfl,
    ⟨_, types, types'⟩, ⟨_, binding, binding'⟩⟩

/-- The calls of a run without its filter, of which the run with it takes some.  Both
succeed. -/
structure Compared (settings : Settings) (set : ModelSet) (calls : List Call) : Prop where
  named : messageCalls? settings.unfiltered set = some calls
  named' : messageCalls? settings set = some (calls.filter settings.takes)
  distinct : (definitionsCalls settings set ++ calls).Nodup
  names : (calls.map (·.model.description.name)).Nodup
  succeed : Succeed (definitionsCalls settings set ++ calls)
  succeed' : Succeed (definitionsCalls settings set ++ calls.filter settings.takes)

namespace Compared

theorem distinct' (compared : Compared settings set calls) :
    (definitionsCalls settings set ++ calls.filter settings.takes).Nodup :=
  compared.distinct.sublist (List.filter_sublist.append_left _)

theorem names' (compared : Compared settings set calls) :
    ((calls.filter settings.takes).map (·.model.description.name)).Nodup :=
  compared.names.sublist (List.filter_sublist.map _)

/-- Where the output is the same, what is left out introduces nothing for the selected
messages: the first of them that is compiled with it would have a type more. -/
theorem leavesOutOwn {identities : NodeId → Option Container} {filtered : Report}
    (compared : Compared settings set calls)
    (stored : ∀ call ∈ definitionsCalls settings set ++ calls,
      call.model.root.StoredIn identities)
    (success : (produce settings.unfiltered set).outcome = .ok report)
    (success' : (produce settings set).outcome = .ok filtered)
    (alike : ∀ message ∈ selectedMessages settings set, ∃ compiled ∈ report.models,
      ∃ other ∈ filtered.models, compiled.description = message.description ∧
        other.description = message.description ∧
          SameOutput (produce settings.unfiltered set) (produce settings set) compiled other) :
    FilterLeavesOutOwn settings set := by
  rw [← leavesOutOwn_iff compared.named]
  intro call id introduces leftOut other inCalls isChosen reached
  obtain ⟨first, compiled, compiled', inCalls, firstChosen, result, result', fewer⟩ :=
    introduces.exists_fewer_types stored compared.succeed compared.succeed' leftOut inCalls
      isChosen reached
  have inFiltered : first ∈ calls.filter settings.takes :=
    List.mem_filter.mpr ⟨inCalls, firstChosen⟩
  obtain ⟨message, selected, made⟩ := (mem_iff_of_mapM_eq_some compared.named').mp inFiltered
  have described : first.model.description = message.description := by
    rw [model_of_messageCall? made]
    rfl
  obtain ⟨model, inReport, model', inReport', same, same', output⟩ := alike message selected
  have own := isResult_of_description success compared.named compared.names inCalls inReport
    (same.trans described.symm)
  have own' := isResult_of_description success' compared.named' compared.names' inFiltered
    inReport' (same'.trans described.symm)
  obtain rfl := result.unique compared.distinct own
  obtain rfl := result'.unique compared.distinct' own'
  have types : model.withoutSource.types = model'.withoutSource.types := output.types
  rw [types] at fewer
  exact absurd fewer (lt_irrefl _)

/-- Where what is left out introduces nothing for the selected messages, each of them has the
same result. -/
theorem exists_sameOutput {identities : NodeId → Option Container} {filtered : Report}
    (compared : Compared settings set calls)
    (stored : ∀ call ∈ definitionsCalls settings set ++ calls,
      call.model.root.StoredIn identities)
    (apart : ∀ segments, segmentsOf settings.unfiltered set = some segments → segments.Nodup)
    (success : (produce settings.unfiltered set).outcome = .ok report)
    (success' : (produce settings set).outcome = .ok filtered)
    (own : FilterLeavesOutOwn settings set) {message : Model}
    (selected : message ∈ selectedMessages settings set) :
    ∃ compiled ∈ report.models, ∃ other ∈ filtered.models,
      compiled.description = message.description ∧ other.description = message.description ∧
        SameOutput (produce settings.unfiltered set) (produce settings set) compiled other := by
  obtain ⟨call, made⟩ := exists_of_mapM_eq_some compared.named' selected
  have inFiltered := (mem_iff_of_mapM_eq_some compared.named').mpr ⟨message, selected, made⟩
  obtain ⟨inCalls, isChosen⟩ := List.mem_filter.mp inFiltered
  obtain ⟨compiled, inReport, result⟩ := exists_result success compared.named inCalls
  obtain ⟨other, inReport', result'⟩ := exists_result success' compared.named' inFiltered
  have same := result.eq_of_filter compared.distinct stored compared.succeed
    ((leavesOutOwn_iff compared.named).mpr own) inCalls isChosen result'
  have described := description_of_result made result
  have described' := description_of_result made result'
  have bound := bindingConfig_of_result made result
  have valid := checkNamespace_of_produce success' selected
  have apart' : ∀ segments, segmentsOf settings set = some segments → segments.Nodup :=
    fun _ => nodup_segments_of_unfiltered compared.named apart
  exact ⟨compiled, inReport, other, inReport', described, described',
    sameOutput_of_eq valid apart apart' success success' inReport inReport' bound same⟩

end Compared

/-- Two runs that succeed can be compared. -/
theorem exists_compared {filtered : Report}
    (apart : ∀ segments, segmentsOf settings.unfiltered set = some segments → segments.Nodup)
    (success : (produce settings.unfiltered set).outcome = .ok report)
    (success' : (produce settings set).outcome = .ok filtered) :
    ∃ calls, Compared settings set calls := by
  obtain ⟨calls, named, succeed⟩ := succeed_of_produce success
  obtain ⟨calls', named', succeed'⟩ := succeed_of_produce success'
  obtain rfl := calls_filter named named'
  obtain ⟨distinct, names⟩ := nodup_of_segments named apart
  exact ⟨calls, named, named', distinct, names, succeed, succeed'⟩

/-- With a filter the output for the selected messages is the same as without it exactly when
no message that is left out introduces a container of one of them. -/
theorem sameOutput_iff_leaves_out_own {identities : NodeId → Option Container}
    {filtered : Report} (stored : ∀ model ∈ set.models, model.root.StoredIn identities)
    (apart : ∀ segments, segmentsOf settings.unfiltered set = some segments → segments.Nodup)
    (success : (produce settings.unfiltered set).outcome = .ok report)
    (success' : (produce settings set).outcome = .ok filtered) :
    (∀ message ∈ selectedMessages settings set, ∃ compiled ∈ report.models,
        ∃ other ∈ filtered.models, compiled.description = message.description ∧
          other.description = message.description ∧
            SameOutput (produce settings.unfiltered set) (produce settings set) compiled other) ↔
      FilterLeavesOutOwn settings set := by
  obtain ⟨calls, compared⟩ := exists_compared apart success success'
  have storedCalls := storedIn_of_calls stored compared.named
  rw [definitionsCalls_unfiltered] at storedCalls
  constructor
  · exact compared.leavesOutOwn storedCalls success success'
  · exact fun own _ => compared.exists_sameOutput storedCalls apart success success' own

end

/-! ## A party in several messages -/

/-- A segment with the name of a party. -/
def party : Container where
  id := ⟨"party", []⟩
  kind := .segment
  name := "party"
  code := some "NAD"
  truncatable := false
  documentation := none
  children := [⟨.once, .value ⟨"name", .field, none, []⟩⟩]
  segments := []

/-- A model that has the party. -/
def withParty (name version : String) : Model where
  description := ⟨name, version⟩
  delimiters := .edifact
  root := .container
    { id := ⟨name, []⟩
      kind := .segmentGroup
      name := "document"
      code := none
      truncatable := false
      documentation := none
      children := []
      segments := [⟨.once, .container party⟩] }
  source := none

/-- An invoice and an order with one party. -/
def partners : ModelSet where
  models := [withParty "INVOIC" "D03B", withParty "ORDERS" "D03B"]
  interchange := none

/-- The same messages and shared definitions that have the party first. -/
def acquainted : ModelSet where
  models := withParty "__modelset_definitions" "local" :: partners.models
  interchange := none

/-- Settings that select the order. -/
def onlyOrders : Settings :=
  { everyMessage with filter := some ["ORDERS"] }

theorem storedIn_acquainted :
    ∀ model ∈ acquainted.models, model.root.StoredIn (Schema.containerOf acquainted.models) := by
  have listed : ∀ name version, (withParty name version).root.containers =
      (withParty name version).root.container?.toList ++ [party] := fun _ _ => rfl
  simp only [acquainted, partners, List.forall_mem_cons]
  refine ⟨?_, ?_, ?_, nofun⟩ <;>
  · intro container member
    rw [listed, withParty, Schema.Node.container?, Option.toList_some, List.singleton_append,
      List.mem_pair] at member
    rcases member with rfl | rfl <;> rfl

/-- The invoice introduces nothing for the order, since the shared definitions have the
party. -/
theorem filterLeavesOutOwn_acquainted : FilterLeavesOutOwn onlyOrders acquainted := by
  have nodes : ∀ name version, typedNodes (withParty name version) =
      [⟨name, []⟩, ⟨"party", []⟩] := fun _ _ => rfl
  have messages : acquainted.messages =
      [withParty "INVOIC" "D03B", withParty "ORDERS" "D03B"] := rfl
  have selects : selectedMessages onlyOrders acquainted = [withParty "ORDERS" "D03B"] := rfl
  have shared : acquainted.definitions? =
      some (withParty "__modelset_definitions" "local") := rfl
  rintro message id ⟨before, after, split, reached, fresh⟩ leftOut other selected inOther
  have member : message ∈ acquainted.messages := by simp [split]
  rw [selects, List.mem_singleton] at selected
  subst selected
  have party_ : id ≠ ⟨"party", []⟩ := by
    rintro rfl
    refine fresh (withParty "__modelset_definitions" "local") (by simp [shared]) ?_
    simp [nodes]
  rw [nodes, List.mem_pair] at inOther
  obtain rfl := inOther.resolve_right party_
  rw [messages, List.mem_pair] at member
  rcases member with rfl | rfl
  · simp [nodes] at reached
  · cases leftOut

/-- The order has the type of the party from the shared definitions, with the invoice and
without it. -/
theorem order_keeps_shared_party :
    ∃ report filtered, (produce onlyOrders.unfiltered acquainted).outcome = .ok report ∧
      (produce onlyOrders acquainted).outcome = .ok filtered ∧
        ∀ message ∈ selectedMessages onlyOrders acquainted, ∃ compiled ∈ report.models,
          ∃ other ∈ filtered.models, compiled.description = message.description ∧
            other.description = message.description ∧
              SameOutput (produce onlyOrders.unfiltered acquainted)
                (produce onlyOrders acquainted) compiled other := by
  have success : (produce onlyOrders.unfiltered acquainted).outcome = .ok _ := rfl
  have success' : (produce onlyOrders acquainted).outcome = .ok _ := rfl
  have segments : segmentsOf onlyOrders.unfiltered acquainted =
      some ["common", "invoic", "orders"] := rfl
  have apart : ∀ names, segmentsOf onlyOrders.unfiltered acquainted = some names →
      names.Nodup := by
    intro names found
    obtain rfl := Option.some.inj (segments.symm.trans found)
    decide
  refine ⟨_, _, success, success', ?_⟩
  exact (sameOutput_iff_leaves_out_own storedIn_acquainted apart success success').mpr
    filterLeavesOutOwn_acquainted

/-- Without shared definitions the invoice takes the type of the party with it.  An order that
is compiled on its own has the type in its own namespace, and its types are described
differently. -/
theorem order_takes_over_party :
    (ModelSet.empty.insert? (withParty "INVOIC" "D03B")).bind
        (·.insert? (withParty "ORDERS" "D03B")) = some partners ∧
      (∀ model ∈ partners.models, model.validate = .ok ()) ∧
      segmentsOf onlyOrders.unfiltered partners = some ["invoic", "orders"] ∧
      ∃ report filtered, (produce onlyOrders.unfiltered partners).outcome = .ok report ∧
        (produce onlyOrders partners).outcome = .ok filtered ∧
          report.models.map (fun model => model.types.map (·.qualifiedName)) =
            [["com.acme.invoic.Party", "com.acme.invoic.Document"],
              ["com.acme.orders.Document"]] ∧
          filtered.models.map (fun model => model.types.map (·.qualifiedName)) =
            [["com.acme.orders.Party", "com.acme.orders.Document"]] ∧
          (produce onlyOrders.unfiltered partners).content? "com.acme.orders" "types.json" ≠
            (produce onlyOrders partners).content? "com.acme.orders" "types.json" ∧
          (produce onlyOrders.unfiltered partners).content? "com.acme.orders"
              "binding-config.json" ≠
            (produce onlyOrders partners).content? "com.acme.orders" "binding-config.json" := by
  have success : (produce onlyOrders.unfiltered partners).outcome = .ok _ := rfl
  have success' : (produce onlyOrders partners).outcome = .ok _ := rfl
  refine ⟨rfl, ?_, rfl, _, _, success, success', ?_, ?_, ?_, ?_⟩
  · simp only [partners, List.forall_mem_cons]
    exact ⟨rfl, rfl, nofun⟩
  · decide +kernel
  · decide +kernel
  · decide +kernel
  · decide +kernel

end FlatMessage.Project
