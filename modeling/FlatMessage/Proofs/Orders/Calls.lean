import FlatMessage.Project.Production
import FlatMessage.Proofs.Orders.Owners
import Mathlib.Data.List.Forall2

/-!
# The calls of a production

A production compiles the shared definitions and then the selected messages, each in its
namespace and with what was registered before.  It succeeds when all these calls do and the
interchange can be assembled, and it reports what the calls return.
-/

namespace FlatMessage

open Schema (Model ModelSet)

namespace Compiler.Objects

variable {calls more : List Call} {call : Call}

/-- What a call of a sequence returns. -/
def IsResult (calls : List Call) (call : Call) (compiled : CompiledModel) : Prop :=
  ∃ before after, calls = before ++ call :: after ∧
    (compile call.target call.model (registryAfter before)).1 = .ok compiled

theorem IsResult.append {compiled : CompiledModel} (result : IsResult calls call compiled)
    (more : List Call) : IsResult (calls ++ more) call compiled := by
  obtain ⟨before, after, rfl, success⟩ := result
  exact ⟨before, after ++ more, by simp, success⟩

/-- What the calls of a sequence return, in order. -/
inductive AreResults : List Call → List CompiledModel → Prop
  | nil : AreResults [] []
  | concat {calls : List Call} {results : List CompiledModel} {call : Call}
      {compiled : CompiledModel} (earlier : AreResults calls results)
      (success : (compile call.target call.model (registryAfter calls)).1 = .ok compiled) :
      AreResults (calls ++ [call]) (results ++ [compiled])

theorem AreResults.forall₂ {results : List CompiledModel} (all : AreResults calls results) :
    List.Forall₂ (IsResult calls) calls results := by
  induction all with
  | nil => exact .nil
  | @concat calls results call compiled earlier success ih =>
      refine List.rel_append (ih.imp fun _ _ result => result.append [call]) ?_
      exact .cons ⟨calls, [], rfl, success⟩ .nil

/-- The result of a call stands where the call does. -/
theorem AreResults.exists_getElem? {results : List CompiledModel}
    (all : AreResults calls results) {before after : List Call}
    (split : calls = before ++ call :: after) :
    ∃ compiled, results[before.length]? = some compiled ∧
      (compile call.target call.model (registryAfter before)).1 = .ok compiled := by
  induction all generalizing after with
  | nil => simp at split
  | @concat calls results last compiled earlier success ih =>
      have length : results.length = calls.length := earlier.forall₂.length_eq.symm
      rcases List.eq_nil_or_concat after with rfl | ⟨after, final, rfl⟩
      · obtain ⟨rfl, same⟩ := List.append_inj' split rfl
        obtain rfl := List.singleton_inj.mp same
        exact ⟨compiled, by rw [← length, List.getElem?_concat_length], success⟩
      · rw [List.concat_eq_append, ← List.cons_append, ← List.append_assoc] at split
        obtain ⟨rfl, -⟩ := List.append_inj' split rfl
        obtain ⟨result, found, returned⟩ := ih rfl
        have within := (List.getElem?_eq_some_iff.mp found).1
        exact ⟨result, by rw [List.getElem?_append_left within, found], returned⟩

theorem succeed_nil : Succeed [] := by
  intro before call after whole
  simp at whole

theorem Succeed.of_append (succeed : Succeed (calls ++ more)) : Succeed calls := by
  rintro before call after rfl
  exact succeed before call (after ++ more) (by simp)

theorem succeed_concat_iff :
    Succeed (calls ++ [call]) ↔
      Succeed calls ∧
        ∃ compiled, (compile call.target call.model (registryAfter calls)).1 = .ok compiled := by
  constructor
  · intro succeed
    exact ⟨succeed.of_append, succeed calls call [] rfl⟩
  · rintro ⟨succeed, last⟩ before other after whole
    rcases List.eq_nil_or_concat after with rfl | ⟨after, final, rfl⟩
    · obtain ⟨rfl, same⟩ := List.append_inj' whole rfl
      obtain rfl := List.singleton_inj.mp same
      exact last
    · rw [List.concat_eq_append, ← List.cons_append, ← List.append_assoc] at whole
      exact succeed before other after (List.append_inj' whole rfl).1

end Compiler.Objects

namespace Project

open Artifact (modelDocuments)
open Compiler (CompiledModel Options)
open Compiler.Objects (AreResults Call IsResult Succeed registryAfter registryAfter_concat
  succeed_nil succeed_concat_iff)
open Interchange (Message)

/-- The call that compiles shared definitions. -/
def definitionsCall (settings : Settings) (model : Model) : Call where
  target :=
    { space := inside settings.space commonSegment
      options := { Options.definitions with flushSegments := settings.flushSegments } }
  model := model.withoutSource

/-- The call that compiles a message whose name has a segment. -/
def messageCall? (settings : Settings) (hasInterchange : Bool) (model : Model) :
    Option Call :=
  (Naming.namespaceSegment model.description.name).toOption.map fun segment =>
    { target :=
        { space := inside settings.space segment
          options :=
            { (if hasInterchange then Options.interchangeMessage else Options.standalone) with
              flushSegments := settings.flushSegments } }
      model := model.withoutSource }

/-- The calls that compile the shared definitions of a set. -/
def definitionsCalls (settings : Settings) (set : ModelSet) : List Call :=
  (set.definitions?.map (definitionsCall settings)).toList

/-- The calls that compile the selected messages of a set. -/
def messageCalls? (settings : Settings) (set : ModelSet) : Option (List Call) :=
  (selectedMessages settings set).mapM (messageCall? settings (interchangeOf set).isSome)

/-- The message that a compiled model is in an interchange. -/
def messageOf (model : CompiledModel) : Message where
  name := model.description.name
  bindingPath := Naming.bindingPath model.space
  model := model

/-- The messages that compiled models are, if there is an interchange. -/
def joined (hasInterchange : Bool) (models : List CompiledModel) : List Message :=
  if hasInterchange then models.map messageOf else []

theorem joined_append (hasInterchange : Bool) (models more : List CompiledModel) :
    joined hasInterchange (models ++ more) =
      joined hasInterchange models ++ joined hasInterchange more := by
  cases hasInterchange <;> simp [joined]

/-- What has been compiled is what a sequence of calls returns. -/
structure Progress.Follows (progress : Progress) (calls : List Call) : Prop where
  registry : progress.registry = registryAfter calls
  succeed : Succeed calls
  results : AreResults calls (progress.models.map CompiledModel.withoutSource)
  documents : progress.documents = progress.models.flatMap modelDocuments

namespace Progress

variable {progress later : Progress} {settings : Settings} {calls more : List Call}
  {hasInterchange : Bool}

theorem follows_start : Progress.start.Follows [] where
  registry := rfl
  succeed := succeed_nil
  results := .nil
  documents := rfl

/-- A model can be added when its call succeeds. -/
theorem Follows.addModel (follows : progress.Follows calls) (call : Call) {model : Model}
    (same : call.model = model.withoutSource) (succeed : Succeed (calls ++ [call])) :
    ∃ compiled later, progress.addModel call.target model = .ok (compiled, later) := by
  obtain ⟨-, plain, success⟩ := succeed_concat_iff.mp succeed
  rw [same, Compiler.compile_withoutSource, ← follows.registry] at success
  rcases outcome : Compiler.compile call.target model progress.registry with
    ⟨_ | compiled, registry⟩
  · rw [outcome] at success
    cases success
  · exact ⟨compiled, _, by rw [Progress.addModel, outcome]⟩

/-- A model that is added is what its call returns. -/
theorem Follows.of_addModel (follows : progress.Follows calls) (call : Call) {model : Model}
    {compiled : CompiledModel} (same : call.model = model.withoutSource)
    (added : progress.addModel call.target model = .ok (compiled, later)) :
    later.Follows (calls ++ [call]) ∧ later.models = progress.models ++ [compiled] ∧
      later.messages = progress.messages ∧ compiled.description = model.description ∧
      compiled.space = call.target.space := by
  unfold Progress.addModel at added
  rcases outcome : Compiler.compile call.target model progress.registry with
    ⟨_ | result, registry⟩
  · rw [outcome] at added
    cases added
  · rw [outcome] at added
    cases added
    have plain := Compiler.compile_withoutSource call.target model progress.registry
    rw [outcome, ← same, follows.registry] at plain
    have success : (Compiler.compile call.target call.model (registryAfter calls)).1 =
        .ok compiled.withoutSource := by
      rw [plain]
      rfl
    refine ⟨⟨?_, ?_, ?_, ?_⟩, rfl, rfl, ?_⟩
    · rw [registryAfter_concat, plain]
    · exact succeed_concat_iff.mpr ⟨follows.succeed, _, success⟩
    · rw [List.map_append, List.map_singleton]
      exact follows.results.concat success
    · simp [follows.documents]
    · unfold Compiler.compile at outcome
      split at outcome
      · cases outcome
      · split at outcome <;> cases outcome
        exact ⟨rfl, rfl⟩

/-- A message can be added when its call succeeds. -/
theorem Follows.addMessage (follows : progress.Follows calls) {call : Call} {model : Model}
    (named : messageCall? settings hasInterchange model = some call)
    (succeed : Succeed (calls ++ [call])) :
    ∃ later, progress.addMessage settings hasInterchange model = .ok later := by
  unfold messageCall? at named
  unfold Progress.addMessage
  cases segment : Naming.namespaceSegment model.description.name with
  | error illegal =>
      rw [segment] at named
      cases named
  | ok name =>
      rw [segment] at named
      cases named
      obtain ⟨compiled, later, added⟩ := follows.addModel _ rfl succeed
      dsimp only at added ⊢
      rw [segment]
      dsimp only
      rw [added]
      cases hasInterchange
      · exact ⟨_, rfl⟩
      · exact ⟨_, rfl⟩

/-- A message that is added is what its call returns. -/
theorem Follows.of_addMessage (follows : progress.Follows calls) {model : Model}
    (added : progress.addMessage settings hasInterchange model = .ok later) :
    ∃ call compiled,
      messageCall? settings hasInterchange model = some call ∧
        later.Follows (calls ++ [call]) ∧ later.models = progress.models ++ [compiled] ∧
        later.messages = progress.messages ++ joined hasInterchange [compiled] := by
  unfold Progress.addMessage at added
  unfold messageCall?
  dsimp only at added
  cases segment : Naming.namespaceSegment model.description.name with
  | error illegal =>
      rw [segment] at added
      cases added
  | ok name =>
      rw [segment] at added
      obtain ⟨⟨compiled, other⟩, added, same⟩ := bind_eq_ok_iff.mp added
      obtain ⟨kept, models, messages, description, space⟩ :=
        follows.of_addModel ⟨_, model.withoutSource⟩ rfl added
      refine ⟨_, compiled, rfl, ?_⟩
      cases hasInterchange with
      | false =>
          cases same
          exact ⟨kept, models, by simp [messages, joined]⟩
      | true =>
          cases same
          refine ⟨⟨kept.registry, kept.succeed, kept.results, kept.documents⟩, models, ?_⟩
          simp [messages, joined, messageOf, description, space]

/-- Messages can be added when their calls succeed. -/
theorem Follows.addMessages (follows : progress.Follows calls) {models : List Model}
    (named : models.mapM (messageCall? settings hasInterchange) = some more)
    (succeed : Succeed (calls ++ more)) :
    ∃ later, progress.addMessages settings hasInterchange models = (.ok (), later) := by
  induction models generalizing progress calls more with
  | nil => exact ⟨progress, rfl⟩
  | cons model rest ih =>
      rw [List.mapM_cons, Option.bind_eq_bind, Option.bind_eq_some_iff] at named
      obtain ⟨call, first, named⟩ := named
      rw [Option.bind_eq_bind, Option.bind_eq_some_iff] at named
      obtain ⟨others, named, same⟩ := named
      cases same
      rw [List.append_cons] at succeed
      obtain ⟨middle, added⟩ := follows.addMessage first succeed.of_append
      obtain ⟨again, compiled, firstAgain, kept, -⟩ := follows.of_addMessage added
      rw [first, Option.some.injEq] at firstAgain
      subst firstAgain
      rw [Progress.addMessages, added]
      exact ih kept named succeed

/-- Messages that are added are what their calls return. -/
theorem Follows.of_addMessages (follows : progress.Follows calls) {models : List Model}
    (added : progress.addMessages settings hasInterchange models = (.ok (), later)) :
    ∃ more compiled,
      models.mapM (messageCall? settings hasInterchange) = some more ∧
        later.Follows (calls ++ more) ∧ later.models = progress.models ++ compiled ∧
        later.messages = progress.messages ++ joined hasInterchange compiled := by
  induction models generalizing progress calls with
  | nil =>
      cases added
      exact ⟨[], [], rfl, by rwa [List.append_nil], by simp, by simp [joined]⟩
  | cons model rest ih =>
      rw [Progress.addMessages] at added
      cases first : progress.addMessage settings hasInterchange model with
      | error error =>
          rw [first] at added
          cases added
      | ok middle =>
          rw [first] at added
          obtain ⟨call, compiled, named, kept, models, messages⟩ := follows.of_addMessage first
          obtain ⟨more, others, namedAll, keptAll, modelsAll, messagesAll⟩ := ih kept added
          refine ⟨call :: more, compiled :: others, ?_, ?_, ?_, ?_⟩
          · rw [List.mapM_cons, named, namedAll]
            rfl
          · rwa [List.append_cons]
          · rw [modelsAll, models, List.append_assoc, List.singleton_append]
          · rw [messagesAll, messages, List.append_assoc, ← joined_append,
              List.singleton_append]

/-- Shared definitions can be compiled when their call succeeds. -/
theorem exists_addDefinitions {set : ModelSet}
    (succeed : Succeed (definitionsCalls settings set)) :
    ∃ later, Progress.start.addDefinitions settings set = .ok later := by
  unfold definitionsCalls at succeed
  unfold Progress.addDefinitions
  cases found : set.definitions? with
  | none => exact ⟨_, rfl⟩
  | some definitions =>
      rw [found] at succeed
      obtain ⟨compiled, later, added⟩ :=
        follows_start.addModel (definitionsCall settings definitions) rfl succeed
      unfold definitionsCall at added
      dsimp only at added ⊢
      rw [added]
      exact ⟨_, rfl⟩

/-- Shared definitions are what their call returns. -/
theorem follows_of_addDefinitions {set : ModelSet}
    (added : Progress.start.addDefinitions settings set = .ok later) :
    later.Follows (definitionsCalls settings set) ∧
      later.models.length = (definitionsCalls settings set).length ∧ later.messages = [] := by
  unfold Progress.addDefinitions at added
  unfold definitionsCalls
  cases found : set.definitions? with
  | none =>
      rw [found] at added
      cases added
      exact ⟨follows_start, rfl, rfl⟩
  | some definitions =>
      rw [found] at added
      obtain ⟨⟨compiled, other⟩, added, same⟩ := bind_eq_ok_iff.mp added
      cases same
      obtain ⟨kept, models, messages, -⟩ := follows_start.of_addModel
        (definitionsCall settings definitions) rfl added
      exact ⟨kept, by rw [models]; rfl, messages⟩

end Progress

/-! ## Productions -/

variable {settings : Settings} {set : ModelSet} {calls : List Call}

/-- What a production has compiled when it finishes. -/
structure IsFinished (settings : Settings) (set : ModelSet) (calls : List Call)
    (progress : Progress) (definitions messages : List CompiledModel) : Prop where
  follows : progress.Follows (definitionsCalls settings set ++ calls)
  models : progress.models = definitions ++ messages
  counted : definitions.length = (definitionsCalls settings set).length
  messages : progress.messages = joined (interchangeOf set).isSome messages
  finished : produce settings set = progress.finish settings (interchangeOf set)

/-- A production finishes when all its calls succeed. -/
theorem exists_isFinished (named : messageCalls? settings set = some calls)
    (succeed : Succeed (definitionsCalls settings set ++ calls)) :
    ∃ progress definitions messages,
      IsFinished settings set calls progress definitions messages := by
  obtain ⟨shared, first⟩ := Progress.exists_addDefinitions succeed.of_append
  obtain ⟨follows, counted, none_⟩ := Progress.follows_of_addDefinitions first
  obtain ⟨progress, added⟩ := follows.addMessages named succeed
  obtain ⟨more, compiled, again, followsAll, models, messages⟩ := follows.of_addMessages added
  rw [← messageCalls?, named, Option.some.injEq] at again
  subst again
  refine ⟨progress, shared.models, compiled, followsAll, models, counted, ?_, ?_⟩
  · rw [messages, none_, List.nil_append]
  · unfold produce
    dsimp only
    rw [first]
    dsimp only
    rw [added]

/-- The calls of a production that succeeds succeed. -/
theorem succeed_of_produce {report : Report}
    (success : (produce settings set).outcome = .ok report) :
    ∃ calls, messageCalls? settings set = some calls ∧
      Succeed (definitionsCalls settings set ++ calls) := by
  unfold produce at success
  dsimp only at success
  cases first : Progress.start.addDefinitions settings set with
  | error error =>
      rw [first] at success
      cases success
  | ok shared =>
      rw [first] at success
      dsimp only at success
      obtain ⟨follows, -⟩ := Progress.follows_of_addDefinitions first
      rcases second : shared.addMessages settings (interchangeOf set).isSome
        (selectedMessages settings set) with ⟨_ | _, progress⟩
      · rw [second] at success
        cases success
      · obtain ⟨calls, -, named, kept, -⟩ := follows.of_addMessages second
        exact ⟨calls, named, kept.succeed⟩

theorem Progress.models_of_finish {progress : Progress}
    {interchange : Option Schema.InterchangeProperties} {report : Report}
    (success : (progress.finish settings interchange).outcome = .ok report) :
    report.models = progress.models := by
  unfold finish at success
  dsimp only at success
  split at success
  · cases success
    rfl
  · split at success
    · cases success
      rfl
    · split at success <;> cases success
      rfl

/-- A production that succeeds reports what its calls return. -/
theorem results_of_produce {report : Report}
    (success : (produce settings set).outcome = .ok report) :
    ∃ calls, messageCalls? settings set = some calls ∧
      AreResults (definitionsCalls settings set ++ calls)
        (report.models.map CompiledModel.withoutSource) := by
  obtain ⟨calls, named, succeed⟩ := succeed_of_produce success
  obtain ⟨progress, definitions, messages, finished⟩ := exists_isFinished named succeed
  rw [finished.finished] at success
  rw [Progress.models_of_finish success]
  exact ⟨calls, named, finished.follows.results⟩

end Project

end FlatMessage
