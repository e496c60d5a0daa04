import FlatMessage.Project.Production
import FlatMessage.Proofs.Flushing.Compiling

/-!
# Productions with another flush option

A production asks every compilation for the flush option of its settings, also that of the
shared definitions.  So productions whose settings differ in the option alone yield the
same documents, succeed or fail alike, and report the same models up to the option.
-/

namespace FlatMessage

namespace Keyed

variable {α β : Type} (change : α → β)

theorem map_insert (key : String) (value : α) (table : List (String × α)) :
    (insert key value table).map (Prod.map id change) =
      insert key (change value) (table.map (Prod.map id change)) := by
  induction table with
  | nil => rfl
  | cons binding rest ih =>
      obtain ⟨name, old⟩ := binding
      by_cases same : name = key
      · simp [insert, same]
      · by_cases before : key < name
        · simp [insert, same, before]
        · simp [insert, same, before, ih]

/-- The last binding of a key wins, whatever the values are changed into. -/
theorem map_ofList (bindings : List (String × α)) :
    (ofList bindings).map (Prod.map id change) =
      ofList (bindings.map (Prod.map id change)) := by
  rw [ofList, ofList, List.foldl_map]
  apply (List.foldl_hom (List.map (Prod.map id change)) ..).symm
  intro table binding
  exact (map_insert change binding.1 binding.2 table).symm

end Keyed

namespace Interchange

/-- A message of an interchange with the flush option set. -/
def Message.flushing (flag : Bool) (message : Message) : Message :=
  { message with model := message.model.flushing flag }

/-- A factory whose messages have the flush option set. -/
def Factory.flushing (flag : Bool) (factory : Factory) : Factory :=
  { factory with messages := factory.messages.map (Prod.map id (Message.flushing flag)) }

/-- The messages are assembled into an interchange with the same documents. -/
theorem assemble_flushing (flag : Bool) (properties : Schema.InterchangeProperties)
    (space : String) (messages : List Message) :
    assemble properties space (messages.map (Message.flushing flag)) =
      (assemble properties space messages).map fun assembled =>
        (assembled.1.flushing flag, assembled.2) := by
  have listed : messagesDocument space (messages.map (Message.flushing flag)) =
      messagesDocument space messages := by
    rw [messagesDocument, messagesDocument, List.map_map]
    rfl
  have enveloped : ∀ flavour version,
      interchangeDocument space flavour version (messages.map (Message.flushing flag)) =
        interchangeDocument space flavour version messages := by
    intro flavour version
    rw [interchangeDocument, interchangeDocument, List.map_map]
    rfl
  have found : ∀ flavour,
      factoryDocument space flavour (messages.map (Message.flushing flag)) =
        factoryDocument space flavour messages := by
    intro flavour
    rw [factoryDocument, factoryDocument, List.map_map]
    rfl
  unfold assemble
  cases flavourOf properties with
  | error error => rfl
  | ok flavour =>
      have table := Keyed.map_ofList (Message.flushing flag)
        (messages.map fun message => (message.name, message))
      rw [List.map_map] at table
      simp only [bind, Except.bind, Except.map, listed, enveloped, found, Factory.flushing,
        table, List.map_map]
      rfl

end Interchange

namespace Project

open Compiler (CompiledModel Target)
open Interchange (Message)
open Schema (Model ModelSet)

/-- Settings with the flush option set. -/
def Settings.flushing (flag : Bool) (settings : Settings) : Settings :=
  { settings with flushSegments := flag }

/-- What has been compiled, with the flush option set. -/
def Progress.flushing (flag : Bool) (progress : Progress) : Progress :=
  { progress with
    registry := progress.registry.flushing flag
    models := progress.models.map (CompiledModel.flushing flag)
    messages := progress.messages.map (Message.flushing flag) }

/-- A report on models with the flush option set. -/
def Report.flushing (flag : Bool) (report : Report) : Report :=
  { report with
    models := report.models.map (CompiledModel.flushing flag)
    interchange := report.interchange.map (Interchange.Factory.flushing flag) }

/-- A production of models with the flush option set. -/
def Production.flushing (flag : Bool) (production : Production) : Production :=
  { production with outcome := production.outcome.map (Report.flushing flag) }

variable (flag : Bool)

namespace Progress

theorem addModel_flushing (progress : Progress) (target : Target) (model : Model) :
    (progress.flushing flag).addModel (target.flushing flag) model =
      (progress.addModel target model).map fun added =>
        (added.1.flushing flag, added.2.flushing flag) := by
  unfold addModel
  rw [flushing, Compiler.compile_flushing]
  rcases Compiler.compile target model progress.registry with ⟨error | compiled, registry⟩
  · rfl
  · simp [Except.map, flushing, Artifact.modelDocuments_flushing]

theorem addDefinitions_flushing (progress : Progress) (settings : Settings)
    (set : ModelSet) :
    (progress.flushing flag).addDefinitions (settings.flushing flag) set =
      (progress.addDefinitions settings set).map (flushing flag) := by
  unfold addDefinitions
  cases set.definitions? with
  | none => rfl
  | some definitions =>
      let target : Target :=
        { space := inside settings.space commonSegment
          options :=
            { Compiler.Options.definitions with flushSegments := settings.flushSegments } }
      have added := progress.addModel_flushing flag target definitions
      change ((progress.flushing flag).addModel (target.flushing flag) definitions).bind _ = _
      rw [added]
      change _ = ((progress.addModel target definitions).bind _).map _
      cases progress.addModel target definitions <;> rfl

theorem addMessage_flushing (progress : Progress) (settings : Settings)
    (hasInterchange : Bool) (model : Model) :
    (progress.flushing flag).addMessage (settings.flushing flag) hasInterchange model =
      (progress.addMessage settings hasInterchange model).map (flushing flag) := by
  unfold addMessage
  dsimp only
  cases Naming.namespaceSegment model.description.name with
  | error illegal => rfl
  | ok segment =>
      let options : Compiler.Options :=
        if hasInterchange then .interchangeMessage else .standalone
      let target : Target :=
        { space := inside settings.space segment
          options := { options with flushSegments := settings.flushSegments } }
      have added := progress.addModel_flushing flag target model
      change ((progress.flushing flag).addModel (target.flushing flag) model).bind _ = _
      rw [added]
      change _ = ((progress.addModel target model).bind _).map _
      rcases progress.addModel target model with error | ⟨compiled, later⟩
      · rfl
      · cases hasInterchange <;> simp [Except.map, Except.bind, flushing, Message.flushing]
        rfl

theorem addMessages_flushing (progress : Progress) (settings : Settings)
    (hasInterchange : Bool) (models : List Model) :
    (progress.flushing flag).addMessages (settings.flushing flag) hasInterchange models =
      ((progress.addMessages settings hasInterchange models).1,
        (progress.addMessages settings hasInterchange models).2.flushing flag) := by
  induction models generalizing progress with
  | nil => rfl
  | cons model rest ih =>
      rw [addMessages, addMessages, addMessage_flushing]
      cases progress.addMessage settings hasInterchange model with
      | error error => rfl
      | ok later => exact ih later

theorem finish_flushing (progress : Progress) (settings : Settings)
    (interchange : Option Schema.InterchangeProperties) :
    (progress.flushing flag).finish (settings.flushing flag) interchange =
      (progress.finish settings interchange).flushing flag := by
  have classes : (progress.flushing flag).messages.map Message.rootType =
      progress.messages.map Message.rootType := by
    rw [flushing, List.map_map]
    rfl
  have isEmpty : (progress.flushing flag).messages.isEmpty = progress.messages.isEmpty := by
    simp [flushing]
  unfold finish
  dsimp only
  rw [classes, isEmpty]
  cases interchange with
  | none => rfl
  | some properties =>
      dsimp only
      split
      · rfl
      · have assembled := Interchange.assemble_flushing flag properties settings.space
          progress.messages
        have messages : (progress.flushing flag).messages =
          progress.messages.map (Message.flushing flag) := rfl
        have space : (settings.flushing flag).space = settings.space := rfl
        rw [messages, space, assembled]
        rcases Interchange.assemble properties settings.space progress.messages with
          error | ⟨factory, more⟩ <;> rfl

end Progress

/-- The flush option of a production is that of all models it reports, and shows in nothing
else. -/
theorem produce_flushing (flag : Bool) (settings : Settings) (set : ModelSet) :
    produce (settings.flushing flag) set = (produce settings set).flushing flag := by
  have start : Progress.start.flushing flag = Progress.start := rfl
  have selected : selectedMessages (settings.flushing flag) set =
      selectedMessages settings set := rfl
  have definitions :=
    Progress.addDefinitions_flushing flag Progress.start settings set
  rw [start] at definitions
  unfold produce
  dsimp only
  rw [definitions, selected]
  cases Progress.start.addDefinitions settings set with
  | error error => rfl
  | ok shared =>
      dsimp only [Except.map]
      rw [Progress.addMessages_flushing]
      rcases shared.addMessages settings (interchangeOf set).isSome
        (selectedMessages settings set) with ⟨error | _, progress⟩
      · rfl
      · exact progress.finish_flushing flag settings (interchangeOf set)

end Project

end FlatMessage
