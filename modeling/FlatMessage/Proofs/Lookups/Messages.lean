import FlatMessage.Proofs.Lookups.Tables
import FlatMessage.Proofs.Orders.Ownership

/-!
# What is found under the name of a message

The messages of an interchange are listed with their bindings, their root types stand in a
list of their own, and a report and a factory find them by name.  A set tells messages apart
by name and version, but a report returns the first model of a name and a factory knows the
last one.  So what is found is what was compiled exactly when all compiled models have
different names, the shared definitions among them.

The type of a root is created with its model or found in the registry, where every type has
an identifier for a name and stands in a valid namespace.  So no qualified name of a root
holds a line break, and the list of root types has one line for each of them.
-/

namespace FlatMessage

/-! ## Lines of a text -/

namespace Text

/-- Whether a text has no line breaks. -/
def IsLine (text : String) : Prop :=
  '\n' ∉ text.toList

/-- Lines that are all ended are found in the text again, with nothing behind the last. -/
theorem split_lines {lines : List String} (all : ∀ line ∈ lines, IsLine line) :
    split (· == '\n') (String.join (lines.map (· ++ "\n"))) = lines ++ [""] := by
  induction lines with
  | nil => rfl
  | cons line rest ih =>
      rw [List.forall_mem_cons] at all
      have alone : splitChars (· == '\n') line.toList = [line.toList] := by
        apply splitChars_of_forall_not
        intro c member
        rw [beq_eq_false_iff_ne]
        rintro rfl
        exact all.1 member
      have chars : (String.join ((line :: rest).map (· ++ "\n"))).toList =
          line.toList ++ '\n' :: (String.join (rest.map (· ++ "\n"))).toList := by
        simp
      rw [split, chars, splitChars_append (by decide), alone, List.map_append, ← split,
        ih all.2]
      simp

end Text

/-! ## Names of root types -/

open Naming (IsIdentifier checkNamespace)
open Text (IsLine)

theorem Naming.IsIdentifier.isLine {identifier : String} (legal : IsIdentifier identifier) :
    IsLine identifier := by
  intro member
  have word := legal.isWord '\n' member
  simp [Naming.isWord, Text.isAsciiAlphanumeric, Text.isAsciiLetter, Text.isAsciiLower,
    Text.isAsciiUpper, Text.isDigit] at word

theorem Naming.isLine_of_checkNamespace {space : String} (valid : checkNamespace space = .ok ()) :
    IsLine space := by
  intro member
  obtain ⟨piece, inPieces, inPiece⟩ :=
    Text.exists_mem_splitChars (· == '.') member (by decide)
  have legal : IsIdentifier (String.ofList piece) :=
    Naming.checkNamespace_eq_ok_iff.mp valid _ (List.mem_map_of_mem inPieces)
  exact legal.isLine (by simpa using inPiece)

namespace Compiler

open Codec (CompiledType)
open Schema (Model)

/-- The name of a type is an identifier in a valid namespace. -/
structure IsTitled (type : CompiledType) : Prop where
  name : IsIdentifier type.name
  space : checkNamespace type.space = .ok ()

theorem IsTitled.isLine {type : CompiledType} (titled : IsTitled type) :
    IsLine type.qualifiedName := by
  have name := titled.name.isLine
  have space := Naming.isLine_of_checkNamespace titled.space
  simp_all [IsLine, CompiledType.qualifiedName]

/-- All registered types are titled. -/
def Registry.Titled (registry : Registry) : Prop :=
  ∀ entry ∈ registry, IsTitled entry.2

section

variable {target : Target} {registry : Registry} {compiled : CompiledModel}

/-- A model that is compiled among titled types has a titled root, and what it creates is
titled. -/
theorem Registry.Titled.compile {model : Model} (titled : registry.Titled)
    (success : (Compiler.compile target model registry).1 = .ok compiled) :
    (Compiler.compile target model registry).2.Titled ∧ IsTitled compiled.root := by
  have valid := checkNamespace_of_compile success
  have enough : ∀ type, MadeType target.space IsTitled type → IsTitled type :=
    fun type made => ⟨made.legal, by rw [made.placed, valid]⟩
  have start : registry.All IsTitled := titled
  obtain ⟨added, -, -, -, outcome⟩ := exists_added_of_compile enough start model
  exact ⟨start.compile enough model, (outcome compiled success).2⟩

end

namespace Objects

variable {calls : List Call} {results : List CompiledModel}

/-- Calls that all succeed leave titled types, and what they return has titled roots. -/
theorem AreResults.titled (all : AreResults calls results) :
    (registryAfter calls).Titled ∧ ∀ compiled ∈ results, IsTitled compiled.root := by
  induction all with
  | nil => exact ⟨nofun, nofun⟩
  | @concat calls results call compiled earlier success ih =>
      obtain ⟨titled, root⟩ := ih.1.compile success
      rw [registryAfter_concat, List.forall_mem_append, List.forall_mem_singleton]
      exact ⟨titled, ih.2, root⟩

end Objects

end Compiler

namespace Project

open Artifact (classList)
open Compiler (CompiledModel)
open Interchange (Factory Message messagesDocument)
open Schema (Description InterchangeProperties Model ModelSet)

/-! ## Lookups -/

/-- What is found under the names of messages are the messages, and nothing else is
found. -/
structure LookupsAgree (report : Report) (factory : Factory) (messages : List Message) :
    Prop where
  model : ∀ message ∈ messages, report.model? message.name = some message.model
  codec : ∀ message ∈ messages,
    (factory.message? message.name).map Message.model = some message.model
  path : ∀ message ∈ messages,
    (factory.message? message.name).map Message.bindingPath = some message.bindingPath
  counted : factory.messages.length = messages.length

section

variable {report : Report} {factory : Factory} {messages : List Message}
  {shared : CompiledModel}

/-- Lookups agree when no name stands for two compiled models. -/
theorem lookupsAgree_iff_nodup (models : report.models = shared :: messages.map Message.model)
    (entries : factory.messages =
      Keyed.ofList (messages.map fun message => (message.name, message)))
    (named : ∀ message ∈ messages, message.name = message.model.description.name)
    (apart : ∀ message ∈ messages, shared ≠ message.model) :
    LookupsAgree report factory messages ↔
      (shared.description.name :: messages.map Message.name).Nodup := by
  have keys : (messages.map fun message => (message.name, message)).map Prod.fst =
      messages.map Message.name := by
    rw [List.map_map]
    rfl
  constructor
  · intro agree
    have distinct : (messages.map Message.name).Nodup := by
      rw [← keys, ← Keyed.length_ofList_eq_iff, ← entries, agree.counted, List.length_map]
    refine List.nodup_cons.mpr ⟨?_, distinct⟩
    intro member
    obtain ⟨message, inMessages, same⟩ := List.mem_map.mp member
    have found := agree.model message inMessages
    rw [Report.model?, models, List.find?_cons_of_pos (by simp [same])] at found
    exact apart message inMessages (Option.some.inj found)
  · intro distinct
    have names : report.models.map (·.description.name) =
        shared.description.name :: messages.map Message.name := by
      rw [models, List.map_cons, List.map_map]
      exact congrArg _ (List.map_congr_left fun message member => (named message member).symm)
    have found : ∀ message ∈ messages, factory.message? message.name = some message := by
      intro message member
      rw [Factory.message?, entries]
      exact Keyed.get?_ofList (keys ▸ distinct.of_cons) (List.mem_map_of_mem member)
    refine ⟨?_, ?_, ?_, ?_⟩
    · intro message member
      rw [Report.model?, find?_eq_some_iff_of_nodup (names ▸ distinct), models]
      exact ⟨List.mem_cons_of_mem _ (List.mem_map_of_mem member), (named message member).symm⟩
    · intro message member
      rw [found message member]
      rfl
    · intro message member
      rw [found message member]
      rfl
    · rw [entries, Keyed.length_ofList_eq_iff.mpr (keys ▸ distinct.of_cons), List.length_map]

end

/-! ## Listings -/

/-- The messages that a production lists are those that it has compiled. -/
structure ListsMessages (settings : Settings) (set : ModelSet) (report : Report)
    (messages : List Message) : Prop where
  models : ∃ shared, shared.description = Description.definitions ∧
    report.models = shared :: messages.map Message.model
  descriptions : messages.map (·.model.description) =
    (selectedMessages settings set).map Model.description
  named : ∀ message ∈ messages, message.name = message.model.description.name
  bindings : messagesDocument settings.space messages ∈ (produce settings set).documents
  classes : classList settings.space (messages.map Message.rootType) ∈
    (produce settings set).documents
  lines : Text.split (· == '\n')
      (classList settings.space (messages.map Message.rootType)).content =
    messages.map Message.rootType ++ [""]

section

variable {settings : Settings} {set : ModelSet} {report : Report}

/-- An interchange with messages is finished with a factory for them and with the documents
that list them. -/
theorem Progress.exists_factory_of_finish {progress : Progress}
    {properties : InterchangeProperties} (some_ : progress.messages ≠ [])
    (success : (progress.finish settings (some properties)).outcome = .ok report) :
    report.models = progress.models ∧
      (∃ factory, report.interchange = some factory ∧ factory.messages =
        Keyed.ofList (progress.messages.map fun message => (message.name, message))) ∧
      messagesDocument settings.space progress.messages ∈
        (progress.finish settings (some properties)).documents ∧
      classList settings.space (progress.messages.map Message.rootType) ∈
        (progress.finish settings (some properties)).documents := by
  have filled : progress.messages.isEmpty = false := by simpa using some_
  unfold finish at success ⊢
  dsimp only at success ⊢
  rw [filled] at success ⊢
  unfold Interchange.assemble at success ⊢
  cases known : Interchange.flavourOf properties with
  | error error =>
      rw [known] at success
      cases success
  | ok flavour =>
      rw [known] at success
      cases success
      refine ⟨rfl, ⟨_, rfl, rfl⟩, ?_, ?_⟩ <;> simp [bind, Except.bind]

/-- A production with shared definitions, an interchange and a selected message lists its
messages and makes a factory for them. -/
theorem listsMessages_of_produce {definitions : Model} {properties : InterchangeProperties}
    (shared : set.definitions? = some definitions)
    (standard : set.interchange = some properties)
    (some_ : selectedMessages settings set ≠ [])
    (success : (produce settings set).outcome = .ok report) :
    ∃ messages factory, ListsMessages settings set report messages ∧
      report.interchange = some factory ∧
        factory.messages =
          Keyed.ofList (messages.map fun message => (message.name, message)) := by
  obtain ⟨calls, named, succeed⟩ := succeed_of_produce success
  obtain ⟨progress, first, compiled, finished⟩ := exists_isFinished named succeed
  obtain ⟨definitionsFirst, descriptions⟩ := finished.descriptions named
  have interchange : interchangeOf set = some properties := by
    rw [interchangeOf, shared, standard]
    rfl
  have joined : progress.messages = compiled.map messageOf := by
    rw [finished.messages, interchange]
    rfl
  have models : progress.messages.map Message.model = compiled := by
    rw [joined, List.map_map]
    exact List.map_id compiled
  have filled : progress.messages ≠ [] := by
    rintro empty
    rw [← models, empty] at descriptions
    exact some_ (List.map_eq_nil_iff.mp descriptions.symm)
  have titled : ∀ message ∈ progress.messages, Compiler.IsTitled message.model.root := by
    intro message member
    refine finished.follows.results.titled.2 message.model.withoutSource (List.mem_map_of_mem ?_)
    rw [finished.models, ← models]
    exact List.mem_append_right _ (List.mem_map_of_mem member)
  rw [finished.finished, interchange] at success
  obtain ⟨all, ⟨factory, found, entries⟩, bindings, classes⟩ :=
    Progress.exists_factory_of_finish filled success
  rw [← interchange, ← finished.finished] at bindings classes
  refine ⟨progress.messages, factory, ⟨?_, ?_, ?_, bindings, classes, ?_⟩, found, entries⟩
  · rw [shared] at definitionsFirst
    obtain ⟨library, rfl, described⟩ := List.map_eq_singleton_iff.mp definitionsFirst
    rw [finished.models, ← models] at all
    exact ⟨library, described.trans (ModelSet.description_of_definitions? shared), all⟩
  · rw [← descriptions, joined, List.map_map]
    rfl
  · rw [joined, List.forall_mem_map]
    exact fun _ _ => rfl
  · refine Text.split_lines ?_
    rw [List.forall_mem_map]
    exact fun message member => (titled message member).isLine

/-- Of a set with shared definitions and an interchange, every selected message is listed,
and lookups agree with what is listed when no two of the compiled models have one name. -/
theorem lookupsAgree_iff_names_distinct {definitions : Model}
    {properties : InterchangeProperties} (shared : set.definitions? = some definitions)
    (standard : set.interchange = some properties)
    (some_ : selectedMessages settings set ≠ [])
    (success : (produce settings set).outcome = .ok report) :
    ∃ messages factory, ListsMessages settings set report messages ∧
      report.interchange = some factory ∧
        (LookupsAgree report factory messages ↔
          (definitions.description.name ::
            (selectedMessages settings set).map (·.description.name)).Nodup) := by
  obtain ⟨messages, factory, listed, found, entries⟩ :=
    listsMessages_of_produce shared standard some_ success
  obtain ⟨library, described, models⟩ := listed.models
  refine ⟨messages, factory, listed, found, ?_⟩
  have names : messages.map Message.name =
      (selectedMessages settings set).map (·.description.name) := by
    have given := congrArg (List.map Description.name) listed.descriptions
    rw [List.map_map, List.map_map] at given
    exact (List.map_congr_left listed.named).trans given
  have apart : ∀ message ∈ messages, library ≠ message.model := by
    rintro message member rfl
    have selected := List.mem_map_of_mem (f := fun message => message.model.description) member
    rw [listed.descriptions] at selected
    obtain ⟨model, inSelected, same⟩ := List.mem_map.mp selected
    exact description_ne_definitions inSelected (same.trans described)
  rw [lookupsAgree_iff_nodup models entries listed.named apart, names, described,
    ModelSet.description_of_definitions? shared]

end

/-! ## Orders of two versions -/

/-- Shared definitions without types of their own. -/
def library : Model where
  description := .definitions
  delimiters := .edifact
  root := .container
    { id := ⟨"library", []⟩
      kind := .segmentGroup
      name := "library"
      code := none
      truncatable := false
      documentation := none
      children := []
      segments := [] }
  source := none

/-- An order and a later message of an interchange. -/
def traded (later : String) : ModelSet where
  models := [library, order "ORDERS" "D01B", order later "D03B"]
  interchange := some ⟨"UNEDIFACT", "D03B"⟩

/-- An order and an invoice are found by name. -/
theorem lookupsAgree_of_order_and_invoice :
    ∃ report messages factory,
      (produce everyMessage (traded "INVOIC")).outcome = .ok report ∧
        ListsMessages everyMessage (traded "INVOIC") report messages ∧
          report.interchange = some factory ∧ LookupsAgree report factory messages := by
  have shared : (traded "INVOIC").definitions? = some library := rfl
  have success : (produce everyMessage (traded "INVOIC")).outcome = .ok _ := rfl
  obtain ⟨messages, factory, listed, found, agree⟩ :=
    lookupsAgree_iff_names_distinct shared rfl (by decide) success
  exact ⟨_, messages, factory, success, listed, found, agree.mpr (by decide)⟩

/-- Two versions of one message are models that a set tells apart.  Both are compiled and
listed, but of one name the report finds the first, and the factory knows only the last. -/
theorem orders_found_by_name :
    ((ModelSet.empty.insert? library).bind (·.insert? (order "ORDERS" "D01B"))).bind
        (·.insert? (order "ORDERS" "D03B")) = some { traded "ORDERS" with interchange := none } ∧
      (∀ model ∈ (traded "ORDERS").models, model.validate = .ok ()) ∧
      ∃ report, (produce everyMessage (traded "ORDERS")).outcome = .ok report ∧
        report.models.map (·.description.key) =
          ["__modelset_definitions:local", "ORDERS:D01B", "ORDERS:D03B"] ∧
        (report.model? "ORDERS").map (·.description.version) = some "D01B" ∧
        report.rootClasses.length = 2 ∧
          ∃ factory, report.interchange = some factory ∧ factory.messages.length = 1 ∧
            (factory.message? "ORDERS").map (·.model.description.version) = some "D03B" := by
  have success : (produce everyMessage (traded "ORDERS")).outcome = .ok _ := rfl
  refine ⟨rfl, ?_, _, success, ?_, ?_, ?_, ?_⟩
  · simp only [traded, List.forall_mem_cons]
    exact ⟨rfl, rfl, rfl, nofun⟩
  · rfl
  · rfl
  · rfl
  · exact ⟨_, rfl, rfl, rfl⟩

end Project

end FlatMessage
