import FlatMessage.Proofs.Common.Bindings
import FlatMessage.Proofs.Common.Imports
import FlatMessage.Proofs.Orders.Detours
import FlatMessage.Proofs.Orders.Ownership

/-!
# Types of shared definitions

A production compiles the shared definitions before all messages.  So the type object of
every container in their tree is made by that call, in the namespace of the definitions,
and no message makes another one: wherever a message has the container in its tree, its
property is bound to that object.
-/

namespace FlatMessage

namespace Compiler.Objects

open Codec (CompiledType)
open Schema (Container NodeId)

section

variable {identities : NodeId → Option Container} {calls before after : List Call}
  {call : Call} {compiled : CompiledModel}

/-- What stands in a list stands in a longer one. -/
theorem getElem?_of_prefix {α : Type} {items more : List α} (before : items <+: more)
    {position : Nat} {item : α} (found : items[position]? = some item) :
    more[position]? = some item := by
  obtain ⟨within, rfl⟩ := List.getElem?_eq_some_iff.mp found
  exact List.prefix_iff_getElem?.mp before position within

theorem Made.ReadsAs.mono {made : Made} {types more : List CompiledType}
    (reads : made.ReadsAs types compiled) (kept : types <+: more) : made.ReadsAs more compiled where
  root := getElem?_of_prefix kept reads.root
  types := reads.types.imp fun _ _ => getElem?_of_prefix kept

/-- A call makes the object of a container exactly when the container is in its model and
has none. -/
theorem Returned.mem_types_iff {root : Container} {store later : Store} {made : Made}
    {registry : Registry} (returned : Returned root store later made)
    (reads : later.ReadsAs registry) {id : NodeId} {number : Nat}
    (found : later.get? id = some number) :
    number ∈ made.types ↔ id ∈ root.containers.map Container.id ∧ store.get? id = none := by
  obtain ⟨added, entries, types, new⟩ := returned.appended
  have known : ∀ entry ∈ added, later.get? entry.1 = some entry.2 := by
    intro entry member
    rw [reads.get?_eq_some_iff_mem, entries]
    exact List.mem_append_right _ member
  rw [types, ← new id]
  constructor
  · intro member
    obtain ⟨entry, inAdded, rfl⟩ := List.mem_map.mp member
    rw [reads.id_eq found (known entry inAdded)]
    exact List.mem_map_of_mem inAdded
  · intro member
    obtain ⟨entry, inAdded, rfl⟩ := List.mem_map.mp member
    have same := known entry inAdded
    rw [found, Option.some.injEq] at same
    rw [same]
    exact List.mem_map_of_mem inAdded

/-- A successful call of a sequence makes type objects that are read, after the whole
sequence too, as what the compiler returns. -/
theorem exists_made (accepted : ∀ call ∈ calls, call.Accepted identities)
    (split : calls = before ++ call :: after)
    (success : (compile call.target call.model (registryAfter before)).1 = .ok compiled) :
    ∃ made root, ((storeAfter before).compile call.target call.model).1 = .ok made ∧
      call.model.root = .container root ∧
      Returned root (storeAfter before) (storeAfter (before ++ [call])) made ∧
      made.ReadsAs (registryAfter calls).types compiled := by
  subst split
  rw [List.append_cons, List.forall_mem_append, List.forall_mem_append,
    List.forall_mem_singleton] at accepted
  have aligned := aligned_after accepted.1.1
  obtain ⟨-, -, outcome⟩ := aligned.compile accepted.1.2
  rw [success] at outcome
  rw [storeAfter_concat, List.append_cons]
  cases made : ((storeAfter before).compile call.target call.model).1 with
  | error error =>
      rw [made] at outcome
      exact outcome.elim
  | ok result =>
      rw [made] at outcome
      obtain ⟨⟨root, tree, returned⟩, reads⟩ := outcome
      rw [← registryAfter_concat] at reads
      have grown := registryAfter_prefix (before ++ [call]) after
      exact ⟨result, root, rfl, tree, returned, reads.mono (grown.map Prod.snd)⟩

/-- Wherever a compiled model has a container, its property is bound to the object that is
registered for the container, and to the type that the object is read as. -/
theorem exists_bound (accepted : ∀ each ∈ calls, each.Accepted identities)
    (split : calls = before ++ call :: after) {made : Made} {root inner : Container}
    (tree : call.model.root = .container root)
    (returned : Returned root (storeAfter before) (storeAfter (before ++ [call])) made)
    (reads : made.ReadsAs (registryAfter calls).types compiled) {address : Address}
    (there : call.model.root.at? address = some (.container inner)) :
    ∃ number type, (storeAfter calls).get? inner.id = some number ∧
      (registryAfter calls).types[number]? = some type ∧
      (storeAfter calls).heap.at? (.object made.root) address = some (.object number) ∧
      (Codec.Binding.bean compiled.root).at? address = some (.bean type) := by
  have aligned := aligned_after accepted
  have stored := (accepted call (by simp [split])).stored
  rw [tree] at stored there
  have rooted : (storeAfter calls).get? root.id = some made.root := by
    rw [split, List.append_cons] at accepted ⊢
    exact (precedes_after accepted).found _ _ returned.found
  have isOf : (Bound.object made.root).IsOf (storeAfter calls) (.container root) :=
    ⟨made.root, rooted, rfl⟩
  obtain ⟨last, leads, number, known, rfl⟩ := aligned.exists_at? stored isOf there
  have readAs : (Bound.object made.root).binding? (registryAfter calls).types =
      some (.bean compiled.root) := by
    rw [Bound.binding?, reads.root]
    rfl
  obtain ⟨binding, leadsToo, read⟩ := Heap.exists_at?_of_types? aligned.types readAs leads
  obtain ⟨type, found, rfl⟩ := Option.map_eq_some_iff.mp read
  exact ⟨number, type, known, found, leads, leadsToo⟩

/-- Every container in the model of the first call has an object in the namespace of that
call. -/
theorem exists_first (accepted : call.Accepted identities)
    (success : (compile call.target call.model []).1 = .ok compiled) {id : NodeId}
    (member : id ∈ call.nodes) :
    ∃ number type, (storeAfter [call]).get? id = some number ∧
      (registryAfter [call]).types[number]? = some type ∧ type.space = call.target.space := by
  have none_ : ∀ call ∈ ([] : List Call), call.Accepted identities := nofun
  obtain ⟨-, ⟨added, grown, types⟩, -, named, -⟩ :=
    created_of_compile (List.forall_mem_nil _) success
  obtain ⟨type, known⟩ := exists_get?_of_success none_ accepted success member
  have reads := (aligned_after (List.forall_mem_singleton.mpr accepted)).toReadsAs
  obtain ⟨number, found, there⟩ := reads.registry_get?_eq_some_iff.mp known
  have same : (registryAfter [call]).types = compiled.types := by
    rw [types]
    exact congrArg Registry.types grown
  refine ⟨number, type, found, there, (named type ?_).2⟩
  rw [← same]
  exact List.mem_of_getElem? there

/-- The object of a container in the model of the first call is kept, and of all calls only
the first one makes it. -/
theorem exists_common (accepted : ∀ each ∈ call :: after, each.Accepted identities)
    (success : (compile call.target call.model []).1 = .ok compiled) {id : NodeId}
    (member : id ∈ call.nodes) :
    ∃ number type, (storeAfter (call :: after)).get? id = some number ∧
      (registryAfter (call :: after)).types[number]? = some type ∧
      type.space = call.target.space ∧
      ∀ before other rest root made, call :: after = before ++ other :: rest →
        other.model.root = .container root →
          Returned root (storeAfter before) (storeAfter (before ++ [other])) made →
            (number ∈ made.types ↔ before = []) := by
  obtain ⟨number, type, found, there, space⟩ :=
    exists_first (accepted call List.mem_cons_self) success member
  have kept : ∀ {more rest}, call :: after = (call :: more) ++ rest →
      (storeAfter (call :: more)).get? id = some number := by
    intro more rest split
    rw [split, List.forall_mem_append] at accepted
    have precedes : Precedes _ _ (storeAfter ([call] ++ more)) _ := precedes_after accepted.1
    exact precedes.found id number found
  refine ⟨number, type, kept (List.append_nil _).symm, ?_, space, ?_⟩
  · have grown := registryAfter_prefix [call] after
    exact getElem?_of_prefix (grown.map Prod.snd) there
  · intro before other rest root made split tree returned
    have early : ∀ each ∈ before ++ [other], each.Accepted identities := by
      rw [split, List.append_cons, List.forall_mem_append] at accepted
      exact accepted.1
    have reads := (aligned_after early).toReadsAs
    cases before with
    | nil =>
        obtain ⟨rfl, rfl⟩ := List.cons.inj split
        rw [returned.mem_types_iff reads found]
        rw [Call.nodes, tree] at member
        exact ⟨fun _ => rfl, fun _ => ⟨member, rfl⟩⟩
    | cons first more =>
        obtain ⟨rfl, rfl⟩ := List.cons.inj split
        have whole : call :: (more ++ other :: rest) = (call :: (more ++ [other])) ++ rest := by
          simp
        rw [returned.mem_types_iff reads (kept whole), kept rfl]
        simp

end

end Compiler.Objects

namespace Project

open Codec (CompiledType)
open Compiler (CompiledModel)
open Compiler.Objects (AreResults Call Made Returned exists_bound exists_common exists_made
  registryAfter storeAfter)
open Files (Tree)
open Schema (Container Model ModelAt ModelSet NodeId RefersTo)

/-- What a call makes that comes after `before`, and the model that is reported for it. -/
structure IsReported (calls : List Call) (models : List CompiledModel) (before : List Call)
    (call : Call) (made : Made) (compiled : CompiledModel) : Prop where
  makes : ((storeAfter before).compile call.target call.model).1 = .ok made
  reported : models[before.length]? = some compiled
  reads : made.ReadsAs (registryAfter calls).types compiled

/-- One type object stands for a container of the shared definitions in all models of a
production, whose first call compiles the definitions. -/
structure IsCommon (settings : Settings) (calls : List Call) (models : List CompiledModel)
    (shared : Container) (number : Nat) (type : CompiledType) : Prop where
  registered : (storeAfter calls).get? shared.id = some number
  read : (registryAfter calls).types[number]? = some type
  space : type.space = inside settings.space commonSegment
  /-- It is listed with the definitions and with no message. -/
  listed : ∀ before call after made compiled, calls = before ++ call :: after →
    IsReported calls models before call made compiled → (number ∈ made.types ↔ before = [])
  /-- Wherever a model has the container, its property is bound to the object. -/
  bound : ∀ before call after made compiled, calls = before ++ call :: after →
    IsReported calls models before call made compiled →
      ∀ address, call.model.root.at? address = some (.container shared) →
        (storeAfter calls).heap.at? (.object made.root) address = some (.object number) ∧
          (Codec.Binding.bean compiled.root).at? address = some (.bean type)

section

variable {settings : Settings} {calls : List Call} {models : List CompiledModel}
  {identities : NodeId → Option Container}

/-- Every call of a production makes what is reported for it. -/
theorem exists_isReported (accepted : ∀ call ∈ calls, call.Accepted identities)
    (results : AreResults calls (models.map CompiledModel.withoutSource))
    {before after : List Call} {call : Call} (split : calls = before ++ call :: after) :
    ∃ made compiled, IsReported calls models before call made compiled := by
  obtain ⟨plain, found, success⟩ := results.exists_getElem? split
  rw [List.getElem?_map] at found
  obtain ⟨compiled, reported, rfl⟩ := Option.map_eq_some_iff.mp found
  obtain ⟨made, root, makes, -, -, reads⟩ := exists_made accepted split success
  exact ⟨made, compiled, makes, reported, reads.root, reads.types⟩

/-- What is reported for a call was returned for the tree of its model. -/
theorem IsReported.exists_returned (accepted : ∀ call ∈ calls, call.Accepted identities)
    (results : AreResults calls (models.map CompiledModel.withoutSource))
    {before after : List Call} {call : Call} (split : calls = before ++ call :: after)
    {made : Made} {compiled : CompiledModel}
    (reported : IsReported calls models before call made compiled) :
    ∃ root, call.model.root = .container root ∧
      Returned root (storeAfter before) (storeAfter (before ++ [call])) made := by
  obtain ⟨plain, -, success⟩ := results.exists_getElem? split
  obtain ⟨again, root, makes, tree, returned, -⟩ := exists_made accepted split success
  rw [reported.makes, Except.ok.injEq] at makes
  subst makes
  exact ⟨root, tree, returned⟩

/-- Every container of the shared definitions has one type object. -/
theorem exists_isCommon {definitions : Model}
    (accepted : ∀ call ∈ definitionsCall settings definitions :: calls, call.Accepted identities)
    (results : AreResults (definitionsCall settings definitions :: calls)
      (models.map CompiledModel.withoutSource))
    {shared : Container} (member : shared ∈ definitions.root.containers) :
    ∃ number type, IsCommon settings (definitionsCall settings definitions :: calls) models
      shared number type := by
  obtain ⟨first, -, success⟩ := results.exists_getElem? (List.nil_append _).symm
  obtain ⟨number, type, found, there, space, listed⟩ :=
    exists_common accepted success (List.mem_map_of_mem member)
  refine ⟨number, type, found, there, space, ?_, ?_⟩
  · intro before call after made compiled split reported
    obtain ⟨root, tree, returned⟩ := reported.exists_returned accepted results split
    exact listed before call after root made split tree returned
  · intro before call after made compiled split reported address at_
    obtain ⟨root, tree, returned⟩ := reported.exists_returned accepted results split
    obtain ⟨number', type', known, read, leads, leadsToo⟩ :=
      exists_bound accepted split tree returned reported.reads at_
    rw [found, Option.some.injEq] at known
    subst known
    rw [there, Option.some.injEq] at read
    subst read
    exact ⟨leads, leadsToo⟩

end

/-- Wherever a document of a loaded set refers to a code in the shared definitions, its tree
has their first segment with the code.  When the set is compiled, every container of the
definitions has one type in their namespace: it is listed with them and with no message, and
every message that has the container in its tree is bound to it there. -/
theorem definitions_are_common {tree : Tree} (working : tree.working.IsWalkable)
    {reference base : String} {set : ModelSet}
    (loaded : ModelSet.load tree reference base = .ok set) {definitions : Model}
    (found : set.definitions? = some definitions) :
    ∃ home, ModelAt tree home definitions ∧
      (∀ model ∈ set.models, ∃ place, ModelAt tree place model ∧
        ∀ address code, RefersTo tree place home address code →
          ∃ shared ∈ definitions.root.containers,
            definitions.root.segment? code = some shared ∧
              model.root.at? address = some (.container shared)) ∧
      ∀ settings report, (produce settings set).outcome = .ok report →
        ∃ calls, messageCalls? settings set = some calls ∧
          report.models.length = calls.length + 1 ∧
          (∀ before call after, definitionsCall settings definitions :: calls =
              before ++ call :: after →
            ∃ made compiled, IsReported (definitionsCall settings definitions :: calls)
              report.models before call made compiled) ∧
          ∀ shared ∈ definitions.root.containers, ∃ number type,
            IsCommon settings (definitionsCall settings definitions :: calls) report.models
              shared number type := by
  obtain ⟨roots, history, loading, -, known, rfl, -⟩ := Schema.visits_of_load working loaded
  have models : loading.finish.models = history.map Prod.snd := known.models
  have all : ∀ model ∈ loading.finish.models, ∃ place, ModelAt tree place model := by
    rw [models]
    intro model member
    obtain ⟨entry, inHistory, rfl⟩ := List.mem_map.mp member
    exact ⟨entry.1, known.built entry inHistory⟩
  obtain ⟨home, has⟩ := all definitions (List.mem_of_find?_eq_some found)
  refine ⟨home, has, ?_, ?_⟩
  · intro model member
    obtain ⟨place, hasToo⟩ := all model member
    refine ⟨place, hasToo, ?_⟩
    intro address code refers
    obtain ⟨shared, first, there⟩ := hasToo.at?_of_refersTo has refers
    exact ⟨shared, Schema.Node.mem_containers_of_segment? first, first, there⟩
  · intro settings report success
    obtain ⟨calls, named, results⟩ := results_of_produce success
    have accepted := accepted_of_modelAt working all named
    have shared : definitionsCalls settings loading.finish =
        [definitionsCall settings definitions] := by
      rw [definitionsCalls, found]
      rfl
    rw [shared, List.singleton_append] at results accepted
    refine ⟨calls, named, ?_, ?_, ?_⟩
    · have length := results.forall₂.length_eq
      simpa using length.symm
    · exact fun before call after => exists_isReported accepted results
    · exact fun shared => exists_isCommon accepted results

/-! ## A chain of imports

The message `B` imports the message `A`, which imports the definitions.  The segment `N` of
the definitions is referred to inside the segment `M` of `A`, and `B` refers to `M`. -/

section

open Schema (Document Loading Loads Node addDocument readDocument)

/-- The definitions as a text. -/
def sharedText : String := String.join
  [ "<edimap>", "<description name='__modelset_definitions' version='local'/>",
    "<segments xmltag='L'>", "<segment segcode='N' xmltag='P'/>", "</segments>", "</edimap>" ]

def sharedDocument : Document where
  description := ⟨"__modelset_definitions", "local"⟩
  delimiters := Delimiter.Table.edifact
  imports := []
  interchange := none
  segments := .mk "segments" [("xmltag", "L")]
    [.mk "segment" [("segcode", "N"), ("xmltag", "P")] [] ""] ""

theorem parse_sharedText : Document.parse sharedText = .ok sharedDocument := by
  rw [Document.parse, Xml.read, Xml.marksOf, sharedText, String.toList_join]
  decide +kernel

/-- The message `A` as a text. -/
def middleText : String := String.join
  [ "<edimap>", "<import resource='l' namespace='l'/>", "<description name='A' version='1'/>",
    "<segments xmltag='A'>", "<segment segcode='M' xmltag='M'>", "<segment segref='l:N'/>",
    "</segment>", "</segments>", "</edimap>" ]

def middleDocument : Document where
  description := ⟨"A", "1"⟩
  delimiters := Delimiter.Table.edifact
  imports := [⟨"l", "l"⟩]
  interchange := none
  segments := .mk "segments" [("xmltag", "A")]
    [.mk "segment" [("segcode", "M"), ("xmltag", "M")]
      [.mk "segment" [("segref", "l:N")] [] ""] ""] ""

theorem parse_middleText : Document.parse middleText = .ok middleDocument := by
  rw [Document.parse, Xml.read, Xml.marksOf, middleText, String.toList_join]
  decide +kernel

/-- The message `B` as a text. -/
def outerText : String := String.join
  [ "<edimap>", "<import resource='a' namespace='a'/>", "<description name='B' version='1'/>",
    "<segments xmltag='B'>", "<segment segref='a:M'/>", "</segments>", "</edimap>" ]

def outerDocument : Document where
  description := ⟨"B", "1"⟩
  delimiters := Delimiter.Table.edifact
  imports := [⟨"a", "a"⟩]
  interchange := none
  segments := .mk "segments" [("xmltag", "B")] [.mk "segment" [("segref", "a:M")] [] ""] ""

theorem parse_outerText : Document.parse outerText = .ok outerDocument := by
  rw [Document.parse, Xml.read, Xml.marksOf, outerText, String.toList_join]
  decide +kernel

def chainFiles : List (String × Files.Entry) :=
  [ ("l", .file (Text.bytes sharedText)), ("a", .file (Text.bytes middleText)),
    ("b", .file (Text.bytes outerText)) ]

def chainTree : Tree where
  root := .directory [("w", .directory chainFiles)]
  working := ["w"]

theorem hasLegalNames_chain : chainTree.HasLegalNames := by
  have leaf := Tree.hasLegalNames_file
  refine Tree.hasLegalNames_directory (List.forall_mem_singleton.mpr ⟨by decide, ?_⟩)
  refine Tree.hasLegalNames_directory ?_
  simp [chainFiles, leaf]

theorem readDocument_chain {name text : String} {document : Document}
    (leads : chainTree.place? name = .ok ["w", name])
    (file : chainTree.root.at? ["w", name] = some (.file (Text.bytes text)))
    (parsed : Document.parse text = .ok document) (short : name.utf8ByteSize = 1) :
    readDocument chainTree name = .ok document := by
  have there := Schema.documentAt?_of_bytes file parsed
  apply Schema.readDocument_of_lt hasLegalNames_chain leads there
  rw [short]
  decide

/-- The message `A` refers to the segment of the definitions. -/
theorem refersTo_chain : RefersTo chainTree ["w", "a"] ["w", "l"] [0, 0] "N" :=
  ⟨middleDocument, _, "l:N", "l", ⟨"l", "l"⟩, Schema.documentAt?_of_bytes rfl parse_middleText,
    rfl, by decide, by decide, by decide, by decide⟩

/-- The documents of the chain are added one after the other. -/
def chainLoading : Except Schema.LoadError Loading := do
  let (shared, loading) ← addDocument chainTree "l" sharedDocument [] Loading.start
  let (root, loading) ← addDocument chainTree "a" middleDocument [("l", shared)] loading
  let (_, loading) ← addDocument chainTree "b" outerDocument [("a", root)] loading
  .ok loading

/-- The chain is loaded as the reference to `B` asks for. -/
theorem load_chain {loading : Loading} (added : chainLoading = .ok loading) :
    ModelSet.load chainTree "b" "" = .ok loading.finish := by
  obtain ⟨⟨shared, first⟩, addShared, rest⟩ := bind_eq_ok_iff.mp added
  obtain ⟨⟨root, second⟩, addMiddle, rest⟩ := bind_eq_ok_iff.mp rest
  obtain ⟨⟨last, third⟩, addOuter, same⟩ := bind_eq_ok_iff.mp rest
  obtain rfl := Except.ok.inj same
  have inShared : Loads chainTree ([chainTree.canonical "b"] ++ [chainTree.canonical "a"]) "l"
      Loading.start (.ok (shared, first)) :=
    .built rfl (by decide) (readDocument_chain rfl rfl parse_sharedText rfl) .nil addShared
  have inMiddle : Loads chainTree [chainTree.canonical "b"] "a" Loading.start
      (.ok (root, second)) :=
    .built rfl (by decide) (readDocument_chain rfl rfl parse_middleText rfl)
      (.cons (Schema.locate_of_plain (by decide) _) inShared .nil) addMiddle
  have inOuter : Loads chainTree [] "b" Loading.start (.ok (last, third)) :=
    .built rfl (by decide) (readDocument_chain rfl rfl parse_outerText rfl)
      (.cons (Schema.locate_of_plain (by decide) _) inMiddle .nil) addOuter
  have located : Schema.locate "b" "" = .ok "b" := Schema.locate_of_plain (by decide) _
  exact Schema.load_of_loads located (by decide) inOuter

/-- The identity of the container at an address in the model of a call. -/
def idAt? (call : Call) (address : Compiler.Address) : Option NodeId :=
  ((call.model.root.at? address).bind Node.container?).map Container.id

/-- The chain is loaded and compiled, and both messages have the segment in their trees. -/
theorem exists_chain :
    ∃ set definitions report calls, ModelSet.load chainTree "b" "" = .ok set ∧
      set.models.map Model.source = [some "l", some "a", some "b"] ∧
      set.definitions? = some definitions ∧ definitions.source = some "l" ∧
      (definitions.root.segment? "N").map Container.id = some ⟨"/w/l", [0]⟩ ∧
      (produce everyMessage set).outcome = .ok report ∧
      messageCalls? everyMessage set = some calls ∧
      calls.map (idAt? · [0, 0]) = [some ⟨"/w/l", [0]⟩, some ⟨"/w/l", [0]⟩] := by
  have runs : chainLoading.toOption.any (fun loading =>
      loading.finish.models.map Model.source == [some "l", some "a", some "b"] &&
        (loading.finish.definitions?.map fun definitions =>
          (definitions.source, (definitions.root.segment? "N").map Container.id)) ==
            some (some "l", some ⟨"/w/l", [0]⟩) &&
          (produce everyMessage loading.finish).outcome.isOk &&
            (messageCalls? everyMessage loading.finish).map (·.map (idAt? · [0, 0])) ==
              some [some ⟨"/w/l", [0]⟩, some ⟨"/w/l", [0]⟩]) = true := by
    decide +kernel
  simp only [Option.any_eq_true, Bool.and_eq_true, beq_iff_eq] at runs
  obtain ⟨loading, reached, ⟨⟨sources, shared⟩, success⟩, named⟩ := runs
  obtain ⟨definitions, found, same⟩ := Option.map_eq_some_iff.mp shared
  obtain ⟨source, segment⟩ := Prod.mk.inj same
  obtain ⟨calls, all, ids⟩ := Option.map_eq_some_iff.mp named
  obtain ⟨report, outcome⟩ := isOk_iff_exists.mp success
  exact ⟨loading.finish, definitions, report, calls,
    load_chain (toOption_eq_some_iff.mp reached), sources, found, source, segment, outcome, all, ids⟩

/-- Both messages of the chain are bound to one type of the definitions. -/
theorem definitions_of_chain_are_common :
    ∃ set definitions report calls shared number type,
      ModelSet.load chainTree "b" "" = .ok set ∧ set.definitions? = some definitions ∧
        (produce everyMessage set).outcome = .ok report ∧
        messageCalls? everyMessage set = some calls ∧
        (∃ model ∈ set.models, model.source = some "a" ∧
          model.root.at? [0, 0] = some (.container shared)) ∧
        calls.map (idAt? · [0, 0]) = [some shared.id, some shared.id] ∧
        type.space = "com.acme.common" ∧
        IsCommon everyMessage (definitionsCall everyMessage definitions :: calls) report.models
          shared number type := by
  obtain ⟨set, definitions, report, calls, loaded, sources, found, source, segment, success,
    named, ids⟩ := exists_chain
  have working : Files.Place.IsWalkable chainTree.working := by
    intro name member
    obtain rfl := List.mem_singleton.mp member
    exact ⟨by decide, by decide, by decide, by decide, by decide⟩
  obtain ⟨home, has, references, compiled⟩ := definitions_are_common working loaded found
  obtain rfl : ["w", "l"] = home := Except.ok.inj (has.place?_source source)
  obtain ⟨model, member, sourceToo⟩ : ∃ model ∈ set.models, model.source = some "a" := by
    rw [← List.mem_map, sources]
    decide
  obtain ⟨place, hasToo, denotes⟩ := references model member
  obtain rfl : ["w", "a"] = place := Except.ok.inj (hasToo.place?_source sourceToo)
  obtain ⟨shared, inTree, first, there⟩ := denotes [0, 0] "N" refersTo_chain
  obtain ⟨again, namedToo, -, -, common⟩ := compiled everyMessage report success
  rw [named, Option.some.injEq] at namedToo
  subst namedToo
  obtain ⟨number, type, isCommon⟩ := common shared inTree
  rw [first, Option.map_some, Option.some.injEq] at segment
  rw [← segment] at ids
  exact ⟨set, definitions, report, calls, shared, number, type, loaded, found, success, named,
    ⟨model, member, sourceToo, there⟩, ids, isCommon.space, isCommon⟩

end

end Project

end FlatMessage
