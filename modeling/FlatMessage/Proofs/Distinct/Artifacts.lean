import FlatMessage.Proofs.Distinct.Created
import FlatMessage.Proofs.Distinct.Documents
import FlatMessage.Schema.Validation

/-!
# Which artifacts are told apart

Every compiled model has its documents in its own namespace, which is named after the
message.  Message names with one segment share a namespace, and so do shared definitions
and a message whose segment is the one reserved for them.  Then documents have the same
path, and one overwrites the other; otherwise all paths are different, and so are the
qualified names of all types.
-/

namespace FlatMessage.Project

open Artifact (AreNamed IsPlaced modelDocuments)
open Codec (CompiledType)
open Compiler (CompiledModel)
open Naming (checkNamespace)
open Schema (Model ModelSet)

/-- The segments of the namespaces that the models of a set are compiled into. -/
def segmentsOf (settings : Settings) (set : ModelSet) : Option (List String) :=
  ((selectedMessages settings set).mapM fun model =>
      (Naming.namespaceSegment model.description.name).toOption).map
    ((if set.definitions?.isSome then [commonSegment] else []) ++ ·)

/-! ## Compiled models -/

/-- The documents of what has been compiled are those of its models. -/
structure Progress.Steady (progress : Progress) : Prop where
  named : progress.registry.Named
  documents : progress.documents = progress.models.flatMap modelDocuments
  models : ∀ model ∈ progress.models, IsPlaced model

namespace Progress

variable {progress later : Progress} {settings : Settings}

theorem steady_start : Progress.start.Steady where
  named := nofun
  documents := rfl
  models := nofun

/-- A model is added in the namespace that it is compiled into. -/
theorem Steady.addModel (steady : progress.Steady) {target : Compiler.Target} {model : Model}
    {compiled : CompiledModel} (added : progress.addModel target model = .ok (compiled, later)) :
    later.Steady ∧ later.models = progress.models ++ [compiled] ∧
      compiled.space = target.space := by
  unfold Progress.addModel at added
  rcases outcome : Compiler.compile target model progress.registry with ⟨result, registry⟩
  rw [outcome] at added
  cases result with
  | error error => cases added
  | ok compiled =>
      cases added
      have success : (Compiler.compile target model progress.registry).1 = .ok compiled := by
        rw [outcome]
      obtain ⟨named, -, distinct, types, root, space, -⟩ :=
        Compiler.created_of_compile steady.named success
      rw [outcome] at named
      have valid := Compiler.checkNamespace_of_compile success
      refine ⟨⟨named, ?_, ?_⟩, rfl, space⟩
      · simp [steady.documents]
      · rw [List.forall_mem_append, List.forall_mem_singleton]
        rw [← space] at valid types
        exact ⟨steady.models, valid, distinct, types, root⟩

theorem Steady.addDefinitions (steady : progress.Steady) {set : ModelSet}
    (added : progress.addDefinitions settings set = .ok later) :
    later.Steady ∧
      later.models.map CompiledModel.space =
        progress.models.map CompiledModel.space ++
          (if set.definitions?.isSome then [commonSegment] else []).map
            (inside settings.space) := by
  unfold Progress.addDefinitions at added
  cases found : set.definitions? with
  | none =>
      rw [found] at added
      cases added
      exact ⟨steady, by simp⟩
  | some definitions =>
      rw [found] at added
      obtain ⟨⟨compiled, other⟩, added, same⟩ := bind_eq_ok_iff.mp added
      cases same
      obtain ⟨kept, models, space⟩ := steady.addModel added
      exact ⟨kept, by simp [models, space]⟩

theorem Steady.addMessage (steady : progress.Steady) {hasInterchange : Bool} {model : Model}
    (added : progress.addMessage settings hasInterchange model = .ok later) :
    later.Steady ∧ ∃ segment,
      Naming.namespaceSegment model.description.name = .ok segment ∧
        later.models.map CompiledModel.space =
          progress.models.map CompiledModel.space ++ [inside settings.space segment] := by
  unfold Progress.addMessage at added
  dsimp only at added
  cases named : Naming.namespaceSegment model.description.name with
  | error illegal =>
      rw [named] at added
      cases added
  | ok segment =>
      rw [named] at added
      obtain ⟨⟨compiled, other⟩, added, same⟩ := bind_eq_ok_iff.mp added
      obtain ⟨kept, models, space⟩ := steady.addModel added
      have spaces : other.models.map CompiledModel.space =
          progress.models.map CompiledModel.space ++ [inside settings.space segment] := by
        simp [models, space]
      dsimp only at same
      split at same <;> cases same
      · exact ⟨⟨kept.named, kept.documents, kept.models⟩, segment, rfl, spaces⟩
      · exact ⟨kept, segment, rfl, spaces⟩

theorem Steady.addMessages (steady : progress.Steady) {hasInterchange : Bool}
    {models : List Model}
    (added : progress.addMessages settings hasInterchange models = (.ok (), later)) :
    later.Steady ∧ ∃ segments,
      models.mapM (fun model =>
        (Naming.namespaceSegment model.description.name).toOption) = some segments ∧
        later.models.map CompiledModel.space =
          progress.models.map CompiledModel.space ++ segments.map (inside settings.space) := by
  induction models generalizing progress with
  | nil =>
      cases added
      exact ⟨steady, [], rfl, by simp⟩
  | cons model rest ih =>
      rw [Progress.addMessages] at added
      cases first : progress.addMessage settings hasInterchange model with
      | error error =>
          rw [first] at added
          cases added
      | ok middle =>
          rw [first] at added
          obtain ⟨kept, segment, named, spaces⟩ := steady.addMessage first
          obtain ⟨keptAll, segments, others, all⟩ := ih kept added
          refine ⟨keptAll, segment :: segments, ?_, ?_⟩
          · rw [List.mapM_cons, others, named]
            rfl
          · simp [all, spaces]

/-- What is finished has the documents of the models and those of one more namespace. -/
theorem named_of_finish (valid : checkNamespace settings.space = .ok ())
    {interchange : Option Schema.InterchangeProperties} {report : Report}
    (success : (progress.finish settings interchange).outcome = .ok report) :
    report.models = progress.models ∧
      ∃ own, (progress.finish settings interchange).documents = progress.documents ++ own ∧
        AreNamed settings.space own := by
  have listed : ∀ classes, AreNamed settings.space
      [Artifact.classList settings.space classes] := fun classes =>
    (Artifact.areNamed_interchange valid classes .unEdifact "" []).sublist (by simp)
  unfold finish at success ⊢
  dsimp only at success ⊢
  cases interchange with
  | none =>
      cases success
      exact ⟨rfl, _, rfl, listed _⟩
  | some properties =>
      dsimp only at success ⊢
      split at success
      · next none_ =>
          cases success
          rw [if_pos none_]
          exact ⟨rfl, _, rfl, listed _⟩
      · next some_ =>
          rw [if_neg some_]
          unfold Interchange.assemble at success ⊢
          cases known : Interchange.flavourOf properties with
          | error error =>
              rw [known] at success
              cases success
          | ok flavour =>
              rw [known] at success
              cases success
              refine ⟨rfl, _, List.append_assoc _ _ _, ?_⟩
              exact Artifact.areNamed_interchange valid _ flavour _ _

end Progress

/-! ## Productions -/

variable {settings : Settings} {set : ModelSet} {report : Report}

/-- A production that succeeds has compiled the models of the selected namespaces, and
its documents are theirs and those of the namespace that it runs in. -/
theorem steady_of_produce (valid : checkNamespace settings.space = .ok ())
    (success : (produce settings set).outcome = .ok report) :
    ∃ (progress : Progress) (segments : List String),
      progress.Steady ∧ report.models = progress.models ∧
        segmentsOf settings set = some segments ∧
        progress.models.map CompiledModel.space = segments.map (inside settings.space) ∧
        ∃ own, (produce settings set).documents = progress.documents ++ own ∧
          AreNamed settings.space own := by
  unfold produce at success ⊢
  dsimp only at success ⊢
  cases first : Progress.start.addDefinitions settings set with
  | error error =>
      rw [first] at success
      cases success
  | ok shared =>
      obtain ⟨steady, spaces⟩ := Progress.steady_start.addDefinitions first
      rw [first] at success
      dsimp only at success ⊢
      rcases second : shared.addMessages settings (interchangeOf set).isSome
        (selectedMessages settings set) with ⟨_ | _, progress⟩
      · rw [second] at success
        cases success
      · rw [second] at success
        obtain ⟨steadyAll, names, found, all⟩ := steady.addMessages second
        obtain ⟨models, documents⟩ := Progress.named_of_finish valid success
        refine ⟨progress, _, steadyAll, models, by rw [segmentsOf, found]; rfl, ?_, documents⟩
        rw [all, spaces, List.map_append]
        rfl

/-- A production overwrites one of its documents exactly when two of its models are
compiled into one namespace.  Otherwise no two types have the same qualified name. -/
theorem distinct_paths_iff (valid : checkNamespace settings.space = .ok ())
    (success : (produce settings set).outcome = .ok report) :
    ∃ segments, segmentsOf settings set = some segments ∧
      (((produce settings set).documents.map (·.path settings.destination)).Nodup ↔
        segments.Nodup) ∧
      (segments.Nodup →
        (report.models.flatMap fun model =>
          model.types.map CompiledType.qualifiedName).Nodup) := by
  obtain ⟨progress, segments, steady, models, found, spaces, own, documents, named⟩ :=
    steady_of_produce valid success
  have apart : (progress.models.map CompiledModel.space).Nodup ↔ segments.Nodup := by
    rw [spaces, List.nodup_map_iff fun _ _ => Naming.inside_inj.mp]
  have inner : ∀ model ∈ progress.models, model.space ≠ settings.space := by
    intro model member same
    have inSpaces := List.mem_map_of_mem (f := CompiledModel.space) member
    rw [spaces, same] at inSpaces
    obtain ⟨segment, -, whole⟩ := List.mem_map.mp inSpaces
    exact Naming.inside_ne whole
  refine ⟨segments, found, ?_, ?_⟩
  · rw [documents, steady.documents, ← apart]
    exact Artifact.nodup_paths_iff steady.models valid named inner
  · intro distinct
    rw [models]
    exact Artifact.nodup_qualifiedNames steady.models (apart.mpr distinct)

/-- A message with an order number. -/
def order (name version : String) : Model where
  description := ⟨name, version⟩
  delimiters := .edifact
  root := .container
    { id := ⟨version, []⟩
      kind := .segmentGroup
      name := "order"
      code := none
      truncatable := false
      documentation := none
      children := []
      segments :=
        [⟨.once, .container
          { id := ⟨version, [0]⟩
            kind := .segment
            name := "header"
            code := some "BGM"
            truncatable := false
            documentation := none
            children := [⟨.once, .value ⟨"number", .field, none, []⟩⟩]
            segments := [] }⟩] }
  source := none

/-- An order, and a later message with a name of its own. -/
def revisions (later : String) : ModelSet where
  models := [order "ORDERS" "D01B", order later "D03B"]
  interchange := none

/-- Settings that select every message. -/
def everyMessage : Settings where
  schema := "set.toml"
  base := "."
  destination := "out"
  space := "com.acme"
  filter := none
  flushSegments := false

/-- An order and an invoice are kept apart. -/
theorem distinct_paths_of_order_and_invoice :
    ∃ report, (produce everyMessage (revisions "INVOIC")).outcome = .ok report ∧
      segmentsOf everyMessage (revisions "INVOIC") = some ["orders", "invoic"] ∧
        ((produce everyMessage (revisions "INVOIC")).documents.map (·.path "out")).Nodup ∧
          (report.models.flatMap fun model =>
            model.types.map CompiledType.qualifiedName).Nodup := by
  have success : (produce everyMessage (revisions "INVOIC")).outcome = .ok _ := rfl
  have named : segmentsOf everyMessage (revisions "INVOIC") = some ["orders", "invoic"] := rfl
  obtain ⟨segments, found, paths, names⟩ := distinct_paths_iff (by decide) success
  obtain rfl := Option.some.inj (named.symm.trans found)
  exact ⟨_, success, found, paths.mpr (by decide), names (by decide)⟩

/-- Two versions of one message are models that a set tells apart.  They are compiled into
one namespace, where the documents of the later one take the places of the first one's and
two types have one qualified name. -/
theorem orders_overwritten :
    (ModelSet.empty.insert? (order "ORDERS" "D01B")).bind
        (·.insert? (order "ORDERS" "D03B")) = some (revisions "ORDERS") ∧
      (∀ model ∈ (revisions "ORDERS").models, model.validate = .ok ()) ∧
      ∃ report, (produce everyMessage (revisions "ORDERS")).outcome = .ok report ∧
        ¬ ((produce everyMessage (revisions "ORDERS")).documents.map (·.path "out")).Nodup ∧
          ¬ (report.models.flatMap fun model =>
            model.types.map CompiledType.qualifiedName).Nodup := by
  refine ⟨rfl, ?_, _, rfl, ?_, ?_⟩
  · intro model member
    rcases List.mem_pair.mp member with rfl | rfl <;> rfl
  · decide +kernel
  · decide +kernel

end FlatMessage.Project
