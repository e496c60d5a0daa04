import FlatMessage.Proofs.Conformance.Verdicts
import FlatMessage.Proofs.Truncation.Local

/-!
# Encoding is decided by conformance

A bean is written exactly when it conforms to its type, and otherwise the error is the
one of the first violation in the order of the properties.  The verdict is the same under
every delimiter table, with and without truncation, and with and without flushing.
-/

namespace FlatMessage.Conformance

open Codec
open Compiler (CompiledModel Options Reached Registry SoundRegistry Target Yields compile)
open Delimiter (Level)
open Schema (Container Model NodeId)

/-! ## Types -/

/-- The properties of steps fit a bean. -/
def StepsFit (steps : List Step) (bean : Bean) : Prop :=
  ∀ step ∈ steps, Fits step.property (bean.get? step.property.name)

/-- The first violation among the properties of steps. -/
def StepsViolation (steps : List Step) (bean : Bean) : WriteError → Prop :=
  First (fun step => Fits step.property (bean.get? step.property.name))
    (fun step => PropertyViolation step.property (bean.get? step.property.name)) steps

theorem stepsFit_append (first second : List Step) (bean : Bean) :
    StepsFit (first ++ second) bean ↔ StepsFit first bean ∧ StepsFit second bean :=
  List.forall_mem_append

theorem conforms_iff_stepsFit (type : CompiledType) (bean : Bean) :
    Conforms type bean ↔ StepsFit type.layout.steps bean := by
  rw [conforms_iff, CompiledType.properties, List.forall_mem_map]
  rfl

theorem beanViolation_iff_stepsViolation (type : CompiledType) (bean : Bean)
    (error : WriteError) :
    BeanViolation type bean error ↔ StepsViolation type.layout.steps bean error := by
  rw [beanViolation_iff, CompiledType.properties, first_map_iff, StepsViolation]

/-- A sequence of a step and others judges them in this order. -/
theorem Judges.cons {α β γ : Type} {first : Emission α} {later : Emission β} {step : Step}
    {rest : List Step} {bean : Bean}
    (here : Judges first (Fits step.property (bean.get? step.property.name))
      (PropertyViolation step.property (bean.get? step.property.name)))
    (further : Judges later (StepsFit rest bean) (StepsViolation rest bean))
    (change : α → β → γ) :
    Judges (first >>= fun result => change result <$> later) (StepsFit (step :: rest) bean)
      (StepsViolation (step :: rest) bean) := by
  apply (here.bind fun result _ => further.map (change result)).congr
  · rw [StepsFit, StepsFit, List.forall_mem_cons]
  · intro error
    rw [StepsViolation, StepsViolation, first_cons_iff]

/-- A body is judged alike whether it is streamed or collected. -/
theorem judges_writeBody {layout : Layout} {bean : Bean}
    (streamed :
      Judges (writeSteps layout.body bean) (StepsFit layout.body bean)
        (StepsViolation layout.body bean))
    (collected :
      Judges (renderSteps layout.body bean) (StepsFit layout.body bean)
        (StepsViolation layout.body bean)) :
    Judges (Reading.writeBody layout bean) (StepsFit layout.body bean)
      (StepsViolation layout.body bean) := by
  unfold Reading.writeBody
  cases layout.truncateAt with
  | none => exact streamed
  | some level => exact collected.before fun tokens => outcome_writeTokens level _ tokens

/-- A layout judges its body and then its nested segments. -/
theorem judges_write_of_parts {layout : Layout} {bean : Bean}
    (body :
      Judges (Reading.writeBody layout bean) (StepsFit layout.body bean)
        (StepsViolation layout.body bean))
    (nested :
      Judges (writeSteps layout.segments bean) (StepsFit layout.segments bean)
        (StepsViolation layout.segments bean)) :
    Judges (layout.write bean) (StepsFit layout.steps bean)
      (StepsViolation layout.steps bean) := by
  rw [Reading.write_eq]
  apply Judges.after
  · cases layout.code with
    | none => exact ⟨false, rfl⟩
    | some code => exact ⟨true, rfl⟩
  intro coded
  apply (body.bind fun valued _ =>
    Judges.after ⟨(), outcome_writeTerminator layout.terminator layout.flush⟩ fun _ =>
      nested.map (coded || valued || ·)).congr
  · rw [Layout.steps, stepsFit_append]
  · intro error
    rw [Layout.steps, StepsViolation, StepsViolation, StepsViolation, first_append_iff]
    rfl

/-- A scalar binding judges scalars by their texts. -/
theorem judges_writeScalar (name : String) (binding : ScalarBinding) (value : Value) :
    Judges (writeScalar name binding value) (Accepts (.scalar binding) value)
      (ItemViolation name (.scalar binding) value) := by
  by_cases structured : value.isScalar = false
  · have refused : writeScalar name binding value =
        .fail (.property name .scalarValue value.kind) := by
      cases value with
      | scalar content => cases structured
      | bean properties => rfl
      | list items => rfl
    rw [refused]
    apply (Judges.fail _).congr
    · simp [not_accepts_structured structured]
    · intro error
      rw [itemViolation_structured_iff structured]
  · obtain ⟨content, rfl⟩ : ∃ content, value = .scalar content := by
      cases value with
      | scalar content => exact ⟨content, rfl⟩
      | bean properties => exact absurd rfl structured
      | list items => exact absurd rfl structured
    rw [writeScalar]
    cases outcome : Encoder.render binding.encoder content with
    | ok rendered =>
        constructor
        · simp [accepts_scalar_iff, outcome]
        · simp [itemViolation_scalar_iff, outcome]
    | error refusal =>
        refine Judges.congr (?_ : Judges _ False (errorOf refusal = ·)) ?_ ?_
        · cases refusal <;> exact .fail _
        · simp [accepts_scalar_iff, outcome]
        · simp [itemViolation_scalar_iff, outcome]

/-- A binding of beans judges beans by their type. -/
theorem judges_bean {type : CompiledType}
    (judges : ∀ bean, Judges (type.write bean) (Conforms type bean) (BeanViolation type bean))
    (name : String) (value : Value) :
    Judges ((Binding.bean type).write name value) (Accepts (.bean type) value)
      (ItemViolation name (.bean type) value) := by
  obtain ⟨typeName, space, nodeName, kind, layout⟩ := type
  by_cases flat : value.bean? = none
  · have refused : (Binding.bean ⟨typeName, space, nodeName, kind, layout⟩).write name value =
        .fail (.property name .bean value.kind) := by
      cases value with
      | bean properties => cases flat
      | scalar content => rfl
      | list items => rfl
    rw [refused]
    apply (Judges.fail _).congr
    · simp [not_accepts_flat flat]
    · intro error
      rw [itemViolation_flat_iff flat]
  · obtain ⟨bean, rfl⟩ : ∃ bean, value = .bean bean := by
      cases value with
      | bean bean => exact ⟨bean, rfl⟩
      | scalar content => exact absurd rfl flat
      | list items => exact absurd rfl flat
    apply (judges bean).congr
    · rw [accepts_bean_iff]
    · intro error
      rw [itemViolation_bean_iff]

mutual

/-- Writing by a layout judges the properties of its steps, those of the body before
those of the nested segments. -/
theorem judges_write (layout : Layout) (bean : Bean) :
    Judges (layout.write bean) (StepsFit layout.steps bean)
      (StepsViolation layout.steps bean) := by
  match layout with
  | ⟨code, body, truncateAt, terminator, flush, segments⟩ =>
      exact judges_write_of_parts
        (judges_writeBody (judges_writeSteps body bean) (judges_renderSteps body bean))
        (judges_writeSteps segments bean)

/-- Streaming steps judges their properties. -/
theorem judges_writeSteps (steps : List Step) (bean : Bean) :
    Judges (writeSteps steps bean) (StepsFit steps bean) (StepsViolation steps bean) := by
  match steps with
  | [] =>
      apply (Judges.done false).congr
      · simp [StepsFit]
      · simp [StepsViolation, not_first_nil]
  | ⟨⟨name, nodeName, occurs, binding⟩, leading, level⟩ :: rest =>
      rw [writeSteps]
      have items := judges_binding binding name
      have first := judges_writeStep ⟨name, nodeName, occurs, binding⟩ items leading level bean
      exact first.cons (judges_writeSteps rest bean) (· || ·)

/-- Collecting steps into tokens judges their properties. -/
theorem judges_renderSteps (steps : List Step) (bean : Bean) :
    Judges (renderSteps steps bean) (StepsFit steps bean) (StepsViolation steps bean) := by
  match steps with
  | [] =>
      apply (Judges.done []).congr
      · simp [StepsFit]
      · simp [StepsViolation, not_first_nil]
  | ⟨⟨name, nodeName, occurs, binding⟩, leading, level⟩ :: rest =>
      rw [renderSteps]
      have items := judges_binding binding name
      have first := judges_renderStep ⟨name, nodeName, occurs, binding⟩ items bean
      exact first.cons (judges_renderSteps rest bean) (· ++ ·)

/-- Writing one occurrence judges its value. -/
theorem judges_binding (binding : Binding) (name : String) (value : Value) :
    Judges (binding.write name value) (Accepts binding value)
      (ItemViolation name binding value) := by
  match binding with
  | .scalar scalar =>
      rw [Binding.write]
      exact judges_writeScalar name scalar value
  | .bean ⟨typeName, space, nodeName, kind, layout⟩ =>
      apply judges_bean
      intro bean
      apply (judges_write layout bean).congr
      · rw [conforms_iff_stepsFit]
      · intro error
        rw [beanViolation_iff_stepsViolation]

end

/-- Writing a bean of a type judges the bean. -/
theorem judges_type (type : CompiledType) (bean : Bean) :
    Judges (type.write bean) (Conforms type bean) (BeanViolation type bean) := by
  apply (judges_write type.layout bean).congr
  · rw [conforms_iff_stepsFit]
  · intro error
    rw [beanViolation_iff_stepsViolation]

/-! ## Encoding -/

/-- A bean is encoded by a type, under any delimiter table, exactly when it conforms to
the type; otherwise the error is the one of its first violation. -/
structure DecidesEncoding (type : CompiledType) (bean : Bean) : Prop where
  ok_iff : ∀ table, (∃ text, type.encode table bean = .ok text) ↔ Conforms type bean
  error_iff : ∀ table error,
    type.encode table bean = .error error ↔ BeanViolation type bean error

theorem decidesEncoding (type : CompiledType) (bean : Bean) : DecidesEncoding type bean := by
  obtain ⟨ok_iff, error_iff⟩ := judges_type type bean
  constructor
  · intro table
    rw [← ok_iff, CompiledType.encode]
    cases (type.write bean).outcome <;> simp [Except.map]
  · intro table error
    rw [← error_iff, CompiledType.encode]
    cases (type.write bean).outcome <;> simp [Except.map]

/-- Two types encode the same beans under all delimiter tables and refuse the others with
the same errors. -/
def SameVerdicts (first second : CompiledType) : Prop :=
  ∀ bean table other,
    (first.encode table bean).map (fun _ => ()) = (second.encode other bean).map fun _ => ()

/-- Truncatable flags and flushing leave the verdicts of what a container yields. -/
theorem sameVerdicts_of_yields {container : Container} {chosen : NodeId → Bool}
    {type cleared : CompiledType} (yields : Yields container type)
    (yieldsCleared : Yields (container.withoutTruncation chosen) cleared) :
    SameVerdicts type cleared := by
  intro bean table other
  rw [Compiler.encode_of_yields yields, Compiler.encode_of_yields yieldsCleared,
    Reading.readContainer_withoutTruncation]
  cases Reading.readContainer container bean <;> rfl

section

variable {store : NodeId → Option Container} {registry : Registry} {target : Target}
  {model : Model} {compiled : CompiledModel}

/-- The options of a target do not decide whether a model is compiled. -/
theorem exists_compile_options (sound : SoundRegistry store registry)
    (stored : model.root.StoredIn store)
    (success : (compile target model registry).1 = .ok compiled) (options : Options) :
    ∃ other, (compile { target with options } model registry).1 = .ok other := by
  have valid := Compiler.checkNamespace_of_compile success
  have validToo : Naming.checkNamespace ({ target with options } : Target).space = .ok () := valid
  have legal := (Compiler.compile_ok_iff sound stored valid).mp ⟨compiled, success⟩
  exact (Compiler.compile_ok_iff sound stored validToo).mpr legal

/-- What a model is compiled into, truncatable or not and flushing or not, decides alike
on beans. -/
theorem exists_sameVerdicts (sound : SoundRegistry store registry)
    (stored : model.root.StoredIn store)
    (success : (compile target model registry).1 = .ok compiled) (chosen : NodeId → Bool)
    (options : Options) :
    ∃ cleared,
      (compile { target with options } (model.withoutTruncation chosen) []).1 = .ok cleared ∧
        SameVerdicts compiled.root cleared.root := by
  obtain ⟨root, tree, yields⟩ := Compiler.yields_of_compile sound stored success
  obtain ⟨other, succeeds⟩ := exists_compile_options sound stored success options
  obtain ⟨same, cleared, treeThere, -, successCleared, yieldsCleared⟩ :=
    Compiler.compile_withoutTruncation sound stored succeeds chosen
  obtain rfl : root = same := by
    rw [tree] at treeThere
    exact Schema.Node.container.inj treeThere
  exact ⟨cleared, successCleared, sameVerdicts_of_yields yields yieldsCleared⟩

/-- So do all the types that are registered for one container. -/
theorem sameVerdicts_of_registered (sound : SoundRegistry store registry)
    (stored : model.root.StoredIn store) (chosen : NodeId → Bool) (options : Options)
    {id : NodeId} {type cleared : CompiledType}
    (registered : (compile target model registry).2.get? id = some type)
    (registeredCleared :
      (compile { target with options } (model.withoutTruncation chosen) []).2.get? id =
        some cleared) :
    SameVerdicts type cleared := by
  obtain ⟨container, storedHere, -, yields⟩ := sound.compile target stored id type registered
  have fresh := Compiler.soundRegistry_empty fun id =>
    (store id).map (Container.withoutTruncation chosen)
  have storedCleared : (model.withoutTruncation chosen).root.StoredIn _ :=
    stored.withoutTruncation chosen
  obtain ⟨other, storedThere, -, yieldsCleared⟩ :=
    fresh.compile { target with options } storedCleared id cleared registeredCleared
  simp only [storedHere, Option.map_some, Option.some.injEq] at storedThere
  subst storedThere
  exact sameVerdicts_of_yields yields yieldsCleared

/-- Whether a bean is encoded is decided by whether it conforms to its type, and the error
is the one of the first violation; neither depends on the delimiter table, on truncatable
flags or on flushing. -/
theorem conformance_decides_encoding (reached : Reached store registry)
    (stored : model.root.StoredIn store)
    (success : (compile target model registry).1 = .ok compiled) :
    (∀ type bean, DecidesEncoding type bean) ∧
      ∀ (chosen : NodeId → Bool) (options : Options),
        (∃ cleared,
          (compile { target with options } (model.withoutTruncation chosen) []).1 =
              .ok cleared ∧
            SameVerdicts compiled.root cleared.root) ∧
        ∀ id type cleared,
          (compile target model registry).2.get? id = some type →
          (compile { target with options } (model.withoutTruncation chosen) []).2.get? id =
            some cleared →
          SameVerdicts type cleared := by
  refine ⟨decidesEncoding, fun chosen options => ⟨?_, ?_⟩⟩
  · exact exists_sameVerdicts reached.sound stored success chosen options
  · intro id type cleared registered registeredCleared
    exact sameVerdicts_of_registered reached.sound stored chosen options registered
      registeredCleared

end

/-- A notice of one note by a single author, with a property that no type names. -/
def briefNotice : Bean :=
  [("note", .bean [("author", .bean [("given_name", .scalar (.text "Jo"))])]),
    ("remark", .list [])]

/-- A notice whose second note has three texts for authors. -/
def crowdedNotice : Bean :=
  [("note", .list
    [.bean [],
      .bean [("author", .list
        [.scalar (.text "Jo"), .scalar (.text "Al"), .scalar (.text "Mo")])]])]

/-- A brief notice conforms.  Of a crowded one the authors are counted first, truncatable
or not. -/
theorem conformance_decides_on_notices :
    ∃ compiled, (compile ⟨"com.acme", .standalone⟩ Schema.notice []).1 = .ok compiled ∧
      Conforms compiled.root briefNotice ∧
      BeanViolation compiled.root crowdedNotice (.tooMany "author" 2 3) ∧
      ∃ cleared,
        (compile ⟨"com.acme", .definitions⟩ (Schema.notice.withoutTruncation fun _ => true)
          []).1 = .ok cleared ∧
        SameVerdicts compiled.root cleared.root := by
  have success : (compile ⟨"com.acme", .standalone⟩ Schema.notice []).1 = .ok _ := rfl
  obtain ⟨decides, alike⟩ :=
    conformance_decides_encoding .empty Schema.notice_storedIn success
  refine ⟨_, success, ?_, ?_, (alike (fun _ => true) .definitions).1⟩
  · exact ((decides _ briefNotice).ok_iff .edifact).mp ⟨_, rfl⟩
  · exact ((decides _ crowdedNotice).error_iff .edifact _).mp rfl

end FlatMessage.Conformance
