import FlatMessage.Proofs.Yields

/-!
# Compiling with a registry

A registry is sound when every type in it is yielded by the container with its
identity.  Compiling keeps a registry sound, whether it succeeds or fails, so every
registry that is reached from the empty one is sound.

Whether a container can be compiled is decided by its names and options alone: names
must be identifiers and options must be known.  Neither the registry nor the target
has a part in it.
-/

namespace FlatMessage.Compiler

open Codec (CompiledType Step)
open Delimiter (Level)
open Naming (Scope)
open Reading
open Schema (Child Container Model Node NodeId ValueNode)

/-! ## Legal schemas -/

/-- The options of a leaf build an encoder. -/
def LegalValue (content : ValueNode) : Prop :=
  ∀ dataType, content.dataType = some dataType →
    ∃ encoder, Encoder.build dataType content.options = .ok encoder

mutual

/-- The names and options of a container and everything inside it are legal. -/
def Legal (container : Container) : Prop :=
  match container with
  | ⟨_, kind, name, _, _, _, children, segments⟩ =>
      (∃ identifier, Naming.typeIdentifier name = .ok identifier) ∧
        (kind.childLevel?.isSome = true → LegalChildren children) ∧ LegalChildren segments
termination_by structural container

/-- The names and options of children are legal. -/
def LegalChildren (children : List Child) : Prop :=
  match children with
  | [] => True
  | ⟨_, node⟩ :: rest =>
      (∃ identifier, Naming.propertyIdentifier node.name = .ok identifier) ∧
        LegalNode node ∧ LegalChildren rest
termination_by structural children

/-- The names and options of a node are legal. -/
def LegalNode (node : Node) : Prop :=
  match node with
  | .value content => LegalValue content
  | .container content => Legal content
termination_by structural node

end

theorem legal_iff (container : Container) :
    Legal container ↔
      (∃ identifier, Naming.typeIdentifier container.name = .ok identifier) ∧
        (container.kind.childLevel?.isSome = true → LegalChildren container.children) ∧
        LegalChildren container.segments := by
  obtain ⟨id, kind, name, code, truncatable, documentation, children, segments⟩ := container
  exact Iff.rfl

/-! ## Sound registries -/

/-- Every registered type is yielded by the container with its identity. -/
def SoundRegistry (store : NodeId → Option Container) (registry : Registry) : Prop :=
  ∀ id type, registry.get? id = some type →
    ∃ container, store id = some container ∧ Legal container ∧ Yields container type

theorem soundRegistry_empty (store : NodeId → Option Container) : SoundRegistry store [] := by
  intro id type found
  cases found

/-- Registering adds at most one type. -/
theorem get?_register {registry : Registry} {id other : NodeId} {type found : CompiledType}
    (lookup : (registry.register id type).get? other = some found) :
    registry.get? other = some found ∨ (other = id ∧ found = type) := by
  unfold Registry.register at lookup
  split at lookup
  · exact .inl lookup
  · rw [Registry.get?, List.lookup_append, Option.or_eq_some_iff] at lookup
    rcases lookup with before | ⟨-, last⟩
    · exact .inl before
    · rw [List.lookup_cons] at last
      split at last
      · next same =>
          cases last
          exact .inr ⟨eq_of_beq same, rfl⟩
      · cases last

theorem SoundRegistry.register {store : NodeId → Option Container} {registry : Registry}
    (sound : SoundRegistry store registry) {container : Container} {type : CompiledType}
    (stored : store container.id = some container) (legal : Legal container)
    (yields : Yields container type) :
    SoundRegistry store (registry.register container.id type) := by
  intro id found lookup
  rcases get?_register lookup with before | ⟨rfl, rfl⟩
  · exact sound id found before
  · exact ⟨container, stored, legal, yields⟩

/-! ## Parts of a compilation -/

/-- A sequence runs its second part from the state in which its first part succeeds. -/
theorem run_bind {ε σ α β : Type} (first : ExceptT ε (StateM σ) α)
    (next : α → ExceptT ε (StateM σ) β) (state : σ) :
    (first >>= next).run.run state =
      match first.run.run state with
      | (.ok result, middle) => (next result).run.run middle
      | (.error error, middle) => (.error error, middle) := by
  rw [ExceptT.run_bind, StateT.run_bind]
  rcases first.run.run state with ⟨_ | _, _⟩ <;> rfl

/-- When a sequence succeeds, so do its parts. -/
theorem exists_of_run_bind {ε σ α β : Type} {first : ExceptT ε (StateM σ) α}
    {next : α → ExceptT ε (StateM σ) β} {state later : σ} {result : β}
    (outcome : (first >>= next).run.run state = (.ok result, later)) :
    ∃ value middle, first.run.run state = (.ok value, middle) ∧
      (next value).run.run middle = (.ok result, later) := by
  rw [run_bind] at outcome
  rcases start : first.run.run state with ⟨_ | value, middle⟩
  · rw [start] at outcome
    cases outcome
  · rw [start] at outcome
    exact ⟨value, middle, rfl, outcome⟩

/-- Run with a registry that satisfies the invariant, a computation keeps the
invariant; it succeeds exactly when `legal` holds, and then its result is as
expected. -/
def Meets {α : Type} (invariant : Registry → Prop) (legal : Prop) (expected : α → Prop)
    (computation : Compilation α) : Prop :=
  ∀ session, invariant session.registry →
    invariant (computation.run.run session).2.registry ∧
      match (computation.run.run session).1 with
      | .ok result => legal ∧ expected result
      | .error _ => ¬legal

namespace Meets

variable {α β : Type} {invariant : Registry → Prop} {legal : Prop} {expected : α → Prop}

theorem pure {result : α} (holds : expected result) :
    Meets invariant True expected (pure result) := by
  intro session start
  exact ⟨start, trivial, holds⟩

theorem throw (error : CompileError) (illegal : ¬legal) :
    Meets invariant legal expected (throw error) := by
  intro session start
  exact ⟨start, illegal⟩

/-- A sequence succeeds when both of its parts do. -/
theorem bind {further : Prop} {final : β → Prop} {first : Compilation α}
    {next : α → Compilation β} (before : Meets invariant legal expected first)
    (after : legal → ∀ result, expected result →
      Meets invariant further final (next result)) :
    Meets invariant (legal ∧ further) final (first >>= next) := by
  intro session start
  obtain ⟨kept, result⟩ := before session start
  rw [run_bind]
  cases outcome : first.run.run session with
  | mk value middle =>
      rw [outcome] at kept result
      cases value with
      | error error => exact ⟨kept, fun both => result both.1⟩
      | ok value =>
          obtain ⟨lawful, holds⟩ := result
          obtain ⟨keptAgain, last⟩ := after lawful value holds middle kept
          apply And.intro keptAgain
          dsimp only
          cases final : ((next value).run.run middle).1 with
          | error error =>
              rw [final] at last
              exact fun both => last both.2
          | ok value =>
              rw [final] at last
              exact ⟨⟨lawful, last.1⟩, last.2⟩

/-- Less may be expected of a result. -/
theorem weaken {less : α → Prop} {computation : Compilation α}
    (meets : Meets invariant legal expected computation)
    (enough : ∀ result, expected result → less result) :
    Meets invariant legal less computation := by
  intro session start
  obtain ⟨kept, result⟩ := meets session start
  apply And.intro kept
  cases outcome : (computation.run.run session).1 with
  | error error =>
      rw [outcome] at result
      exact result
  | ok value =>
      rw [outcome] at result
      exact ⟨result.1, enough value result.2⟩

/-- What decides success may be said in another way. -/
theorem congr {same : Prop} {computation : Compilation α}
    (meets : Meets invariant legal expected computation) (equivalent : legal ↔ same) :
    Meets invariant same expected computation := by
  rwa [propext equivalent] at meets

end Meets

/-- Claiming a type name succeeds when there is a name to claim. -/
theorem meets_claimTypeName (invariant : Registry → Prop) (nodeName : String) :
    Meets invariant (∃ identifier, Naming.typeIdentifier nodeName = .ok identifier)
      (fun _ => True) (claimTypeName nodeName) := by
  unfold claimTypeName
  cases Naming.typeIdentifier nodeName with
  | error illegal => exact .throw _ (by simp)
  | ok identifier =>
      intro session start
      exact ⟨start, ⟨identifier, rfl⟩, trivial⟩

/-- The name of a property is the one under which its values are looked up. -/
theorem meets_claimProperty (invariant : Registry → Prop) (scope : Scope)
    (nodeName : String) :
    Meets invariant (∃ identifier, Naming.propertyIdentifier nodeName = .ok identifier)
      (fun result => result = claimed scope nodeName) (claimProperty scope nodeName) := by
  unfold claimProperty claimed
  cases Naming.propertyIdentifier nodeName with
  | error illegal => exact .throw _ (by simp)
  | ok identifier =>
      apply (Meets.pure rfl).congr
      exact ⟨fun _ => ⟨identifier, rfl⟩, fun _ => trivial⟩

/-- A leaf is bound by its encoder. -/
theorem meets_bindValue (invariant : Registry → Prop) (content : ValueNode) :
    Meets invariant (LegalValue content) (fun binding => binding = bindingOf content)
      (bindValue content) := by
  unfold bindValue LegalValue bindingOf encoderOf
  cases content.dataType with
  | none => exact (Meets.pure rfl).congr (by simp)
  | some dataType =>
      dsimp only
      cases built : Encoder.build dataType content.options with
      | error error => exact .throw _ (by simp [built])
      | ok encoder =>
          have legal : True ↔ ∀ other, some dataType = some other →
              ∃ encoder, Encoder.build other content.options = .ok encoder := by
            simp [built]
          apply Meets.congr _ legal
          apply Meets.pure
          simp [built, Except.toOption]

/-- Registering the type that a container yields keeps a registry sound. -/
theorem meets_register {store : NodeId → Option Container} {container : Container}
    {type : CompiledType} (stored : store container.id = some container)
    (legal : Legal container) (yields : Yields container type) :
    Meets (SoundRegistry store) True (fun _ => True) (register container.id type) := by
  intro session sound
  exact ⟨sound.register stored legal yields, trivial, trivial⟩

/-! ## Compiling a tree -/

/-- Compile the delimited children of a container, if its kind can have any. -/
def compileBody (target : Target) (container : Container) :
    Compilation (List Step × Scope) :=
  match container.kind.childLevel? with
  | some level =>
      compileChildren target (headOf container).leading level [] container.children
  | none => pure ([], [])

/-- Compile a container that is not registered. -/
def compileFresh (target : Target) (container : Container) : Compilation CompiledType := do
  let typeName ← claimTypeName container.name
  let body ← compileBody target container
  let nested ← compileSegments target body.2 container.segments
  let type : CompiledType :=
    { name := typeName
      space := target.space
      nodeName := container.name
      kind := container.kind
      layout :=
        layoutOf target.options container.kind container.code container.truncatable
          container.children body.1 nested.1 }
  register container.id type
  return type

/-- A container is compiled unless it is registered. -/
theorem run_compileContainer (target : Target) (container : Container) (session : Session) :
    (compileContainer target container).run.run session =
      match session.registry.get? container.id with
      | some type => (.ok type, session)
      | none => (compileFresh target container).run.run session := by
  obtain ⟨id, kind, name, code, truncatable, documentation, children, segments⟩ := container
  unfold compileContainer compileFresh compileBody
  cases found : session.registry.get? id with
  | some type =>
      change ((match session.registry.get? id with
        | some type => pure type
        | none => _ : Compilation CompiledType).run.run session) = _
      rw [found]
      rfl
  | none =>
      change ((match session.registry.get? id with
        | some type => pure type
        | none => _ : Compilation CompiledType).run.run session) = _
      rw [found]
      cases kind <;> rfl

section

variable {store : NodeId → Option Container} (target : Target)

/-- The body of a container is compiled if its kind can have one. -/
theorem meets_compileBody {container : Container}
    (delimited : ∀ leading level,
      Meets (SoundRegistry store) (LegalChildren container.children)
        (fun result =>
          YieldsChildren leading level [] container.children result.1 ∧
            result.2 = scopeAfter [] container.children)
        (compileChildren target leading level [] container.children)) :
    Meets (SoundRegistry store)
      (container.kind.childLevel?.isSome = true → LegalChildren container.children)
      (fun result => YieldsBody container result.1 ∧ result.2 = slotScope container)
      (compileBody target container) := by
  unfold compileBody slotScope YieldsBody
  cases container.kind.childLevel? with
  | none => exact (Meets.pure ⟨rfl, rfl⟩).congr (by simp)
  | some level => exact (delimited _ level).congr (by simp)

/-- A container that is not registered is compiled by compiling what is in it. -/
theorem meets_compileFresh {container : Container}
    (stored : store container.id = some container)
    (body : Meets (SoundRegistry store)
      (container.kind.childLevel?.isSome = true → LegalChildren container.children)
      (fun result => YieldsBody container result.1 ∧ result.2 = slotScope container)
      (compileBody target container))
    (nested : ∀ scope,
      Meets (SoundRegistry store) (LegalChildren container.segments)
        (fun result => YieldsSegments scope container.segments result.1)
        (compileSegments target scope container.segments)) :
    Meets (SoundRegistry store) (Legal container) (Yields container)
      (compileFresh target container) := by
  have named := meets_claimTypeName (SoundRegistry store) container.name
  have parts : Meets (SoundRegistry store) _ (Yields container)
      (compileFresh target container) :=
    named.bind fun legalName typeName _ =>
      body.bind fun legalBody steps yieldsBody =>
        (nested steps.2).bind fun legalNested others yieldsNested => by
          have yields : Yields container
              ⟨typeName, target.space, container.name, container.kind,
                layoutOf target.options container.kind container.code
                  container.truncatable container.children steps.1 others.1⟩ := by
            have later : YieldsSegments (slotScope container) container.segments others.1 := by
              rw [← yieldsBody.2]
              exact yieldsNested
            rw [yields_iff]
            exact ⟨target.options, steps.1, others.1, rfl, rfl, rfl, yieldsBody.1, later⟩
          have legal := (legal_iff container).mpr ⟨legalName, legalBody, legalNested⟩
          exact (meets_register stored legal yields).bind fun _ _ _ => .pure yields
  apply parts.congr
  rw [legal_iff, and_iff_left trivial, and_iff_left trivial]

/-- A child is compiled by compiling its node. -/
theorem meets_compileChild (scope : Scope) (occurs : Schema.Occurs) {node : Node}
    (bound : Meets (SoundRegistry store) (LegalNode node) (YieldsBinding node)
      (compileBinding target node)) :
    Meets (SoundRegistry store)
      ((∃ identifier, Naming.propertyIdentifier node.name = .ok identifier) ∧ LegalNode node)
      (fun result =>
        ∃ binding,
          result = (⟨(claimed scope node.name).1, node.name, occurs, binding⟩,
            (claimed scope node.name).2) ∧ YieldsBinding node binding)
      (compileChild target scope ⟨occurs, node⟩) := by
  rw [compileChild]
  apply (meets_claimProperty _ scope node.name).bind
  rintro - _ rfl
  apply Meets.congr _ (and_iff_left trivial)
  apply bound.bind
  intro _ binding yields
  exact .pure ⟨binding, rfl, yields⟩

mutual

/-- Compiling a container gives a type that it yields. -/
theorem meets_compileContainer (container : Container)
    (stored : ∀ inner ∈ container.containers, store inner.id = some inner) :
    Meets (SoundRegistry store) (Legal container) (Yields container)
      (compileContainer target container) := by
  match container with
  | ⟨id, kind, name, code, truncatable, documentation, children, segments⟩ =>
      rw [Schema.Container.containers, List.forall_mem_cons, List.forall_mem_append] at stored
      obtain ⟨storedHere, storedBody, storedNested⟩ := stored
      intro session sound
      rw [run_compileContainer]
      cases found : session.registry.get? id with
      | some type =>
          obtain ⟨known, storedThere, legal, yields⟩ := sound id type found
          rw [storedHere, Option.some.injEq] at storedThere
          subst storedThere
          exact ⟨sound, legal, yields⟩
      | none =>
          exact meets_compileFresh target storedHere
            (meets_compileBody target fun leading level =>
              meets_compileChildren leading level [] children storedBody)
            (fun scope => meets_compileSegments scope segments storedNested) session sound

theorem meets_compileChildren (leading : Option Level) (level : Level) (scope : Scope)
    (children : List Child)
    (stored : ∀ inner ∈ Schema.containersOf children, store inner.id = some inner) :
    Meets (SoundRegistry store) (LegalChildren children)
      (fun result =>
        YieldsChildren leading level scope children result.1 ∧
          result.2 = scopeAfter scope children)
      (compileChildren target leading level scope children) := by
  match children with
  | [] =>
      rw [LegalChildren, compileChildren]
      exact .pure ⟨rfl, rfl⟩
  | ⟨occurs, node⟩ :: rest =>
      rw [Schema.containersOf, List.forall_mem_append] at stored
      rw [LegalChildren, compileChildren]
      have child := meets_compileChild target scope occurs (meets_compileBinding node stored.1)
      apply Meets.congr _ and_assoc
      apply child.bind
      rintro - _ ⟨binding, rfl, bound⟩
      apply Meets.congr _ (and_iff_left trivial)
      apply (meets_compileChildren (some level) level _ rest stored.2).bind
      rintro - ⟨others, names⟩ ⟨further, rfl⟩
      exact .pure ⟨⟨binding, others, rfl, bound, further⟩, rfl⟩

theorem meets_compileSegments (scope : Scope) (segments : List Child)
    (stored : ∀ inner ∈ Schema.containersOf segments, store inner.id = some inner) :
    Meets (SoundRegistry store) (LegalChildren segments)
      (fun result => YieldsSegments scope segments result.1)
      (compileSegments target scope segments) := by
  match segments with
  | [] =>
      rw [LegalChildren, compileSegments]
      exact .pure rfl
  | ⟨occurs, node⟩ :: rest =>
      rw [Schema.containersOf, List.forall_mem_append] at stored
      rw [LegalChildren, compileSegments]
      have child := meets_compileChild target scope occurs (meets_compileBinding node stored.1)
      apply Meets.congr _ and_assoc
      apply child.bind
      rintro - _ ⟨binding, rfl, bound⟩
      apply Meets.congr _ (and_iff_left trivial)
      apply (meets_compileSegments _ rest stored.2).bind
      rintro - ⟨others, names⟩ further
      exact .pure ⟨binding, others, rfl, bound, further⟩

theorem meets_compileBinding (node : Node)
    (stored : ∀ inner ∈ node.containers, store inner.id = some inner) :
    Meets (SoundRegistry store) (LegalNode node) (YieldsBinding node)
      (compileBinding target node) := by
  match node with
  | .value content =>
      rw [LegalNode, compileBinding]
      exact meets_bindValue _ content
  | .container content =>
      rw [LegalNode, compileBinding]
      apply Meets.congr _ (and_iff_left trivial)
      apply (meets_compileContainer content stored).bind
      intro _ type yields
      exact .pure ⟨type, rfl, yields⟩

end

/-- Only a container can be the root of what is compiled. -/
theorem meets_compileRoot (root : Node) (stored : root.StoredIn store) :
    Meets (SoundRegistry store) (∃ container, root = .container container ∧ Legal container)
      (fun type => ∃ container, root = .container container ∧ Yields container type)
      (compileRoot target root) := by
  cases root with
  | value content => exact .throw _ (by simp)
  | container content =>
      have compiled := meets_compileContainer target content stored
      have rooted : Legal content ↔
          ∃ container, Node.container content = .container container ∧ Legal container := by
        constructor
        · intro legal
          exact ⟨content, rfl, legal⟩
        · rintro ⟨container, same, legal⟩
          cases same
          exact legal
      apply Meets.congr _ rooted
      apply compiled.weaken
      intro type yields
      exact ⟨content, rfl, yields⟩

end

/-! ## Compiling models -/

section

variable {store : NodeId → Option Container} {registry : Registry} {target : Target}
  {model : Model}

/-- Compiling with a valid namespace is compiling the root. -/
theorem compile_of_checkNamespace
    (valid : Naming.checkNamespace target.space = .ok ()) :
    (Compiler.compile target model registry).2 =
        ((compileRoot target model.root).run.run ⟨registry, []⟩).2.registry ∧
      (Compiler.compile target model registry).1.map CompiledModel.root =
        ((compileRoot target model.root).run.run ⟨registry, []⟩).1 := by
  unfold Compiler.compile
  rw [valid]
  rcases (compileRoot target model.root).run.run ⟨registry, []⟩ with ⟨_ | _, _⟩ <;>
    exact ⟨rfl, rfl⟩

/-- Compiling a model keeps a registry sound. -/
theorem SoundRegistry.compile (sound : SoundRegistry store registry) (target : Target)
    (stored : model.root.StoredIn store) :
    SoundRegistry store (Compiler.compile target model registry).2 := by
  cases valid : Naming.checkNamespace target.space with
  | error illegal =>
      unfold Compiler.compile
      rw [valid]
      exact sound
  | ok _ =>
      rw [(compile_of_checkNamespace valid).1]
      exact (meets_compileRoot target model.root stored ⟨registry, []⟩ sound).1

/-- Only a valid namespace can be compiled into. -/
theorem checkNamespace_of_compile {compiled : CompiledModel}
    (success : (Compiler.compile target model registry).1 = .ok compiled) :
    Naming.checkNamespace target.space = .ok () := by
  unfold Compiler.compile at success
  cases valid : Naming.checkNamespace target.space with
  | error illegal =>
      rw [valid] at success
      cases success
  | ok _ => rfl

/-- A compiled model is described as its model and placed as its target says. -/
theorem described_of_compile {compiled : CompiledModel}
    (success : (Compiler.compile target model registry).1 = .ok compiled) :
    compiled.description = model.description ∧ compiled.space = target.space ∧
      compiled.options = target.options := by
  unfold Compiler.compile at success
  split at success
  · cases success
  · split at success <;> cases success
    exact ⟨rfl, rfl, rfl⟩

/-- A model is compiled when its schema is legal, with any registry and into any valid
namespace. -/
theorem compile_ok_iff (sound : SoundRegistry store registry)
    (stored : model.root.StoredIn store)
    (valid : Naming.checkNamespace target.space = .ok ()) :
    (∃ compiled, (Compiler.compile target model registry).1 = .ok compiled) ↔
      ∃ container, model.root = .container container ∧ Legal container := by
  obtain ⟨-, result⟩ := meets_compileRoot target model.root stored ⟨registry, []⟩ sound
  rw [← (compile_of_checkNamespace valid).2] at result
  cases outcome : (Compiler.compile target model registry).1 with
  | error error =>
      rw [outcome] at result
      constructor
      · rintro ⟨compiled, success⟩
        cases success
      · intro legal
        exact absurd legal result
  | ok compiled =>
      rw [outcome] at result
      exact ⟨fun _ => result.1, fun _ => ⟨compiled, rfl⟩⟩

/-- The root of a compiled model is a type that the root of the schema yields. -/
theorem yields_of_compile (sound : SoundRegistry store registry)
    (stored : model.root.StoredIn store) {compiled : CompiledModel}
    (success : (Compiler.compile target model registry).1 = .ok compiled) :
    ∃ container, model.root = .container container ∧ Yields container compiled.root := by
  have valid := checkNamespace_of_compile success
  obtain ⟨-, result⟩ := meets_compileRoot target model.root stored ⟨registry, []⟩ sound
  rw [← (compile_of_checkNamespace valid).2, success] at result
  exact result.2

end

/-- The registries that are reached from the empty one by compiling stored models, each
into some target, with or without success. -/
inductive Reached (store : NodeId → Option Container) : Registry → Prop
  | empty : Reached store []
  | compile {registry : Registry} (before : Reached store registry) (target : Target)
      (model : Model) (stored : model.root.StoredIn store) :
      Reached store (Compiler.compile target model registry).2

/-- Every registry that is reached is sound. -/
theorem Reached.sound {store : NodeId → Option Container} {registry : Registry}
    (reached : Reached store registry) : SoundRegistry store registry := by
  induction reached with
  | empty => exact soundRegistry_empty store
  | compile before target model stored ih => exact ih.compile target stored

end FlatMessage.Compiler
