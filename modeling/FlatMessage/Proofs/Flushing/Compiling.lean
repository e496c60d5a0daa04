import FlatMessage.Proofs.Compilation
import FlatMessage.Proofs.Flushing.Setting

/-!
# Compiling with another flush option

A compilation goes the same way whatever its flush option is.  Running it with the option
set, on types that have it set, gives what it gives without, with the option set in all
that it returns and registers.  So a type that was registered by an earlier compilation
with the same option has it at every depth, like a type that is created.
-/

namespace FlatMessage.Compiler

open Codec (CompiledType Property Step)
open Delimiter (Level)
open Naming (Scope)
open Schema (Child Container ContainerKind Model Node NodeId ValueNode)

/-! ## Parts of a compilation -/

/-- A session in which the registered types have the flush option set. -/
def Session.flushing (flag : Bool) (session : Session) : Session :=
  { session with registry := session.registry.flushing flag }

/-- On types with the flush option set, `other` does what `computation` does, and `change`
sets the option in its result. -/
def SetsIn {α : Type} (flag : Bool) (change : α → α) (computation other : Compilation α) :
    Prop :=
  ∀ session : Session,
    other.run.run (session.flushing flag) =
      ((computation.run.run session).1.map change,
        (computation.run.run session).2.flushing flag)

namespace SetsIn

variable {α β : Type} {flag : Bool} {change : α → α}

theorem pure (result : α) :
    SetsIn flag change (pure result) (pure (change result)) := by
  intro session
  rfl

theorem throw (error : CompileError) : SetsIn flag change (throw error) (throw error) := by
  intro session
  rfl

/-- Sequences agree when their parts do. -/
theorem bind {final : β → β} {first first' : Compilation α} {next next' : α → Compilation β}
    (before : SetsIn flag change first first')
    (after : ∀ result, SetsIn flag final (next result) (next' (change result))) :
    SetsIn flag final (first >>= next) (first' >>= next') := by
  intro session
  rw [run_bind, run_bind, before session]
  rcases first.run.run session with ⟨error | result, middle⟩
  · rfl
  · exact after result middle

end SetsIn

section

variable {flag : Bool}

theorem setsIn_claimTypeName (nodeName : String) :
    SetsIn flag id (claimTypeName nodeName) (claimTypeName nodeName) := by
  unfold claimTypeName
  cases Naming.typeIdentifier nodeName with
  | error illegal => exact .throw _
  | ok identifier =>
      intro session
      rfl

theorem setsIn_claimProperty (scope : Scope) (nodeName : String) :
    SetsIn flag id (claimProperty scope nodeName) (claimProperty scope nodeName) := by
  unfold claimProperty
  cases Naming.propertyIdentifier nodeName with
  | error illegal => exact .throw _
  | ok identifier => exact .pure _

/-- The binding of a leaf has no flush option. -/
theorem setsIn_bindValue (content : ValueNode) :
    SetsIn flag (Codec.Binding.flushing flag) (bindValue content) (bindValue content) := by
  unfold bindValue
  cases content.dataType with
  | none => exact .pure _
  | some dataType =>
      dsimp only
      cases Encoder.build dataType content.options with
      | error error => exact .throw _
      | ok encoder => exact .pure _

theorem setsIn_register (node : NodeId) (type : CompiledType) :
    SetsIn flag id (register node type) (register node (type.flushing flag)) := by
  intro session
  have registered := Registry.register_flushing flag session.registry node type
  exact congrArg (fun registry => (Except.ok (), Session.mk registry session.names)) registered

/-- The layout of a container flushes as its options say. -/
theorem layoutOf_flushing (flag : Bool) (options : Options) (kind : ContainerKind)
    (code : Option String) (truncatable : Bool) (children : List Child)
    (body segments : List Step) :
    (layoutOf options kind code truncatable children body segments).flushing flag =
      layoutOf { options with flushSegments := flag } kind code truncatable children
        (body.map (Step.flushing flag)) (segments.map (Step.flushing flag)) := by
  rw [Codec.Layout.flushing_eq]
  cases coded : writesCode kind children <;> simp [layoutOf, coded]

/-! ## Compiling a tree -/

/-- Steps and the property names they take, with the flush option set. -/
def flushingSteps (flag : Bool) (result : List Step × Scope) : List Step × Scope :=
  (result.1.map (Step.flushing flag), result.2)

/-- A property and the names that are taken, with the flush option set. -/
def flushingProperty (flag : Bool) (result : Property × Scope) : Property × Scope :=
  (result.1.flushing flag, result.2)

variable (target : Target)

theorem setsIn_compileBody {container : Container}
    (delimited : ∀ leading level,
      SetsIn flag (flushingSteps flag)
        (compileChildren target leading level [] container.children)
        (compileChildren (target.flushing flag) leading level [] container.children)) :
    SetsIn flag (flushingSteps flag) (compileBody target container)
      (compileBody (target.flushing flag) container) := by
  unfold compileBody
  cases container.kind.childLevel? with
  | none => exact .pure _
  | some level => exact delimited _ level

/-- A container that is not registered is compiled by compiling what is in it. -/
theorem setsIn_compileFresh {container : Container}
    (body : SetsIn flag (flushingSteps flag) (compileBody target container)
      (compileBody (target.flushing flag) container))
    (nested : ∀ scope,
      SetsIn flag (flushingSteps flag) (compileSegments target scope container.segments)
        (compileSegments (target.flushing flag) scope container.segments)) :
    SetsIn flag (CompiledType.flushing flag) (compileFresh target container)
      (compileFresh (target.flushing flag) container) := by
  unfold compileFresh
  apply (setsIn_claimTypeName container.name).bind
  intro typeName
  apply body.bind
  intro steps
  apply (nested steps.2).bind
  intro others
  have created : (⟨typeName, (target.flushing flag).space, container.name, container.kind,
      layoutOf (target.flushing flag).options container.kind container.code
        container.truncatable container.children (flushingSteps flag steps).1
        (flushingSteps flag others).1⟩ : CompiledType) =
      CompiledType.flushing flag ⟨typeName, target.space, container.name, container.kind,
        layoutOf target.options container.kind container.code container.truncatable
          container.children steps.1 others.1⟩ := by
    rw [CompiledType.flushing, layoutOf_flushing]
    rfl
  dsimp only [id]
  rw [created]
  apply (setsIn_register container.id _).bind
  intro done
  exact .pure _

theorem setsIn_compileChild (scope : Scope) (occurs : Schema.Occurs) {node : Node}
    (bound : SetsIn flag (Codec.Binding.flushing flag) (compileBinding target node)
      (compileBinding (target.flushing flag) node)) :
    SetsIn flag (flushingProperty flag) (compileChild target scope ⟨occurs, node⟩)
      (compileChild (target.flushing flag) scope ⟨occurs, node⟩) := by
  rw [compileChild, compileChild]
  apply (setsIn_claimProperty scope node.name).bind
  rintro ⟨name, names⟩
  apply bound.bind
  intro binding
  exact .pure _

mutual

/-- Compiling a container creates a type with the flush option, or finds one. -/
theorem setsIn_compileContainer (container : Container) :
    SetsIn flag (CompiledType.flushing flag) (compileContainer target container)
      (compileContainer (target.flushing flag) container) := by
  match container with
  | ⟨id, kind, name, code, truncatable, documentation, children, segments⟩ =>
      intro session
      rw [run_compileContainer, run_compileContainer, Session.flushing,
        Registry.get?_flushing]
      cases session.registry.get? id with
      | some type => rfl
      | none =>
          exact setsIn_compileFresh target
            (setsIn_compileBody target fun leading level =>
              setsIn_compileChildren leading level [] children)
            (fun scope => setsIn_compileSegments scope segments) session

theorem setsIn_compileChildren (leading : Option Level) (level : Level) (scope : Scope)
    (children : List Child) :
    SetsIn flag (flushingSteps flag) (compileChildren target leading level scope children)
      (compileChildren (target.flushing flag) leading level scope children) := by
  match children with
  | [] =>
      rw [compileChildren, compileChildren]
      exact .pure _
  | ⟨occurs, node⟩ :: rest =>
      rw [compileChildren, compileChildren]
      apply (setsIn_compileChild target scope occurs (setsIn_compileBinding node)).bind
      rintro ⟨property, names⟩
      apply (setsIn_compileChildren (some level) level names rest).bind
      rintro ⟨steps, others⟩
      exact .pure _

theorem setsIn_compileSegments (scope : Scope) (segments : List Child) :
    SetsIn flag (flushingSteps flag) (compileSegments target scope segments)
      (compileSegments (target.flushing flag) scope segments) := by
  match segments with
  | [] =>
      rw [compileSegments, compileSegments]
      exact .pure _
  | ⟨occurs, node⟩ :: rest =>
      rw [compileSegments, compileSegments]
      apply (setsIn_compileChild target scope occurs (setsIn_compileBinding node)).bind
      rintro ⟨property, names⟩
      apply (setsIn_compileSegments names rest).bind
      rintro ⟨steps, others⟩
      exact .pure _

theorem setsIn_compileBinding (node : Node) :
    SetsIn flag (Codec.Binding.flushing flag) (compileBinding target node)
      (compileBinding (target.flushing flag) node) := by
  match node with
  | .value content =>
      rw [compileBinding, compileBinding]
      exact setsIn_bindValue content
  | .container content =>
      rw [compileBinding, compileBinding]
      apply (setsIn_compileContainer content).bind
      intro type
      rw [← Codec.Binding.flushing_bean]
      exact .pure _

end

theorem setsIn_compileRoot (flag : Bool) (root : Node) :
    SetsIn flag (CompiledType.flushing flag) (compileRoot target root)
      (compileRoot (target.flushing flag) root) := by
  cases root with
  | value content => exact .throw _
  | container content => exact setsIn_compileContainer target content

end

/-! ## Compiling models -/

/-- A model is compiled with the flush option set, on a registry that has it set, as it is
compiled without. -/
theorem compile_flushing (flag : Bool) (target : Target) (model : Model)
    (registry : Registry) :
    compile (target.flushing flag) model (registry.flushing flag) =
      ((compile target model registry).1.map (CompiledModel.flushing flag),
        (compile target model registry).2.flushing flag) := by
  have root := setsIn_compileRoot target flag model.root ⟨registry, []⟩
  have length : (registry.flushing flag).length = registry.length := List.length_map ..
  have space : (target.flushing flag).space = target.space := rfl
  unfold compile
  rw [space]
  cases Naming.checkNamespace target.space with
  | error illegal => rfl
  | ok _ =>
      rw [Session.flushing] at root
      dsimp only at root ⊢
      rw [root]
      rcases (compileRoot target model.root).run.run ⟨registry, []⟩ with
        ⟨error | type, session⟩
      · rfl
      · simp only [Except.map, Session.flushing, length, CompiledModel.flushing,
          Registry.drop_flushing, Registry.types_flushing]
        rfl

end FlatMessage.Compiler
