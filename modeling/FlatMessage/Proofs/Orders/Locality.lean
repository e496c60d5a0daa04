import FlatMessage.Proofs.Compilation
import FlatMessage.Proofs.Containers

/-!
# What a compilation reads

A compilation reads a registry only at the containers of its own model that it compiles.
Two registries that agree there lead to the same outcome, and the same types are registered
after the others.  Where a model was read from has no influence on how it is compiled.
-/

namespace FlatMessage.Compiler

open Codec (CompiledType)
open Delimiter (Level)
open Naming (Scope)
open Schema (Child Container Model Node NodeId typedOf)

/-- Two registries agree on some containers: they have the same types, or none. -/
def Registry.AgreeOn (nodes : List NodeId) (registry other : Registry) : Prop :=
  ∀ id ∈ nodes, registry.get? id = other.get? id

/-- What is found in a registry that has grown. -/
theorem Registry.get?_append (registry added : Registry) (id : NodeId) :
    Registry.get? (registry ++ added) id = (registry.get? id).or (added.get? id) :=
  List.lookup_append

theorem Registry.AgreeOn.refl (nodes : List NodeId) (registry : Registry) :
    registry.AgreeOn nodes registry :=
  fun _ _ => rfl

/-- Registries that agree still do after the same types are registered in both. -/
theorem Registry.AgreeOn.append {nodes : List NodeId} {registry other : Registry}
    (agree : registry.AgreeOn nodes other) (added : Registry) :
    Registry.AgreeOn nodes (registry ++ added) (other ++ added) := by
  intro id member
  rw [Registry.get?_append, Registry.get?_append, agree id member]

/-- From registries that agree on the containers `nodes`, a part of a compilation has the
same outcome, and it registers the same types, for containers among `nodes`. -/
def Local {α : Type} (nodes : List NodeId) (computation : Compilation α) : Prop :=
  ∀ (names : Scope) (registry other : Registry), registry.AgreeOn nodes other →
    ∃ outcome added taken,
      computation.run.run ⟨registry, names⟩ = (outcome, ⟨registry ++ added, taken⟩) ∧
        computation.run.run ⟨other, names⟩ = (outcome, ⟨other ++ added, taken⟩) ∧
          ∀ entry ∈ added, entry.1 ∈ nodes

namespace Local

variable {α β : Type} {nodes : List NodeId}

theorem pure (result : α) : Local nodes (pure result) := by
  intro names registry other agree
  refine ⟨.ok result, [], names, ?_, ?_, nofun⟩
  · rw [List.append_nil]
    rfl
  · rw [List.append_nil]
    rfl

theorem throw (error : CompileError) : Local nodes (throw error : Compilation α) := by
  intro names registry other agree
  refine ⟨.error error, [], names, ?_, ?_, nofun⟩
  · rw [List.append_nil]
    rfl
  · rw [List.append_nil]
    rfl

theorem bind {first : Compilation α} {next : α → Compilation β} (before : Local nodes first)
    (after : ∀ result, Local nodes (next result)) : Local nodes (first >>= next) := by
  intro names registry other agree
  obtain ⟨outcome, added, taken, here, there, among⟩ := before names registry other agree
  cases outcome with
  | error error =>
      refine ⟨.error error, added, taken, ?_, ?_, among⟩
      · rw [run_bind, here]
      · rw [run_bind, there]
  | ok result =>
      obtain ⟨final, more, names', here', there', among'⟩ :=
        after result taken _ _ (agree.append added)
      refine ⟨final, added ++ more, names', ?_, ?_, ?_⟩
      · rw [run_bind, here, ← List.append_assoc]
        exact here'
      · rw [run_bind, there, ← List.append_assoc]
        exact there'
      · rw [List.forall_mem_append]
        exact ⟨among, among'⟩

end Local

section

variable {nodes : List NodeId} (target : Target)

theorem local_claimTypeName (nodeName : String) : Local nodes (claimTypeName nodeName) := by
  unfold claimTypeName
  cases Naming.typeIdentifier nodeName with
  | error illegal => exact .throw _
  | ok identifier =>
      intro names registry other agree
      refine ⟨.ok (names.claim identifier "").1, [], (names.claim identifier "").2, ?_, ?_,
        nofun⟩
      · rw [List.append_nil]
        rfl
      · rw [List.append_nil]
        rfl

theorem local_claimProperty (scope : Scope) (nodeName : String) :
    Local nodes (claimProperty scope nodeName) := by
  unfold claimProperty
  split
  · exact .throw _
  · exact .pure _

theorem local_bindValue (content : Schema.ValueNode) : Local nodes (bindValue content) := by
  unfold bindValue
  split
  · exact .pure _
  · split
    · exact .pure _
    · exact .throw _

/-- A type is registered in both registries or in neither. -/
theorem local_register {id : NodeId} (member : id ∈ nodes) (type : CompiledType) :
    Local nodes (register id type) := by
  intro names registry other agree
  have same := agree id member
  cases found : registry.get? id with
  | some known =>
      rw [found] at same
      refine ⟨.ok (), [], names, ?_, ?_, nofun⟩
      · rw [List.append_nil]
        change (_, ({ registry := registry.register id type, names } : Session)) = _
        rw [Registry.register, found]
      · rw [List.append_nil]
        change (_, ({ registry := other.register id type, names } : Session)) = _
        rw [Registry.register, ← same]
  | none =>
      rw [found] at same
      refine ⟨.ok (), [(id, type)], names, ?_, ?_, by simpa using member⟩
      · change (_, ({ registry := registry.register id type, names } : Session)) = _
        rw [Registry.register, found]
      · change (_, ({ registry := other.register id type, names } : Session)) = _
        rw [Registry.register, ← same]

theorem local_compileBody (container : Container)
    (delimited : container.kind.childLevel?.isSome = true → ∀ leading level,
      Local nodes (compileChildren target leading level [] container.children)) :
    Local nodes (compileBody target container) := by
  unfold compileBody
  cases level? : container.kind.childLevel? with
  | some level => exact delimited (by rw [level?]; rfl) _ level
  | none => exact .pure _

theorem local_compileFresh {container : Container} (member : container.id ∈ nodes)
    (body : Local nodes (compileBody target container))
    (nested : ∀ scope, Local nodes (compileSegments target scope container.segments)) :
    Local nodes (compileFresh target container) :=
  (local_claimTypeName container.name).bind fun _ =>
    body.bind fun steps =>
      (nested steps.2).bind fun _ =>
        (local_register member _).bind fun _ => .pure _

theorem local_compileChild (scope : Scope) (occurs : Schema.Occurs) {node : Node}
    (bound : Local nodes (compileBinding target node)) :
    Local nodes (compileChild target scope ⟨occurs, node⟩) := by
  rw [compileChild]
  exact (local_claimProperty scope node.name).bind fun _ => bound.bind fun _ => .pure _

mutual

/-- Compiling a container reads the registry at the containers that are compiled. -/
theorem local_compileContainer (container : Container)
    (among : ∀ inner ∈ container.typed, inner.id ∈ nodes) :
    Local nodes (compileContainer target container) := by
  match container with
  | ⟨id, kind, name, code, truncatable, documentation, children, segments⟩ =>
      rw [Container.typed, List.forall_mem_cons, List.forall_mem_append] at among
      obtain ⟨here, inChildren, inSegments⟩ := among
      have body := local_compileBody target
        ⟨id, kind, name, code, truncatable, documentation, children, segments⟩
        fun delimited leading level =>
          local_compileChildren leading level [] children (by rwa [if_pos delimited] at inChildren)
      have fresh := local_compileFresh target here body fun scope =>
        local_compileSegments scope segments inSegments
      intro names registry other agree
      rw [run_compileContainer, run_compileContainer]
      dsimp only
      rw [← agree id here]
      cases found : registry.get? id with
      | some type => exact ⟨.ok type, [], names, by simp, by simp, nofun⟩
      | none => exact fresh names registry other agree

theorem local_compileChildren (leading : Option Level) (level : Level) (scope : Scope)
    (children : List Child) (among : ∀ inner ∈ typedOf children, inner.id ∈ nodes) :
    Local nodes (compileChildren target leading level scope children) := by
  match children with
  | [] =>
      rw [compileChildren]
      exact .pure _
  | ⟨occurs, node⟩ :: rest =>
      rw [typedOf, List.forall_mem_append] at among
      rw [compileChildren]
      have child := local_compileChild target scope occurs (local_compileBinding node among.1)
      exact child.bind fun result =>
        (local_compileChildren (some level) level result.2 rest among.2).bind fun _ => .pure _

theorem local_compileSegments (scope : Scope) (segments : List Child)
    (among : ∀ inner ∈ typedOf segments, inner.id ∈ nodes) :
    Local nodes (compileSegments target scope segments) := by
  match segments with
  | [] =>
      rw [compileSegments]
      exact .pure _
  | ⟨occurs, node⟩ :: rest =>
      rw [typedOf, List.forall_mem_append] at among
      rw [compileSegments]
      have child := local_compileChild target scope occurs (local_compileBinding node among.1)
      exact child.bind fun result =>
        (local_compileSegments result.2 rest among.2).bind fun _ => .pure _

theorem local_compileBinding (node : Node)
    (among : ∀ inner ∈ node.typed, inner.id ∈ nodes) :
    Local nodes (compileBinding target node) := by
  match node with
  | .value content =>
      rw [compileBinding]
      exact local_bindValue content
  | .container content =>
      rw [compileBinding]
      exact (local_compileContainer content among).bind fun _ => .pure _

end

/-- With registries that agree on what it compiles a model is compiled alike, and the same
types are registered. -/
theorem compile_of_agreeOn_typed (target : Target) (model : Model) {registry other : Registry}
    (agree : registry.AgreeOn (model.root.typed.map Container.id) other) :
    ∃ outcome added,
      compile target model registry = (outcome, registry ++ added) ∧
        compile target model other = (outcome, other ++ added) ∧
          ∀ entry ∈ added, entry.1 ∈ model.root.typed.map Container.id := by
  unfold compile
  cases Naming.checkNamespace target.space with
  | error illegal => exact ⟨.error (.illegalName illegal), [], by simp, by simp, nofun⟩
  | ok _ =>
      have root : Local (model.root.typed.map Container.id)
          (compileRoot target model.root) := by
        cases model.root with
        | value content => exact .throw _
        | container content =>
            exact local_compileContainer target content fun _ => List.mem_map_of_mem
      obtain ⟨outcome, added, taken, here, there, among⟩ := root [] registry other agree
      dsimp only
      rw [here, there]
      cases outcome with
      | error error => exact ⟨.error error, added, rfl, rfl, among⟩
      | ok type =>
          dsimp only
          rw [List.drop_left, List.drop_left]
          exact ⟨_, added, rfl, rfl, among⟩

/-- With registries that agree on all its containers a model is compiled alike, and the same
types are registered for some of its containers. -/
theorem compile_of_agreeOn (target : Target) (model : Model) {registry other : Registry}
    (agree : registry.AgreeOn (model.root.containers.map Container.id) other) :
    ∃ outcome added,
      compile target model registry = (outcome, registry ++ added) ∧
        compile target model other = (outcome, other ++ added) ∧
          ∀ entry ∈ added, entry.1 ∈ model.root.containers.map Container.id := by
  have part : model.root.typed.map Container.id ⊆ model.root.containers.map Container.id :=
    List.map_subset _ (Schema.Node.typed_subset model.root)
  obtain ⟨outcome, added, here, there, among⟩ :=
    compile_of_agreeOn_typed target model fun id member => agree id (part member)
  exact ⟨outcome, added, here, there, fun entry member => part (among entry member)⟩

end

end FlatMessage.Compiler

namespace FlatMessage

open Schema (Model)

/-- A model without the location that it was read from. -/
def Schema.Model.withoutSource (model : Model) : Model :=
  { model with source := none }

namespace Compiler

/-- A compiled model without the location that it was read from. -/
def CompiledModel.withoutSource (model : CompiledModel) : CompiledModel :=
  { model with source := none }

theorem compile_withoutSource (target : Target) (model : Model) (registry : Registry) :
    compile target model.withoutSource registry =
      ((compile target model registry).1.map CompiledModel.withoutSource,
        (compile target model registry).2) := by
  unfold compile Model.withoutSource
  cases Naming.checkNamespace target.space with
  | error illegal => rfl
  | ok _ =>
      dsimp only
      rcases (compileRoot target model.root).run.run ⟨registry, []⟩ with ⟨_ | _, _⟩ <;> rfl

end Compiler

end FlatMessage
