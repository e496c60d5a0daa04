import FlatMessage.Proofs.Bindings.Arena
import FlatMessage.Proofs.Bindings.Linked
import FlatMessage.Proofs.DirectReading
import FlatMessage.Proofs.Unambiguous.Shape

/-!
# Binding trees unfold schemas

A binding tree is built from compiled types, which a schema shares wherever it shares a
container.  In a linked registry it is the unfolding of the schema all the same: under every
bean there is one binding for each edge of its container, with the name of the node and the
occurrences of that edge.
-/

namespace FlatMessage.Compiler

open Codec (CompiledType Property)
open Schema (Child Container Model Node NodeId ValueNode containersOf)

/-- A binding tree unfolds an edge of a schema.  An edge to a leaf is a binding without a
type and without bindings under it; an edge to a container names the type that is registered
for it and has an unfolding of every edge of the container under it, in order. -/
inductive Unfolds (registry : Registry) : Child → BindingTree → Prop
  | value {occurs : Schema.Occurs} {content : ValueNode} {property : Option String} :
      Unfolds registry ⟨occurs, .value content⟩ (.node ⟨content.name, property, none, occurs⟩ [])
  | container {occurs : Schema.Occurs} {content : Container} {property : Option String}
      {type : CompiledType} {children : List BindingTree}
      (registered : registry.get? content.id = some type)
      (unfolded : List.Forall₂ (Unfolds registry) content.edges children) :
      Unfolds registry ⟨occurs, .container content⟩
        (.node ⟨content.name, property, some type.qualifiedName, occurs⟩ children)

/-- All edges of a sound container are compiled. -/
theorem typedEdges_of_sound {container : Container} (sound : container.Sound) :
    container.typedEdges = container.edges := by
  obtain ⟨id, kind, name, code, truncatable, documentation, children, segments⟩ := container
  rw [Container.Sound] at sound
  cases kind with
  | segmentGroup =>
      obtain rfl : children = [] := sound.1
      rfl
  | segment => rfl
  | field => rfl
  | component => rfl

/-- What is shown of each edge holds of the properties that come from the edges. -/
theorem forall₂_ofProp {registry : Registry} {properties : List Property}
    {edges : List Child} (come : List.Forall₂ (ComesFrom registry) properties edges)
    (each : ∀ edge ∈ edges, ∀ property, ComesFrom registry property edge →
      Unfolds registry edge (.ofProp property)) :
    List.Forall₂ (Unfolds registry) edges (properties.map .ofProp) := by
  induction come with
  | nil => exact .nil
  | cons comes rest ih =>
      rw [List.forall_mem_cons] at each
      exact .cons (each.1 _ comes) (ih each.2)

section

variable {store : NodeId → Option Container} {registry : Registry}

mutual

/-- The edges of a container are unfolded by the properties of its type. -/
theorem forall₂_unfolds (linked : registry.Linked store) (container : Container)
    (stored : ∀ inner ∈ container.containers,
      store inner.id = some inner ∧ inner.typedEdges = inner.edges)
    {type : CompiledType} (registered : registry.get? container.id = some type) :
    type.nodeName = container.name ∧
      List.Forall₂ (Unfolds registry) container.edges (type.properties.map .ofProp) := by
  obtain ⟨origin, known, isTypeOf⟩ := linked _ type registered
  obtain ⟨self, all⟩ := stored container container.self_mem_containers
  rw [self, Option.some.injEq] at known
  subst known
  refine ⟨isTypeOf.nodeName, ?_⟩
  match container with
  | ⟨id, kind, name, code, truncatable, documentation, children, segments⟩ =>
      rw [Schema.Container.containers, List.forall_mem_cons, List.forall_mem_append] at stored
      obtain ⟨-, inChildren, inSegments⟩ := stored
      refine forall₂_ofProp (all ▸ isTypeOf.properties) ?_
      exact List.forall_mem_append.mpr
        ⟨unfolds_of_mem linked children inChildren, unfolds_of_mem linked segments inSegments⟩

theorem unfolds_of_mem (linked : registry.Linked store) (edges : List Child)
    (stored : ∀ inner ∈ containersOf edges,
      store inner.id = some inner ∧ inner.typedEdges = inner.edges) :
    ∀ edge ∈ edges, ∀ property, ComesFrom registry property edge →
      Unfolds registry edge (.ofProp property) := by
  match edges with
  | [] => exact nofun
  | ⟨occurs, node⟩ :: rest =>
      rw [containersOf, List.forall_mem_append] at stored
      rw [List.forall_mem_cons]
      refine ⟨fun property comes => ?_, unfolds_of_mem linked rest stored.2⟩
      exact unfolds_node linked node stored.1 comes

theorem unfolds_node (linked : registry.Linked store) (node : Node)
    (stored : ∀ inner ∈ node.containers,
      store inner.id = some inner ∧ inner.typedEdges = inner.edges)
    {occurs : Schema.Occurs} {property : Property}
    (comes : ComesFrom registry property ⟨occurs, node⟩) :
    Unfolds registry ⟨occurs, node⟩ (.ofProp property) := by
  obtain ⟨named, same, bound⟩ := comes
  match node with
  | .value content =>
      obtain ⟨scalar, bound⟩ := bound
      rw [BindingTree.ofProp_scalar bound, named, same]
      exact .value
  | .container content =>
      obtain ⟨type, registered, bound⟩ := bound
      rw [BindingTree.ofProp_bean bound, named, same]
      exact .container registered (forall₂_unfolds linked content stored registered).2

end

/-- The binding tree of a valid model unfolds its schema, with every registry that is
reached.  In an arena it is held from the first node on, by nodes of which each but the first
is linked once, under an earlier one. -/
theorem bindings_unfold_schema (reached : Reached store registry) {model : Model}
    (valid : model.validate = .ok ()) (stored : model.root.StoredIn store) {target : Target}
    {compiled : CompiledModel}
    (success : (compile target model registry).1 = .ok compiled) :
    Unfolds (compile target model registry).2 ⟨.once, model.root⟩ compiled.bindings ∧
      compiled.bindings.binding.property = none ∧
      (Arena.build compiled.root).Holds 0 compiled.bindings ∧
      (Arena.build compiled.root).Wired ∧
      (Arena.build compiled.root).length = compiled.bindings.size := by
  obtain ⟨linked, rooted⟩ := reached.linked.compile target stored
  obtain ⟨root, tree, registered⟩ := rooted compiled success
  obtain ⟨other, same, -, sound⟩ := Model.sound_of_validate valid
  obtain rfl : root = other := Node.container.inj (tree ▸ same)
  rw [tree] at stored ⊢
  have whole : ∀ inner ∈ root.containers,
      store inner.id = some inner ∧ inner.typedEdges = inner.edges :=
    fun inner member => ⟨stored inner member, typedEdges_of_sound (sound.of_mem inner member)⟩
  obtain ⟨named, unfolded⟩ := forall₂_unfolds linked root whole registered
  refine ⟨?_, rfl, Arena.holds_build _, Arena.wired_build _, ?_⟩
  · rw [CompiledModel.bindings, BindingTree.ofType_eq, named]
    exact .container registered unfolded
  · rw [Arena.build_eq_nodes, Arena.length_nodes]
    rfl

end

/-- The binding tree of a notice unfolds it, although its notes were compiled into another
namespace by a compilation that failed. -/
theorem bindings_unfold_notice :
    ∃ compiled,
      (compile ⟨"com.acme", .standalone⟩ Schema.notice
        (compile ⟨"com.other", .definitions⟩ unnamed []).2).1 = .ok compiled ∧
      Unfolds
        (compile ⟨"com.acme", .standalone⟩ Schema.notice
          (compile ⟨"com.other", .definitions⟩ unnamed []).2).2
        ⟨.once, Schema.notice.root⟩ compiled.bindings ∧
      (compiled.bindings.at? [0]).map BindingTree.binding =
        some ⟨"note", some "note", some "com.other.Note", ⟨0, none⟩⟩ ∧
      (Arena.build compiled.root).map ArenaNode.parent =
        [none, some 0, some 1, some 1, some 3, some 3] := by
  have reached := Reached.empty.compile ⟨"com.other", .definitions⟩ unnamed unnamed_storedIn
  have success : (compile ⟨"com.acme", .standalone⟩ Schema.notice
    (compile ⟨"com.other", .definitions⟩ unnamed []).2).1 = .ok _ := rfl
  have unfolds := bindings_unfold_schema reached rfl notice_storedIn_sharedStore success
  exact ⟨_, success, unfolds.1, rfl, rfl⟩

end FlatMessage.Compiler
