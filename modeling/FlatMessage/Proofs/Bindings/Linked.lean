import FlatMessage.Proofs.Objects.Mirroring
import FlatMessage.Proofs.Orders.Locality

/-!
# Linked registries

The properties of a registered type come from the edges of its container: its delimited
children, if its kind can have any, and then its nested segments.  Each keeps the name of
its node and the occurrences of its own edge, and the beans of an edge to a container have
the type that is registered for that container.

Compiling keeps a registry linked, whether it succeeds or fails.  What is inside a container
is compiled first, but never the container itself, so its type is not registered before it is
complete.
-/

namespace FlatMessage

open Schema (Child Container Model Node NodeId containersOf)

/-- The edges of a container: delimited children, then nested segments. -/
def Schema.Container.edges (container : Container) : List Child :=
  container.children ++ container.segments

/-- The edges of a container that are compiled. -/
def Schema.Container.typedEdges (container : Container) : List Child :=
  (if container.kind.childLevel?.isSome then container.children else []) ++
    container.segments

namespace Compiler

open Codec (CompiledType Property Step)
open Delimiter (Level)
open Naming (Scope)

/-! ## The invariant -/

/-- What a property is bound to that comes from a node: scalars, or the type that is
registered for a container. -/
def BoundTo (registry : Registry) (node : Node) (binding : Codec.Binding) : Prop :=
  match node with
  | .value _ => ∃ scalar, binding = .scalar scalar
  | .container content =>
      ∃ type, registry.get? content.id = some type ∧ binding = .bean type

/-- A property comes from an edge. -/
structure ComesFrom (registry : Registry) (property : Property) (child : Child) : Prop where
  nodeName : property.nodeName = child.node.name
  occurs : property.occurs = child.occurs
  bound : BoundTo registry child.node property.binding

/-- The properties of a type come from the edges of its container, one from each. -/
structure IsTypeOf (registry : Registry) (type : CompiledType) (container : Container) :
    Prop where
  nodeName : type.nodeName = container.name
  properties : List.Forall₂ (ComesFrom registry) type.properties container.typedEdges

/-- Every registered type is that of the container with its identity. -/
def Registry.Linked (store : NodeId → Option Container) (registry : Registry) : Prop :=
  ∀ id type, registry.get? id = some type →
    ∃ container, store id = some container ∧ IsTypeOf registry type container

section

variable {registry later : Registry}

/-- What is registered stays registered. -/
theorem Registry.get?_of_prefix (grown : registry <+: later) {id : NodeId}
    {type : CompiledType} (found : registry.get? id = some type) :
    later.get? id = some type := by
  obtain ⟨added, rfl⟩ := grown
  rw [Registry.get?_append, found, Option.some_or]

theorem ComesFrom.mono (grown : registry <+: later) {property : Property} {child : Child}
    (comes : ComesFrom registry property child) : ComesFrom later property child where
  nodeName := comes.nodeName
  occurs := comes.occurs
  bound := by
    have bound := comes.bound
    cases node : child.node with
    | value content => rwa [node] at bound
    | container content =>
        rw [node] at bound
        obtain ⟨type, found, same⟩ := bound
        exact ⟨type, Registry.get?_of_prefix grown found, same⟩

theorem IsTypeOf.mono (grown : registry <+: later) {type : CompiledType}
    {container : Container} (isTypeOf : IsTypeOf registry type container) :
    IsTypeOf later type container where
  nodeName := isTypeOf.nodeName
  properties := isTypeOf.properties.imp fun _ _ => ComesFrom.mono grown

/-- A registry stays linked when the type of a container that has none is added. -/
theorem Registry.Linked.add {store : NodeId → Option Container} (linked : registry.Linked store)
    {container : Container} (stored : store container.id = some container)
    {type : CompiledType}
    (isTypeOf : IsTypeOf (registry ++ [(container.id, type)]) type container) :
    Registry.Linked store (registry ++ [(container.id, type)]) := by
  intro id found lookup
  rw [Registry.get?_append, Option.or_eq_some_iff] at lookup
  rcases lookup with before | ⟨-, last⟩
  · obtain ⟨origin, known, isTypeOfOrigin⟩ := linked id found before
    exact ⟨origin, known, isTypeOfOrigin.mono (List.prefix_append _ _)⟩
  · rw [Registry.get?, List.lookup_cons] at last
    split at last
    · next same =>
        cases last
        rw [eq_of_beq same]
        exact ⟨container, stored, isTypeOf⟩
    · cases last

end

/-! ## Parts of a compilation -/

/-- A part of a compilation keeps a registry linked and what is registered, and its result
is as expected with every registry that grows out of it. -/
def Links {α : Type} (store : NodeId → Option Container) (expected : Registry → α → Prop)
    (computation : Compilation α) : Prop :=
  ∀ session : Session, session.registry.Linked store →
    session.registry <+: (computation.run.run session).2.registry ∧
      (computation.run.run session).2.registry.Linked store ∧
      ∀ result, (computation.run.run session).1 = .ok result →
        ∀ later, (computation.run.run session).2.registry <+: later → expected later result

namespace Links

variable {α β : Type} {store : NodeId → Option Container} {expected : Registry → α → Prop}
  {final : Registry → β → Prop}

theorem pure {result : α} (holds : ∀ later, expected later result) :
    Links store expected (pure result) := by
  intro session linked
  refine ⟨List.prefix_refl _, linked, ?_⟩
  rintro _ ⟨⟩ later -
  exact holds later

theorem throw (error : CompileError) : Links store expected (throw error) := by
  intro session linked
  exact ⟨List.prefix_refl _, linked, nofun⟩

/-- What is expected of the first result still holds when the second one is there. -/
theorem bind {first : Compilation α} {next : α → Compilation β}
    (before : Links store expected first)
    (after : ∀ result,
      Links store (fun later last => expected later result → final later last) (next result)) :
    Links store final (first >>= next) := by
  intro session linked
  obtain ⟨grown, kept, holds⟩ := before session linked
  rw [run_bind]
  rcases outcome : first.run.run session with ⟨result, middle⟩
  rw [outcome] at grown kept holds
  cases result with
  | error error => exact ⟨grown, kept, nofun⟩
  | ok result =>
      obtain ⟨grownLater, keptLater, holdsLater⟩ := after result middle kept
      refine ⟨grown.trans grownLater, keptLater, fun last success later further => ?_⟩
      exact holdsLater last success later further
        (holds result rfl later (grownLater.trans further))

end Links

/-- What a part of a compilation does not register is still absent. -/
theorem Local.get?_eq_none {α : Type} {nodes : List NodeId} {computation : Compilation α}
    (reads : Local nodes computation) {session : Session} {id : NodeId} (outside : id ∉ nodes)
    (absent : session.registry.get? id = none) :
    (computation.run.run session).2.registry.get? id = none := by
  obtain ⟨outcome, added, taken, run, -, among⟩ :=
    reads session.names session.registry session.registry (.refl _ _)
  rw [run]
  rw [Registry.get?_append, absent, Option.none_or, Registry.get?, List.lookup_eq_none_iff]
  intro entry member
  have differs : id ≠ entry.1 := by
    rintro rfl
    exact outside (among entry member)
  simpa using differs

section

variable {store : NodeId → Option Container} (target : Target)

/-- Steps come from edges, one from each. -/
def StepsComeFrom (children : List Child) (registry : Registry) (result : List Step × Scope) :
    Prop :=
  List.Forall₂ (ComesFrom registry) (result.1.map Step.property) children

theorem links_claimTypeName (nodeName : String) :
    Links store (fun _ _ => True) (claimTypeName nodeName) := by
  unfold claimTypeName
  cases Naming.typeIdentifier nodeName with
  | error illegal => exact .throw _
  | ok identifier =>
      exact fun session linked => ⟨List.prefix_refl _, linked, fun _ _ _ _ => trivial⟩

theorem links_claimProperty (scope : Scope) (nodeName : String) :
    Links store (fun _ _ => True) (claimProperty scope nodeName) := by
  unfold claimProperty
  split
  · exact .throw _
  · exact .pure fun _ => trivial

theorem links_bindValue (content : Schema.ValueNode) :
    Links store (fun _ binding => ∃ scalar, binding = .scalar scalar) (bindValue content) := by
  unfold bindValue
  split
  · exact .pure fun _ => ⟨_, rfl⟩
  · split
    · exact .pure fun _ => ⟨_, rfl⟩
    · exact .throw _

theorem links_compileBody {container : Container}
    (delimited : ∀ leading level, Links store (StepsComeFrom container.children)
      (compileChildren target leading level [] container.children)) :
    Links store
      (StepsComeFrom (if container.kind.childLevel?.isSome then container.children else []))
      (compileBody target container) := by
  unfold compileBody
  cases container.kind.childLevel? with
  | some level => exact delimited _ level
  | none => exact .pure fun _ => .nil

theorem links_compileChild (scope : Scope) (occurs : Schema.Occurs) {node : Node}
    (bound : Links store (fun later => BoundTo later node) (compileBinding target node)) :
    Links store (fun later result => ComesFrom later result.1 ⟨occurs, node⟩)
      (compileChild target scope ⟨occurs, node⟩) := by
  rw [compileChild]
  refine (links_claimProperty scope node.name).bind fun claimed => ?_
  exact bound.bind fun binding => .pure fun later comes _ => ⟨rfl, rfl, comes⟩

/-- The type of a container that is not registered, before it is. -/
def compileType (target : Target) (container : Container) : Compilation CompiledType := do
  let name ← claimTypeName container.name
  let body ← compileBody target container
  let nested ← compileSegments target body.2 container.segments
  return {
    name
    space := target.space
    nodeName := container.name
    kind := container.kind
    layout :=
      layoutOf target.options container.kind container.code container.truncatable
        container.children body.1 nested.1 }

/-- A type is registered when it is complete. -/
theorem compileFresh_eq (container : Container) :
    compileFresh target container =
      compileType target container >>= fun type => do
        register container.id type
        return type := by
  simp [compileFresh, compileType]

/-- The identities of the containers inside a container. -/
def insideIds (container : Container) : List NodeId :=
  (containersOf container.children ++ containersOf container.segments).map Container.id

theorem local_compileType (container : Container) :
    Local (insideIds container) (compileType target container) := by
  have among : ∀ inner ∈ containersOf container.children ++ containersOf container.segments,
      inner.id ∈ insideIds container := fun _ => List.mem_map_of_mem
  rw [List.forall_mem_append] at among
  refine (local_claimTypeName container.name).bind fun name => ?_
  refine (local_compileBody target container fun _ leading level => ?_).bind fun body => ?_
  · exact local_compileChildren target leading level [] container.children fun inner inside =>
      among.1 inner (Schema.typedOf_subset _ inside)
  · refine (local_compileSegments target body.2 container.segments fun inner inside => ?_).bind
      fun nested => .pure _
    exact among.2 inner (Schema.typedOf_subset _ inside)

/-- The properties of a type come from the edges that are compiled for it. -/
theorem links_compileType (container : Container)
    (body : Links store
      (StepsComeFrom (if container.kind.childLevel?.isSome then container.children else []))
      (compileBody target container))
    (nested : ∀ scope, Links store (StepsComeFrom container.segments)
      (compileSegments target scope container.segments)) :
    Links store (fun later type => IsTypeOf later type container)
      (compileType target container) := by
  refine (links_claimTypeName container.name).bind fun name => ?_
  refine body.bind fun steps => (nested steps.2).bind fun others => .pure ?_
  intro later segments slots _
  refine ⟨rfl, ?_⟩
  have properties : ∀ layout : Codec.Layout, layout.steps.map Step.property =
      layout.body.map Step.property ++ layout.segments.map Step.property :=
    fun layout => List.map_append
  rw [CompiledType.properties, properties]
  exact List.rel_append slots segments

/-- The type of a container that has none is complete when it is registered. -/
theorem links_compileFresh {container : Container}
    (stored : ∀ inner ∈ container.containers, store inner.id = some inner)
    (computes : Links store (fun later type => IsTypeOf later type container)
      (compileType target container))
    {session : Session} (linked : session.registry.Linked store)
    (absent : session.registry.get? container.id = none) :
    session.registry <+: ((compileFresh target container).run.run session).2.registry ∧
      ((compileFresh target container).run.run session).2.registry.Linked store ∧
      ∀ type, ((compileFresh target container).run.run session).1 = .ok type →
        ((compileFresh target container).run.run session).2.registry.get? container.id =
          some type := by
  obtain ⟨grown, kept, holds⟩ := computes session linked
  have fresh := (local_compileType target container).get?_eq_none
    (Objects.id_not_mem_inside stored) absent
  rw [compileFresh_eq, run_bind]
  rcases outcome : (compileType target container).run.run session with ⟨_ | type, middle⟩
  · rw [outcome] at grown kept
    exact ⟨grown, kept, nofun⟩
  · rw [outcome] at grown kept holds fresh
    dsimp only at grown kept holds fresh
    have entered := Objects.register_of_get?_eq_none fresh type
    have added : middle.registry <+: middle.registry ++ [(container.id, type)] :=
      List.prefix_append _ _
    have keptLater := kept.add (stored container container.self_mem_containers)
      (holds type rfl _ added)
    have found : Registry.get? (middle.registry ++ [(container.id, type)]) container.id =
        some type := by
      rw [Registry.get?_append, fresh, Option.none_or, Registry.get?, List.lookup_cons_self]
    rw [← entered] at added keptLater found
    refine ⟨grown.trans added, keptLater, ?_⟩
    rintro _ ⟨⟩
    exact found

mutual

/-- Compiling a container leaves its type registered for it, and the registry linked. -/
theorem links_compileContainer (container : Container)
    (stored : ∀ inner ∈ container.containers, store inner.id = some inner) :
    Links store (fun later type => later.get? container.id = some type)
      (compileContainer target container) := by
  intro session linked
  rw [run_compileContainer]
  cases found : session.registry.get? container.id with
  | some type =>
      refine ⟨List.prefix_refl _, linked, ?_⟩
      rintro _ ⟨⟩ later grown
      exact Registry.get?_of_prefix grown found
  | none =>
      match container with
      | ⟨id, kind, name, code, truncatable, documentation, children, segments⟩ =>
          have whole := stored
          rw [Schema.Container.containers, List.forall_mem_cons, List.forall_mem_append]
            at stored
          obtain ⟨-, inChildren, inSegments⟩ := stored
          have computes := links_compileType target
            ⟨id, kind, name, code, truncatable, documentation, children, segments⟩
            (links_compileBody target fun leading level =>
              links_compileChildren leading level [] children inChildren)
            (fun scope => links_compileSegments scope segments inSegments)
          obtain ⟨grown, kept, registered⟩ :=
            links_compileFresh target whole computes linked found
          refine ⟨grown, kept, fun type success later further => ?_⟩
          exact Registry.get?_of_prefix further (registered type success)

theorem links_compileChildren (leading : Option Level) (level : Level) (scope : Scope)
    (children : List Child)
    (stored : ∀ inner ∈ containersOf children, store inner.id = some inner) :
    Links store (StepsComeFrom children)
      (compileChildren target leading level scope children) := by
  match children with
  | [] =>
      rw [compileChildren]
      exact .pure fun _ => .nil
  | ⟨occurs, node⟩ :: rest =>
      rw [containersOf, List.forall_mem_append] at stored
      rw [compileChildren]
      have child := links_compileChild target scope occurs (links_compileBinding node stored.1)
      refine child.bind fun result => ?_
      refine (links_compileChildren (some level) level result.2 rest stored.2).bind
        fun others => .pure ?_
      exact fun later further comes => .cons comes further

theorem links_compileSegments (scope : Scope) (segments : List Child)
    (stored : ∀ inner ∈ containersOf segments, store inner.id = some inner) :
    Links store (StepsComeFrom segments) (compileSegments target scope segments) := by
  match segments with
  | [] =>
      rw [compileSegments]
      exact .pure fun _ => .nil
  | ⟨occurs, node⟩ :: rest =>
      rw [containersOf, List.forall_mem_append] at stored
      rw [compileSegments]
      have child := links_compileChild target scope occurs (links_compileBinding node stored.1)
      refine child.bind fun result => ?_
      refine (links_compileSegments result.2 rest stored.2).bind fun others => .pure ?_
      exact fun later further comes => .cons comes further

theorem links_compileBinding (node : Node)
    (stored : ∀ inner ∈ node.containers, store inner.id = some inner) :
    Links store (fun later => BoundTo later node) (compileBinding target node) := by
  match node with
  | .value content =>
      rw [compileBinding]
      exact links_bindValue content
  | .container content =>
      rw [compileBinding]
      refine (links_compileContainer content stored).bind fun type => .pure ?_
      exact fun later registered => ⟨type, registered, rfl⟩

end

end

/-! ## Compiling models -/

section

variable {store : NodeId → Option Container} {registry : Registry}

theorem linked_nil (store : NodeId → Option Container) : Registry.Linked store [] := by
  intro id type found
  cases found

/-- Compiling a model keeps a registry linked.  If it succeeds, the root of the model is
registered with the type that is returned. -/
theorem Registry.Linked.compile (linked : registry.Linked store) (target : Target)
    {model : Model} (stored : model.root.StoredIn store) :
    (Compiler.compile target model registry).2.Linked store ∧
      ∀ compiled, (Compiler.compile target model registry).1 = .ok compiled →
        ∃ root, model.root = .container root ∧
          (Compiler.compile target model registry).2.get? root.id = some compiled.root := by
  unfold Compiler.compile
  cases Naming.checkNamespace target.space with
  | error illegal => exact ⟨linked, nofun⟩
  | ok _ =>
      cases tree : model.root with
      | value content => exact ⟨linked, nofun⟩
      | container root =>
          rw [tree] at stored
          obtain ⟨-, kept, registered⟩ :=
            links_compileContainer target root stored ⟨registry, []⟩ linked
          dsimp only [compileRoot]
          rcases outcome : (compileContainer target root).run.run ⟨registry, []⟩ with
            ⟨_ | type, session⟩
          · rw [outcome] at kept
            exact ⟨kept, nofun⟩
          · rw [outcome] at kept registered
            refine ⟨kept, ?_⟩
            rintro _ ⟨⟩
            exact ⟨root, rfl, registered type rfl _ (List.prefix_refl _)⟩

/-- Every registry that is reached is linked. -/
theorem Reached.linked (reached : Reached store registry) : registry.Linked store := by
  induction reached with
  | empty => exact linked_nil store
  | compile before target model stored ih => exact (ih.compile target stored).1

end

end Compiler

end FlatMessage
