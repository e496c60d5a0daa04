import FlatMessage.Proofs.Containers
import FlatMessage.Proofs.Objects.Twin

/-!
# Making mirrors compiling

Part by part, the compilation that makes type objects mirrors the one that yields
compiled types.  The parts of a sequence may rely on what the parts before them have
registered, because nothing that is registered is ever changed.
-/

namespace FlatMessage.Compiler.Objects

open Codec (CompiledType Step)
open Delimiter (Level)
open Naming (Scope)
open Reading (headOf)
open Schema (Child Container Node NodeId)

/-! ## Sequences -/

namespace Mirrors

variable {identities : NodeId → Option Container} {nodes fewer : List NodeId} {twin : Twin}
variable {α β γ δ : Type} {expected : Twin → α → β → Prop}

theorem pure {made : α} {compiled : β} (holds : expected twin made compiled) :
    Mirrors identities nodes twin (pure made) (pure compiled) expected := by
  intro aligned
  exact ⟨aligned, .refl nodes twin, holds⟩

theorem throw (error : CompileError) :
    Mirrors identities nodes twin (throw error) (throw error) expected := by
  intro aligned
  exact ⟨aligned, .refl nodes twin, rfl⟩

/-- Less may be expected, and more containers may be new. -/
theorem weaken {makes : Making α} {compiles : Compilation β}
    {less : Twin → α → β → Prop}
    (mirrors : Mirrors identities fewer twin makes compiles expected)
    (among : fewer ⊆ nodes)
    (enough : ∀ later made compiled, expected later made compiled →
      less later made compiled) :
    Mirrors identities nodes twin makes compiles less := by
  intro aligned
  obtain ⟨kept, grows, outcome⟩ := mirrors aligned
  refine ⟨kept, grows.mono among, ?_⟩
  cases making : (makes.run.run twin.making).1 <;>
    cases compiling : (compiles.run.run twin.plain).1 <;>
    rw [making, compiling] at outcome
  · exact outcome
  · exact outcome
  · exact outcome
  · exact enough _ _ _ outcome

/-- A sequence mirrors a sequence when its parts do, the second from the states that
the first one ends in. -/
theorem bind {final : Twin → γ → δ → Prop} {makes : Making α} {compiles : Compilation β}
    {makesNext : α → Making γ} {compilesNext : β → Compilation δ}
    (first : Mirrors identities fewer twin makes compiles expected)
    (among : fewer ⊆ nodes)
    (second : ∀ made compiled middle, middle.Aligned identities →
      twin.Grows fewer middle → expected middle made compiled →
        Mirrors identities nodes middle (makesNext made) (compilesNext compiled) final) :
    Mirrors identities nodes twin (makes >>= makesNext) (compiles >>= compilesNext)
      final := by
  intro aligned
  obtain ⟨kept, grows, outcome⟩ := first aligned
  simp only [Twin.after, run_bind] at kept grows outcome ⊢
  rcases making : makes.run.run twin.making with ⟨made, makingMiddle⟩
  rcases compiling : compiles.run.run twin.plain with ⟨compiled, plainMiddle⟩
  rw [making, compiling] at kept grows outcome
  cases made with
  | error error =>
      cases compiled with
      | error other => exact ⟨kept, grows.mono among, outcome⟩
      | ok compiled => exact outcome.elim
  | ok made =>
      cases compiled with
      | error other => exact outcome.elim
      | ok compiled =>
          obtain ⟨keptAgain, growsAgain, last⟩ :=
            second made compiled ⟨makingMiddle, plainMiddle⟩ kept grows outcome kept
          exact ⟨keptAgain, (grows.mono among).trans growsAgain, last⟩

end Mirrors

/-! ## Names and leaves -/

section

variable {identities : NodeId → Option Container} {twin : Twin}

theorem mirrors_claimTypeName (nodeName : String) :
    Mirrors identities [] twin (claimTypeName nodeName)
      (Compiler.claimTypeName nodeName) (fun _ made compiled => made = compiled) := by
  unfold claimTypeName Compiler.claimTypeName
  cases Naming.typeIdentifier nodeName with
  | error illegal => exact .throw _
  | ok identifier =>
      intro aligned
      obtain ⟨⟨store, names, created⟩, ⟨registry, taken⟩⟩ := twin
      obtain ⟨stores, same⟩ := aligned
      dsimp only at same stores
      subst same
      exact ⟨⟨stores, rfl⟩,
        ⟨Objects.Precedes.refl _ _, [], (List.append_nil _).symm, by simp,
          (List.append_nil _).symm⟩, rfl⟩

theorem mirrors_claimProperty (scope : Scope) (nodeName : String) :
    Mirrors identities [] twin (claimProperty scope nodeName)
      (Compiler.claimProperty scope nodeName) (fun _ made compiled => made = compiled) := by
  unfold claimProperty Compiler.claimProperty
  cases Naming.propertyIdentifier nodeName with
  | error illegal => exact .throw _
  | ok identifier => exact .pure rfl

/-- A leaf is bound alike on both sides. -/
theorem mirrors_bindValue (content : Schema.ValueNode) :
    Mirrors identities [] twin (bindValue content) (Compiler.bindValue content)
      (fun _ made compiled =>
        ∃ binding, made = .scalar binding ∧ compiled = .scalar binding) := by
  unfold bindValue Compiler.bindValue
  cases content.dataType with
  | none => exact .pure ⟨_, rfl, rfl⟩
  | some dataType =>
      dsimp only
      cases Encoder.build dataType content.options with
      | error error => exact .throw _
      | ok encoder => exact .pure ⟨_, rfl, rfl⟩

end

/-! ## Containers -/

/-- The slots of a container's delimited children, if its kind can have any. -/
def makeBody (target : Target) (container : Container) : Making (List Slot × Scope) :=
  match container.kind.childLevel? with
  | some level =>
      makeChildren target (headOf container).leading level [] container.children
  | none => pure ([], [])

/-- The object of a container with the slots in it. -/
def objectOf (target : Target) (container : Container) (typeName : String)
    (body nested : List Slot) : TypeObject where
  name := typeName
  space := target.space
  nodeName := container.name
  kind := container.kind
  frame :=
    layoutOf target.options container.kind container.code container.truncatable
      container.children [] []
  body
  segments := nested

/-- The type of a container with the steps in it. -/
def typeOf (target : Target) (container : Container) (typeName : String)
    (body nested : List Step) : CompiledType where
  name := typeName
  space := target.space
  nodeName := container.name
  kind := container.kind
  layout :=
    layoutOf target.options container.kind container.code container.truncatable
      container.children body nested

/-- Make the object of a container that is not registered. -/
def makeFresh (target : Target) (container : Container) : Making Nat := do
  let typeName ← claimTypeName container.name
  let body ← makeBody target container
  let nested ← makeSegments target body.2 container.segments
  let reference ← make (objectOf target container typeName body.1 nested.1)
  register container.id reference
  return reference

/-- The object of a container is made unless it is registered. -/
theorem run_makeContainer (target : Target) (container : Container)
    (session : MakingSession) :
    (makeContainer target container).run.run session =
      match session.store.get? container.id with
      | some reference => (.ok reference, session)
      | none => (makeFresh target container).run.run session := by
  obtain ⟨id, kind, name, code, truncatable, documentation, children, segments⟩ := container
  unfold makeContainer makeFresh makeBody
  cases found : session.store.get? id with
  | some reference =>
      change ((match session.store.get? id with
        | some reference => pure reference
        | none => _ : Making Nat).run.run session) = _
      rw [found]
      rfl
  | none =>
      change ((match session.store.get? id with
        | some reference => pure reference
        | none => _ : Making Nat).run.run session) = _
      rw [found]
      cases kind <;> rfl

/-! ## What is expected of the parts -/

/-- Every container of a list is registered. -/
def Registered (store : Store) (containers : List Container) : Prop :=
  ∀ container ∈ containers, ∃ reference, store.get? container.id = some reference

theorem Registered.mono {store later : Store}
    (found : ∀ id reference, store.get? id = some reference → later.get? id = some reference)
    {containers : List Container} (registered : Registered store containers) :
    Registered later containers := by
  intro container member
  obtain ⟨reference, known⟩ := registered container member
  exact ⟨reference, found _ _ known⟩

/-- The object of a container is read as its type, and everything in it is
registered. -/
structure ContainerMade (container : Container) (twin : Twin) (reference : Nat)
    (type : CompiledType) : Prop where
  found : twin.making.store.get? container.id = some reference
  read : twin.plain.registry.types[reference]? = some type
  inside : Registered twin.making.store container.containers

/-- The values of a node's property are bound to what they are read as. -/
structure BoundMade (node : Node) (twin : Twin) (bound : Bound) (binding : Codec.Binding) :
    Prop where
  read : bound.binding? twin.plain.registry.types = some binding
  comes :
    match node with
    | .value _ => ∃ content, bound = .scalar content
    | .container content =>
        ∃ reference, twin.making.store.get? content.id = some reference ∧
          bound = .object reference
  inside : Registered twin.making.store node.containers

/-- Slots are read as steps and come from children. -/
structure SlotsMade (children : List Child) (twin : Twin) (slots : List Slot)
    (steps : List Step) : Prop where
  read :
    List.Forall₂ (fun slot step => slot.step? twin.plain.registry.types = some step) slots
      steps
  comes :
    List.Forall₂ (ObjectProperty.ComesFrom twin.making.store) (slots.map Slot.property)
      children
  inside : Registered twin.making.store (Schema.containersOf children)

theorem types_isPrefix {registry grown : Registry} (before : registry <+: grown) :
    registry.types <+: grown.types := by
  obtain ⟨added, rfl⟩ := before
  simp [Registry.types]

/-- What is made of children is still so later. -/
theorem SlotsMade.later {children : List Child} {twin later : Twin} {slots : List Slot}
    {steps : List Step} (made : SlotsMade children twin slots steps)
    (precedes : twin.Precedes later) : SlotsMade children later slots steps where
  read := made.read.imp fun _ _ read =>
    Slot.step?_mono (types_isPrefix precedes.registry) read
  comes := made.comes.imp fun _ _ comes => comes.mono precedes.found
  inside := made.inside.mono precedes.found

/-- One more child in front. -/
theorem SlotsMade.cons {occurs : Schema.Occurs} {node : Node} {rest : List Child}
    {twin : Twin} {name : String} {bound : Bound} {binding : Codec.Binding}
    {slots : List Slot} {steps : List Step} {leading level : Option Level}
    (first : BoundMade node twin bound binding) (others : SlotsMade rest twin slots steps) :
    SlotsMade (⟨occurs, node⟩ :: rest) twin
      (⟨⟨name, node.name, occurs, bound⟩, leading, level⟩ :: slots)
      (⟨⟨name, node.name, occurs, binding⟩, leading, level⟩ :: steps) where
  read := by
    refine .cons ?_ others.read
    simp [Slot.step?, ObjectProperty.property?, first.read]
  comes := .cons ⟨rfl, rfl, first.comes⟩ others.comes
  inside := by
    intro container member
    rw [Schema.containersOf, List.mem_append] at member
    rcases member with inNode | inRest
    · exact first.inside container inNode
    · exact others.inside container inRest

theorem BoundMade.later {node : Node} {twin later : Twin} {bound : Bound}
    {binding : Codec.Binding} (made : BoundMade node twin bound binding)
    (precedes : twin.Precedes later) : BoundMade node later bound binding where
  read := Bound.binding?_mono (types_isPrefix precedes.registry) made.read
  comes := by
    cases node with
    | value content => exact made.comes
    | container content =>
        obtain ⟨reference, known, same⟩ := made.comes
        exact ⟨reference, precedes.found _ _ known, same⟩
  inside := made.inside.mono precedes.found

section

variable {identities : NodeId → Option Container} {store : Store} {registry : Registry}

mutual

/-- Everything in a registered container is registered. -/
theorem registered_of_get? (aligned : Aligned identities store registry)
    (container : Container)
    (stored : ∀ inner ∈ container.containers, identities inner.id = some inner)
    {reference : Nat} (known : store.get? container.id = some reference) :
    Registered store container.containers := by
  match container with
  | ⟨id, kind, name, code, truncatable, documentation, children, segments⟩ =>
      obtain ⟨origin, object, storedOrigin, -, isOf⟩ := aligned.origin _ _ known
      rw [Schema.Container.containers, List.forall_mem_cons, List.forall_mem_append] at stored
      obtain ⟨storedHere, storedChildren, storedSegments⟩ := stored
      rw [storedHere, Option.some.injEq] at storedOrigin
      subst storedOrigin
      have inChildren := registered_of_children aligned children storedChildren
        fun child member content node =>
          isOf.exists_get? (List.mem_append_left _ member) node
      have inSegments := registered_of_children aligned segments storedSegments
        fun child member content node =>
          isOf.exists_get? (List.mem_append_right _ member) node
      rw [Schema.Container.containers]
      intro container member
      rcases List.mem_cons.mp member with rfl | inside
      · exact ⟨reference, known⟩
      · rcases List.mem_append.mp inside with inBody | inNested
        · exact inChildren container inBody
        · exact inSegments container inNested

theorem registered_of_children (aligned : Aligned identities store registry)
    (children : List Child)
    (stored : ∀ inner ∈ Schema.containersOf children, identities inner.id = some inner)
    (known : ∀ child ∈ children, ∀ content, child.node = .container content →
      ∃ reference, store.get? content.id = some reference) :
    Registered store (Schema.containersOf children) := by
  match children with
  | [] => exact nofun
  | ⟨occurs, node⟩ :: rest =>
      rw [Schema.containersOf, List.forall_mem_append] at stored
      rw [List.forall_mem_cons] at known
      have inRest := registered_of_children aligned rest stored.2 known.2
      have inNode := registered_of_node aligned node stored.1 known.1
      intro container member
      rw [Schema.containersOf, List.mem_append] at member
      rcases member with first | later
      · exact inNode container first
      · exact inRest container later

theorem registered_of_node (aligned : Aligned identities store registry) (node : Node)
    (stored : ∀ inner ∈ node.containers, identities inner.id = some inner)
    (known : ∀ content, node = .container content →
      ∃ reference, store.get? content.id = some reference) :
    Registered store node.containers := by
  match node with
  | .value content => exact nofun
  | .container content =>
      obtain ⟨reference, found⟩ := known content rfl
      exact registered_of_get? aligned content stored found

end

end

/-! ## Compiling a tree -/

section

variable {identities : NodeId → Option Container} (target : Target)

/-- The object of a container is read as its type. -/
theorem type?_objectOf {container : Container} {twin : Twin} (typeName : String)
    {body nested : List Slot} {bodySteps nestedSteps : List Step}
    (bodyMade : SlotsMade container.children twin body bodySteps)
    (nestedMade : SlotsMade container.segments twin nested nestedSteps) :
    (objectOf target container typeName body nested).type? twin.plain.registry.types =
      some (typeOf target container typeName bodySteps nestedSteps) := by
  rw [TypeObject.type?_eq_some_iff]
  exact ⟨bodySteps, nestedSteps, bodyMade.read, nestedMade.read, rfl⟩

theorem isOf_objectOf {container : Container} {twin : Twin} (typeName : String)
    {body nested : List Slot} {bodySteps nestedSteps : List Step}
    (bodyMade : SlotsMade container.children twin body bodySteps)
    (nestedMade : SlotsMade container.segments twin nested nestedSteps) :
    (objectOf target container typeName body nested).IsOf twin.making.store container where
  nodeName := rfl
  kind := rfl
  slots := by
    rw [TypeObject.properties, TypeObject.slots, List.map_append]
    exact List.rel_append bodyMade.comes nestedMade.comes

/-- Once everything in a container is made, its object is made and registered. -/
theorem mirrors_register {container : Container} {twin : Twin} (typeName : String)
    {body nested : List Slot} {bodySteps nestedSteps : List Step}
    (stored : identities container.id = some container)
    (absent : twin.making.store.get? container.id = none)
    (bodyMade : SlotsMade container.children twin body bodySteps)
    (nestedMade : SlotsMade container.segments twin nested nestedSteps) :
    Mirrors identities [container.id] twin
      (do
        let reference ← make (objectOf target container typeName body nested)
        register container.id reference
        return reference)
      (do
        Compiler.register container.id (typeOf target container typeName bodySteps nestedSteps)
        return typeOf target container typeName bodySteps nestedSteps)
      (ContainerMade container) := by
  have read := type?_objectOf target typeName bodyMade nestedMade
  have isOf := isOf_objectOf target typeName bodyMade nestedMade
  have bodyInside := bodyMade.inside
  have nestedInside := nestedMade.inside
  obtain ⟨⟨store, names, created⟩, ⟨registry, taken⟩⟩ := twin
  rintro ⟨stores, same⟩
  dsimp only at absent stores same read isOf bodyInside nestedInside
  obtain ⟨kept, precedes⟩ := stores.extend stored absent read isOf
  have entered := register_of_get?_eq_none (stores.registry_get?_eq_none_iff.mpr absent)
    (typeOf target container typeName bodySteps nestedSteps)
  have length : store.heap.length = registry.length := stores.length_heap
  have found : (store.extend container.id _).get? container.id = some store.heap.length :=
    (stores.get?_extend absent read).mpr (.inr ⟨rfl, rfl⟩)
  rw [← entered] at kept precedes
  refine ⟨⟨kept, same⟩, ⟨precedes, _, entered, by simp, ?_⟩, found, ?_, ?_⟩
  · change created ++ [store.heap.length] = created ++ List.range' registry.length 1
    rw [length]
    rfl
  · change (registry.register container.id _).types[store.heap.length]? = some _
    rw [entered, length]
    simp [Registry.types]
  · intro inner member
    rw [Schema.Container.containers_eq] at member
    rcases List.mem_cons.mp member with rfl | inside
    · exact ⟨_, found⟩
    · rcases List.mem_append.mp inside with inBody | inNested
      · exact bodyInside.mono precedes.found inner inBody
      · exact nestedInside.mono precedes.found inner inNested

/-- A container that is not among the new ones stays without an object. -/
theorem Twin.Grows.get?_eq_none {nodes : List NodeId} {twin later : Twin}
    (grows : twin.Grows nodes later) (aligned : twin.Aligned identities)
    (kept : later.Aligned identities) {id : NodeId} (outside : id ∉ nodes)
    (absent : twin.making.store.get? id = none) : later.making.store.get? id = none := by
  obtain ⟨-, added, registry, among, -⟩ := grows
  rw [← aligned.store.registry_get?_eq_none_iff] at absent
  rw [← kept.store.registry_get?_eq_none_iff, registry, Registry.get?, List.lookup_append,
    Option.or_eq_none_iff]
  refine ⟨absent, List.lookup_eq_none_iff.mpr ?_⟩
  intro entry member
  have differs : id ≠ entry.1 := by
    rintro rfl
    exact outside (among entry member)
  simpa using differs

/-- The identity of a container is not that of anything inside it. -/
theorem id_not_mem_inside {container : Container}
    (stored : ∀ inner ∈ container.containers, identities inner.id = some inner) :
    container.id ∉ (Schema.containersOf container.children ++
      Schema.containersOf container.segments).map Container.id := by
  intro member
  obtain ⟨inner, inside, same⟩ := List.mem_map.mp member
  have inContainer : inner ∈ container.containers := by
    rw [Schema.Container.containers_eq]
    exact List.mem_cons_of_mem _ inside
  have storedInner := stored inner inContainer
  rw [same, stored container container.self_mem_containers, Option.some.injEq] at storedInner
  subst storedInner
  exact container.not_mem_inside inside

/-- Slots and steps are made of children in one scope. -/
def ChildrenMade (children : List Child) (twin : Twin) (made : List Slot × Scope)
    (compiled : List Step × Scope) : Prop :=
  made.2 = compiled.2 ∧ SlotsMade children twin made.1 compiled.1

theorem slotsMade_nil (twin : Twin) : SlotsMade [] twin [] [] :=
  ⟨.nil, .nil, nofun⟩

/-- The body of a container is made if its kind can have one. -/
theorem mirrors_makeBody {container : Container} {twin : Twin}
    (empty : container.kind.childLevel? = none → container.children = [])
    (delimited : ∀ leading level,
      Mirrors identities ((Schema.containersOf container.children).map Container.id) twin
        (makeChildren target leading level [] container.children)
        (compileChildren target leading level [] container.children)
        (ChildrenMade container.children)) :
    Mirrors identities ((Schema.containersOf container.children).map Container.id) twin
      (makeBody target container) (compileBody target container)
      (ChildrenMade container.children) := by
  unfold makeBody compileBody
  cases delimiter : container.kind.childLevel? with
  | none =>
      rw [empty delimiter]
      exact .pure ⟨rfl, slotsMade_nil twin⟩
  | some level => exact delimited _ level

/-- The object of a container that is not registered is made after everything in it. -/
theorem mirrors_makeFresh {container : Container} {twin : Twin}
    (stored : ∀ inner ∈ container.containers, identities inner.id = some inner)
    (aligned : twin.Aligned identities)
    (absent : twin.making.store.get? container.id = none)
    (body : ∀ twin,
      Mirrors identities ((Schema.containersOf container.children).map Container.id) twin
        (makeBody target container) (compileBody target container)
        (ChildrenMade container.children))
    (nested : ∀ twin scope,
      Mirrors identities ((Schema.containersOf container.segments).map Container.id) twin
        (makeSegments target scope container.segments)
        (compileSegments target scope container.segments)
        (ChildrenMade container.segments)) :
    Mirrors identities (container.containers.map Container.id) twin
      (makeFresh target container) (compileFresh target container)
      (ContainerMade container) := by
  have outside := id_not_mem_inside stored
  rw [List.map_append, List.mem_append, not_or] at outside
  rw [Schema.Container.containers_eq, List.map_cons, List.map_append]
  apply (mirrors_claimTypeName container.name).bind (List.nil_subset _)
  rintro typeName _ named namedAligned namedGrows rfl
  have unnamed := namedGrows.get?_eq_none aligned namedAligned (List.not_mem_nil) absent
  apply (body named).bind (by simp)
  rintro ⟨bodySlots, scope⟩ ⟨bodySteps, _⟩ filled filledAligned bodyGrows ⟨rfl, bodyMade⟩
  have unfilled := bodyGrows.get?_eq_none namedAligned filledAligned outside.1 unnamed
  apply (nested filled scope).bind (by simp)
  rintro ⟨nestedSlots, _⟩ ⟨nestedSteps, _⟩ last lastAligned nestedGrows ⟨-, nestedMade⟩
  have unregistered :=
    nestedGrows.get?_eq_none filledAligned lastAligned outside.2 unfilled
  exact (mirrors_register target typeName (stored container container.self_mem_containers)
    unregistered (bodyMade.later nestedGrows.precedes) nestedMade).weaken (by simp)
    fun _ _ _ made => made

/-- The property of a child is made with its node. -/
theorem mirrors_makeChild (twin : Twin) (scope : Scope) (occurs : Schema.Occurs) (node : Node)
    (bound : ∀ twin,
      Mirrors identities (node.containers.map Container.id) twin (makeBound target node)
        (compileBinding target node) (BoundMade node)) :
    Mirrors identities (node.containers.map Container.id) twin
      (makeChild target scope ⟨occurs, node⟩) (compileChild target scope ⟨occurs, node⟩)
      (fun later made compiled =>
        ∃ name names bound binding,
          made = (⟨name, node.name, occurs, bound⟩, names) ∧
          compiled = (⟨name, node.name, occurs, binding⟩, names) ∧
          BoundMade node later bound binding) := by
  rw [makeChild, compileChild]
  apply (mirrors_claimProperty scope node.name).bind (List.nil_subset _)
  rintro ⟨name, names⟩ _ middle - - rfl
  apply (bound middle).bind (List.Subset.refl _)
  rintro made compiled later - - holds
  exact .pure ⟨name, names, made, compiled, rfl, rfl, holds⟩

mutual

/-- Making the object of a container mirrors compiling the container. -/
theorem mirrors_makeContainer (container : Container) (sound : container.Sound)
    (stored : ∀ inner ∈ container.containers, identities inner.id = some inner)
    (twin : Twin) :
    Mirrors identities (container.containers.map Container.id) twin
      (makeContainer target container) (compileContainer target container)
      (ContainerMade container) := by
  intro aligned
  simp only [Twin.after, run_makeContainer, run_compileContainer]
  cases found : twin.making.store.get? container.id with
  | some reference =>
      obtain ⟨type, there⟩ : ∃ type, twin.plain.registry.types[reference]? = some type := by
        have known := aligned.store.get?_eq_some_iff.mp found
        rw [List.getElem?_map, Option.map_eq_some_iff] at known
        obtain ⟨entry, there, -⟩ := known
        exact ⟨entry.2, by simp [Registry.types, there]⟩
      have known : twin.plain.registry.get? container.id = some type :=
        aligned.store.registry_get?_eq_some_iff.mpr ⟨reference, found, there⟩
      rw [known]
      exact ⟨aligned, .refl _ twin, found, there,
        registered_of_get? aligned.store container stored found⟩
  | none =>
      rw [aligned.store.registry_get?_eq_none_iff.mpr found]
      match container with
      | ⟨id, kind, name, code, truncatable, documentation, children, segments⟩ =>
          have storedInside := stored
          rw [Schema.Container.containers, List.forall_mem_cons, List.forall_mem_append]
            at storedInside
          rw [Container.Sound] at sound
          obtain ⟨allowed, childrenSound, segmentsSound⟩ := sound
          have empty : kind.childLevel? = none → children = [] := by
            intro none
            cases kind <;> simp_all [Schema.ContainerKind.childLevel?,
              Schema.ContainerKind.Allows]
          exact mirrors_makeFresh target stored aligned found
            (fun twin => mirrors_makeBody target empty fun leading level =>
              mirrors_makeChildren kind leading level [] children childrenSound
                storedInside.2.1 twin)
            (fun twin scope => mirrors_makeSegments scope segments segmentsSound
              storedInside.2.2 twin) aligned

theorem mirrors_makeChildren (kind : Schema.ContainerKind) (leading : Option Level)
    (level : Level) (scope : Scope) (children : List Child)
    (sound : Schema.ChildrenSound kind children)
    (stored : ∀ inner ∈ Schema.containersOf children, identities inner.id = some inner)
    (twin : Twin) :
    Mirrors identities ((Schema.containersOf children).map Container.id) twin
      (makeChildren target leading level scope children)
      (compileChildren target leading level scope children) (ChildrenMade children) := by
  match children with
  | [] =>
      rw [makeChildren, compileChildren]
      exact .pure ⟨rfl, slotsMade_nil twin⟩
  | ⟨occurs, node⟩ :: rest =>
      rw [Schema.containersOf, List.forall_mem_append] at stored
      rw [Schema.ChildrenSound] at sound
      rw [makeChildren, compileChildren, Schema.containersOf, List.map_append]
      have child := mirrors_makeChild target twin scope occurs node
        (mirrors_makeBound node sound.2.2.1 stored.1)
      apply child.bind (by simp)
      rintro _ _ middle - - ⟨name, names, bound, binding, rfl, rfl, first⟩
      apply (mirrors_makeChildren kind (some level) level names rest sound.2.2.2 stored.2
        middle).bind (by simp)
      rintro ⟨slots, _⟩ ⟨steps, _⟩ later - grows ⟨rfl, others⟩
      exact .pure ⟨rfl, SlotsMade.cons (first.later grows.precedes) others⟩

theorem mirrors_makeSegments (scope : Scope) (segments : List Child)
    (sound : Schema.SegmentsSound segments)
    (stored : ∀ inner ∈ Schema.containersOf segments, identities inner.id = some inner)
    (twin : Twin) :
    Mirrors identities ((Schema.containersOf segments).map Container.id) twin
      (makeSegments target scope segments) (compileSegments target scope segments)
      (ChildrenMade segments) := by
  match segments with
  | [] =>
      rw [makeSegments, compileSegments]
      exact .pure ⟨rfl, slotsMade_nil twin⟩
  | ⟨occurs, node⟩ :: rest =>
      rw [Schema.containersOf, List.forall_mem_append] at stored
      rw [Schema.SegmentsSound] at sound
      rw [makeSegments, compileSegments, Schema.containersOf, List.map_append]
      have child := mirrors_makeChild target twin scope occurs node
        (mirrors_makeBound node sound.2.2.1 stored.1)
      apply child.bind (by simp)
      rintro _ _ middle - - ⟨name, names, bound, binding, rfl, rfl, first⟩
      apply (mirrors_makeSegments names rest sound.2.2.2 stored.2 middle).bind (by simp)
      rintro ⟨slots, _⟩ ⟨steps, _⟩ later - grows ⟨rfl, others⟩
      exact .pure ⟨rfl, SlotsMade.cons (first.later grows.precedes) others⟩

theorem mirrors_makeBound (node : Node) (sound : node.Sound)
    (stored : ∀ inner ∈ node.containers, identities inner.id = some inner) (twin : Twin) :
    Mirrors identities (node.containers.map Container.id) twin (makeBound target node)
      (compileBinding target node) (BoundMade node) := by
  match node with
  | .value content =>
      rw [makeBound, compileBinding]
      apply (mirrors_bindValue content).weaken (List.nil_subset _)
      rintro later _ _ ⟨binding, rfl, rfl⟩
      exact ⟨rfl, ⟨binding, rfl⟩, nofun⟩
  | .container content =>
      rw [Node.Sound] at sound
      rw [makeBound, compileBinding]
      apply (mirrors_makeContainer content sound stored twin).bind (List.Subset.refl _)
      rintro reference type later - - made
      exact .pure
        ⟨by simp [Bound.binding?, made.read], ⟨reference, made.found, rfl⟩, made.inside⟩

end

end

end FlatMessage.Compiler.Objects
