import FlatMessage.Proofs.Orders.Calls

/-!
# What a compilation registers

A compilation that succeeds leaves everything that it compiles registered: what is not found
in the registry is added to it, once.  A container that is found there was compiled with
everything that is compiled with it.  So after a sequence of compilations the containers that
are registered are those that some of the models compile, and each model has the types of
those that no earlier model compiles.
-/

namespace FlatMessage.Compiler

open Codec (CompiledType)
open Delimiter (Level)
open Naming (Scope)
open Schema (Child Container Model Node NodeId typedOf)

/-- The containers that are registered. -/
def Registry.nodes (registry : Registry) : List NodeId :=
  registry.map Prod.fst

namespace Registry

variable {identities : NodeId → Option Container} {registry : Registry} {id : NodeId}

@[simp]
theorem nodes_append (registry added : Registry) :
    Registry.nodes (registry ++ added) = registry.nodes ++ Registry.nodes added :=
  List.map_append

theorem get?_eq_none_iff : registry.get? id = none ↔ id ∉ registry.nodes := by
  rw [Registry.get?, List.lookup_eq_none_iff, Registry.nodes, List.mem_map, not_exists]
  refine forall_congr' fun entry => ?_
  rw [not_and, bne_iff_ne, ne_comm]

/-- No container is registered twice, and what is compiled with a registered container is
registered as well. -/
structure Complete (identities : NodeId → Option Container) (registry : Registry) : Prop where
  distinct : registry.nodes.Nodup
  closed : ∀ id container, id ∈ registry.nodes → identities id = some container →
    ∀ inner ∈ container.typed, inner.id ∈ registry.nodes

theorem complete_nil (identities : NodeId → Option Container) : Complete identities [] where
  distinct := List.nodup_nil
  closed := nofun

theorem nodes_register (registry : Registry) (id : NodeId) (type : CompiledType) :
    (registry.register id type).nodes =
      if id ∈ registry.nodes then registry.nodes else registry.nodes ++ [id] := by
  unfold Registry.register
  cases found : registry.get? id with
  | some known =>
      have here : id ∈ registry.nodes := by
        by_contra absent
        rw [get?_eq_none_iff.mpr absent] at found
        cases found
      rw [if_pos here]
  | none =>
      rw [if_neg (get?_eq_none_iff.mp found)]
      exact nodes_append _ _

theorem mem_nodes_register {other : NodeId} {type : CompiledType} :
    other ∈ (registry.register id type).nodes ↔ other ∈ registry.nodes ∨ other = id := by
  rw [nodes_register]
  split
  · next here => exact ⟨.inl, fun known => known.elim (fun there => there) (· ▸ here)⟩
  · simp

/-- A container is registered after everything else that is compiled with it. -/
theorem Complete.register (complete : Complete identities registry) {container : Container}
    (stored : identities container.id = some container)
    (inner : ∀ other ∈ container.typed, other = container ∨ other.id ∈ registry.nodes)
    (type : CompiledType) : Complete identities (registry.register container.id type) where
  distinct := by
    rw [nodes_register]
    split
    · exact complete.distinct
    · next fresh =>
        rw [List.nodup_append]
        refine ⟨complete.distinct, List.nodup_singleton _, ?_⟩
        rintro known member _ last rfl
        exact fresh (List.mem_singleton.mp last ▸ member)
  closed := by
    intro id other member found part inPart
    rw [mem_nodes_register] at member ⊢
    rcases member with known | rfl
    · exact .inl (complete.closed id other known found part inPart)
    · rw [stored, Option.some.injEq] at found
      subst found
      rcases inner part inPart with rfl | known
      · exact .inr rfl
      · exact .inl known

end Registry

/-! ## Parts of a compilation -/

/-- A part of a compilation keeps a registry complete and everything registered, and if it
succeeds, the containers `nodes` are registered after it. -/
def Completes {α : Type} (identities : NodeId → Option Container) (nodes : List NodeId)
    (computation : Compilation α) : Prop :=
  ∀ session : Session, session.registry.Complete identities →
    (computation.run.run session).2.registry.Complete identities ∧
      session.registry.nodes ⊆ (computation.run.run session).2.registry.nodes ∧
        ∀ result, (computation.run.run session).1 = .ok result →
          nodes ⊆ (computation.run.run session).2.registry.nodes

namespace Completes

variable {α β : Type} {identities : NodeId → Option Container} {nodes more : List NodeId}

theorem pure (result : α) : Completes identities [] (pure result) :=
  fun _ complete => ⟨complete, List.Subset.refl _, fun _ _ => List.nil_subset _⟩

theorem throw (error : CompileError) :
    Completes identities nodes (throw error : Compilation α) :=
  fun _ complete => ⟨complete, List.Subset.refl _, nofun⟩

theorem bind {first : Compilation α} {next : α → Compilation β}
    (before : Completes identities nodes first)
    (after : ∀ result, Completes identities more (next result)) :
    Completes identities (nodes ++ more) (first >>= next) := by
  intro session complete
  obtain ⟨kept, grown, all⟩ := before session complete
  rw [run_bind]
  rcases outcome : first.run.run session with ⟨result, middle⟩
  rw [outcome] at kept grown all
  cases result with
  | error error => exact ⟨kept, grown, nofun⟩
  | ok result =>
      obtain ⟨keptLater, grownLater, allLater⟩ := after result middle kept
      refine ⟨keptLater, List.Subset.trans grown grownLater, fun final success => ?_⟩
      exact List.append_subset.mpr
        ⟨List.Subset.trans (all result rfl) grownLater, allLater final success⟩

theorem weaken {computation : Compilation α} (completes : Completes identities nodes computation)
    (part : more ⊆ nodes) : Completes identities more computation := by
  intro session complete
  obtain ⟨kept, grown, all⟩ := completes session complete
  exact ⟨kept, grown, fun result success => List.Subset.trans part (all result success)⟩

/-- A part that registers nothing does not touch the registry. -/
theorem of_registry {computation : Compilation α}
    (same : ∀ session, (computation.run.run session).2.registry = session.registry) :
    Completes identities [] computation := by
  intro session complete
  rw [same]
  exact ⟨complete, List.Subset.refl _, fun _ _ => List.nil_subset _⟩

/-- A type is registered after everything else that is compiled with its container. -/
theorem register {compute : Compilation CompiledType} {container : Container}
    (stored : identities container.id = some container)
    (computes : Completes identities nodes compute)
    (inner : ∀ other ∈ container.typed, other = container ∨ other.id ∈ nodes) :
    Completes identities (container.typed.map Container.id)
      (compute >>= fun type => do
        Compiler.register container.id type
        return type) := by
  intro session complete
  obtain ⟨kept, grown, all⟩ := computes session complete
  rw [run_bind]
  rcases outcome : compute.run.run session with ⟨_ | type, middle⟩
  · rw [outcome] at kept grown
    exact ⟨kept, grown, nofun⟩
  · rw [outcome] at kept grown all
    have before : ∀ other ∈ container.typed, other = container ∨
        other.id ∈ middle.registry.nodes :=
      fun other member => (inner other member).imp_right fun known => all type rfl known
    refine ⟨kept.register stored before type, fun id known => ?_, fun _ _ id member => ?_⟩
    · exact Registry.mem_nodes_register.mpr (.inl (grown known))
    · obtain ⟨other, inPart, rfl⟩ := List.mem_map.mp member
      refine Registry.mem_nodes_register.mpr ?_
      exact (before other inPart).symm.imp_right fun same => by rw [same]

end Completes

section

variable {identities : NodeId → Option Container} (target : Target)

theorem completes_claimTypeName (nodeName : String) :
    Completes identities [] (claimTypeName nodeName) := by
  apply Completes.of_registry
  intro session
  unfold claimTypeName
  cases Naming.typeIdentifier nodeName <;> rfl

theorem completes_claimProperty (scope : Scope) (nodeName : String) :
    Completes identities [] (claimProperty scope nodeName) := by
  unfold claimProperty
  split
  · exact .throw _
  · exact .pure _

theorem completes_bindValue (content : Schema.ValueNode) :
    Completes identities [] (bindValue content) := by
  unfold bindValue
  split
  · exact .pure _
  · split
    · exact .pure _
    · exact .throw _

theorem completes_compileBody (container : Container)
    (delimited : container.kind.childLevel?.isSome = true → ∀ leading level,
      Completes identities ((typedOf container.children).map Container.id)
        (compileChildren target leading level [] container.children)) :
    Completes identities
      ((if container.kind.childLevel?.isSome then typedOf container.children else []).map
        Container.id)
      (compileBody target container) := by
  unfold compileBody
  cases level? : container.kind.childLevel? with
  | some level => exact delimited (by rw [level?]; rfl) _ level
  | none => exact .pure _

theorem completes_compileFresh {container : Container}
    (stored : identities container.id = some container)
    (body : Completes identities
      ((if container.kind.childLevel?.isSome then typedOf container.children else []).map
        Container.id)
      (compileBody target container))
    (nested : ∀ scope, Completes identities ((typedOf container.segments).map Container.id)
      (compileSegments target scope container.segments)) :
    Completes identities (container.typed.map Container.id) (compileFresh target container) := by
  have computes := (completes_claimTypeName container.name).bind fun typeName =>
    body.bind fun steps => (nested steps.2).bind fun others =>
      (.pure
        { name := typeName
          space := target.space
          nodeName := container.name
          kind := container.kind
          layout :=
            layoutOf target.options container.kind container.code container.truncatable
              container.children steps.1 others.1 } :
        Completes identities [] (_ : Compilation CompiledType))
  have whole := Completes.register stored computes ?_
  · simpa [compileFresh] using whole
  · intro other member
    rw [Container.typed_eq, List.mem_cons] at member
    refine member.imp_right fun inside => ?_
    have among := List.mem_map_of_mem (f := Container.id) inside
    simpa using among

theorem completes_compileChild (scope : Scope) (occurs : Schema.Occurs) {node : Node}
    (bound : Completes identities (node.typed.map Container.id) (compileBinding target node)) :
    Completes identities (node.typed.map Container.id)
      (compileChild target scope ⟨occurs, node⟩) := by
  rw [compileChild]
  refine ((completes_claimProperty scope node.name).bind fun _ =>
    bound.bind fun _ => .pure _).weaken ?_
  simp

mutual

/-- Compiling a container leaves everything registered that is compiled with it. -/
theorem completes_compileContainer (container : Container)
    (stored : ∀ inner ∈ container.typed, identities inner.id = some inner) :
    Completes identities (container.typed.map Container.id)
      (compileContainer target container) := by
  intro session complete
  rw [run_compileContainer]
  cases found : session.registry.get? container.id with
  | some type =>
      have known : container.id ∈ session.registry.nodes := by
        by_contra absent
        rw [Registry.get?_eq_none_iff.mpr absent] at found
        cases found
      refine ⟨complete, List.Subset.refl _, fun _ _ id member => ?_⟩
      obtain ⟨inner, inPart, rfl⟩ := List.mem_map.mp member
      have own := stored container (by simp [Container.typed_eq])
      exact complete.closed container.id container known own inner inPart
  | none =>
      match container with
      | ⟨id, kind, name, code, truncatable, documentation, children, segments⟩ =>
          rw [Container.typed, List.forall_mem_cons, List.forall_mem_append] at stored
          obtain ⟨own, inChildren, inSegments⟩ := stored
          refine completes_compileFresh target own ?_ ?_ session complete
          · exact completes_compileBody target _ fun delimited leading level =>
              completes_compileChildren leading level [] children
                (by rwa [if_pos delimited] at inChildren)
          · exact fun scope => completes_compileSegments scope segments inSegments

theorem completes_compileChildren (leading : Option Level) (level : Level) (scope : Scope)
    (children : List Child)
    (stored : ∀ inner ∈ typedOf children, identities inner.id = some inner) :
    Completes identities ((typedOf children).map Container.id)
      (compileChildren target leading level scope children) := by
  match children with
  | [] =>
      rw [compileChildren]
      exact .pure _
  | ⟨occurs, node⟩ :: rest =>
      rw [typedOf, List.forall_mem_append] at stored
      rw [compileChildren, typedOf, List.map_append]
      have child :=
        completes_compileChild target scope occurs (completes_compileBinding node stored.1)
      refine child.bind fun result => ?_
      refine ((completes_compileChildren (some level) level result.2 rest stored.2).bind
        fun _ => .pure _).weaken ?_
      simp

theorem completes_compileSegments (scope : Scope) (segments : List Child)
    (stored : ∀ inner ∈ typedOf segments, identities inner.id = some inner) :
    Completes identities ((typedOf segments).map Container.id)
      (compileSegments target scope segments) := by
  match segments with
  | [] =>
      rw [compileSegments]
      exact .pure _
  | ⟨occurs, node⟩ :: rest =>
      rw [typedOf, List.forall_mem_append] at stored
      rw [compileSegments, typedOf, List.map_append]
      have child :=
        completes_compileChild target scope occurs (completes_compileBinding node stored.1)
      refine child.bind fun result => ?_
      refine ((completes_compileSegments result.2 rest stored.2).bind
        fun _ => .pure _).weaken ?_
      simp

theorem completes_compileBinding (node : Node)
    (stored : ∀ inner ∈ node.typed, identities inner.id = some inner) :
    Completes identities (node.typed.map Container.id) (compileBinding target node) := by
  match node with
  | .value content =>
      rw [compileBinding]
      exact completes_bindValue content
  | .container content =>
      rw [compileBinding]
      refine ((completes_compileContainer content stored).bind fun _ => .pure _).weaken ?_
      simp [Node.typed]

end

end

/-! ## Models -/

section

variable {identities : NodeId → Option Container} {registry : Registry}

/-- The containers that are compiled with a model. -/
def typedNodes (model : Model) : List NodeId :=
  model.root.typed.map Container.id

/-- Compiling a model keeps a registry complete, and if it succeeds, everything is registered
that is compiled with the model. -/
theorem Registry.Complete.compile (complete : registry.Complete identities) (target : Target)
    {model : Model} (stored : model.root.StoredIn identities) :
    (compile target model registry).2.Complete identities ∧
      ∀ compiled, (compile target model registry).1 = .ok compiled →
        typedNodes model ⊆ (compile target model registry).2.nodes := by
  unfold Compiler.compile
  cases Naming.checkNamespace target.space with
  | error illegal => exact ⟨complete, nofun⟩
  | ok _ =>
      have root : Completes identities (typedNodes model) (compileRoot target model.root) := by
        unfold typedNodes
        cases tree : model.root with
        | value content => exact .throw _
        | container content =>
            rw [tree] at stored
            exact completes_compileContainer target content fun inner member =>
              stored inner (Container.typed_subset content member)
      obtain ⟨kept, -, all⟩ := root ⟨registry, []⟩ complete
      dsimp only
      rcases outcome : (compileRoot target model.root).run.run ⟨registry, []⟩ with
        ⟨_ | type, session⟩
      · rw [outcome] at kept
        exact ⟨kept, nofun⟩
      · rw [outcome] at kept all
        exact ⟨kept, fun _ _ => all type rfl⟩

/-- The types of a compiled model are those that are registered after the others. -/
theorem types_of_compile {target : Target} {model : Model} {added : Registry}
    {outcome : Except CompileError CompiledModel} {compiled : CompiledModel}
    (step : compile target model registry = (outcome, registry ++ added))
    (success : (compile target model registry).1 = .ok compiled) :
    compiled.types = added.types := by
  have grown := congrArg Prod.snd step
  unfold Compiler.compile at success grown
  cases valid : Naming.checkNamespace target.space with
  | error illegal =>
      rw [valid] at success
      cases success
  | ok _ =>
      rw [valid] at success grown
      rcases run : (compileRoot target model.root).run.run ⟨registry, []⟩ with
        ⟨_ | type, session⟩
      · rw [run] at success
        cases success
      · rw [run] at success grown
        cases success
        dsimp only at grown ⊢
        rw [grown, List.drop_left]

end

/-! ## Sequences of calls -/

namespace Objects

variable {identities : NodeId → Option Container} {calls before : List Call} {call : Call}

theorem complete_registryAfter (stored : ∀ call ∈ calls, call.model.root.StoredIn identities) :
    (registryAfter calls).Complete identities := by
  induction calls using List.reverseRecOn with
  | nil => exact Registry.complete_nil identities
  | append_singleton calls last ih =>
      rw [List.forall_mem_append, List.forall_mem_singleton] at stored
      rw [registryAfter_concat]
      exact ((ih stored.1).compile last.target stored.2).1

/-- Calls that all succeed register what is compiled with their models, and nothing else. -/
theorem mem_nodes_registryAfter (stored : ∀ call ∈ calls, call.model.root.StoredIn identities)
    (succeed : Succeed calls) {id : NodeId} :
    id ∈ (registryAfter calls).nodes ↔ ∃ call ∈ calls, id ∈ typedNodes call.model := by
  induction calls using List.reverseRecOn with
  | nil => exact ⟨nofun, nofun⟩
  | append_singleton calls last ih =>
      rw [List.forall_mem_append, List.forall_mem_singleton] at stored
      obtain ⟨earlier, compiled, success⟩ := succeed_concat_iff.mp succeed
      have all := ((complete_registryAfter stored.1).compile last.target stored.2).2 compiled
        success
      obtain ⟨outcome, added, step, -, among⟩ := compile_of_agreeOn_typed last.target last.model
        (Registry.AgreeOn.refl _ (registryAfter calls))
      rw [step] at all
      rw [registryAfter_concat, step, Registry.nodes_append, List.mem_append, ih stored.1 earlier]
      constructor
      · rintro (⟨call, member, reached⟩ | late)
        · exact ⟨call, List.mem_append_left _ member, reached⟩
        · obtain ⟨entry, inAdded, rfl⟩ := List.mem_map.mp late
          exact ⟨last, by simp, among entry inAdded⟩
      · rintro ⟨call, member, reached⟩
        rcases List.mem_append.mp member with inCalls | isLast
        · exact .inl ⟨call, inCalls, reached⟩
        · obtain rfl := List.mem_singleton.mp isLast
          have known := all reached
          rwa [Registry.nodes_append, List.mem_append, ih stored.1 earlier] at known

/-- A call that succeeds registers what is compiled with its model and with none before it. -/
structure Adds (before : List Call) (call : Call) (compiled : CompiledModel) (added : Registry) :
    Prop where
  success : (compile call.target call.model (registryAfter before)).1 = .ok compiled
  registry : registryAfter (before ++ [call]) = registryAfter before ++ added
  types : compiled.types = added.types
  distinct : added.nodes.Nodup
  mem_iff : ∀ id, id ∈ added.nodes ↔
    id ∈ typedNodes call.model ∧ ∀ earlier ∈ before, id ∉ typedNodes earlier.model

theorem exists_adds (stored : ∀ other ∈ before ++ [call], other.model.root.StoredIn identities)
    (succeed : Succeed (before ++ [call])) : ∃ compiled added, Adds before call compiled added := by
  obtain ⟨earlier, compiled, success⟩ := succeed_concat_iff.mp succeed
  obtain ⟨outcome, added, step, -, among⟩ := compile_of_agreeOn_typed call.target call.model
    (Registry.AgreeOn.refl _ (registryAfter before))
  have whole : registryAfter (before ++ [call]) = registryAfter before ++ added := by
    rw [registryAfter_concat, step]
  have distinct := (complete_registryAfter stored).distinct
  rw [whole, Registry.nodes_append, List.nodup_append] at distinct
  obtain ⟨-, distinct, apart⟩ := distinct
  have storedEarlier : ∀ other ∈ before, other.model.root.StoredIn identities :=
    fun other member => stored other (List.mem_append_left _ member)
  refine ⟨compiled, added, success, whole, types_of_compile step success, distinct, fun id => ?_⟩
  constructor
  · intro new
    obtain ⟨entry, inAdded, rfl⟩ := List.mem_map.mp new
    refine ⟨among entry inAdded, fun other member reached => ?_⟩
    have known := (mem_nodes_registryAfter storedEarlier earlier).mpr ⟨other, member, reached⟩
    exact apart _ known _ new rfl
  · rintro ⟨reached, fresh⟩
    have known := (mem_nodes_registryAfter stored succeed).mpr ⟨call, by simp, reached⟩
    rw [whole, Registry.nodes_append, List.mem_append,
      mem_nodes_registryAfter storedEarlier earlier] at known
    rcases known with ⟨other, member, there⟩ | new
    · exact absurd there (fresh other member)
    · exact new

end Objects

end FlatMessage.Compiler
