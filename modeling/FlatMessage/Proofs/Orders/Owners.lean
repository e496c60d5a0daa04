import FlatMessage.Proofs.Objects.History
import FlatMessage.Proofs.Orders.Locality

/-!
# Who compiles a container

In a sequence of compilations that all succeed, a container is compiled with the first
model that reaches it; all the others find its type registered.  So a sequence in another
order, in which the same model is the first one for every container, compiles every model
alike.
-/

namespace FlatMessage.Compiler.Objects

open Schema (Container NodeId)

/-- The containers that the model of a call reaches. -/
def Call.nodes (call : Call) : List NodeId :=
  call.model.root.containers.map Container.id

/-- The first of the calls that reach a container. -/
def IsOwner (calls : List Call) (id : NodeId) (owner : Call) : Prop :=
  ∃ before after, calls = before ++ owner :: after ∧ id ∈ owner.nodes ∧
    ∀ call ∈ before, id ∉ call.nodes

/-- Every call compiles its model with what was registered before it. -/
def Succeed (calls : List Call) : Prop :=
  ∀ before call after, calls = before ++ call :: after →
    ∃ compiled, (compile call.target call.model (registryAfter before)).1 = .ok compiled

section

variable {identities : NodeId → Option Container} {calls more : List Call} {call : Call}
  {id : NodeId}

theorem registryAfter_prefix (calls more : List Call) :
    registryAfter calls <+: registryAfter (calls ++ more) := by
  induction more using List.reverseRecOn with
  | nil => simp only [List.append_nil, List.prefix_refl]
  | append_singleton more last ih =>
      obtain ⟨outcome, added, step, -, -⟩ :=
        compile_of_agreeOn last.target last.model
          (Registry.AgreeOn.refl _ (registryAfter (calls ++ more)))
      rw [← List.append_assoc, registryAfter_concat, step]
      exact ih.trans (List.prefix_append _ _)

/-- A container that no call reaches is not registered. -/
theorem get?_registryAfter_eq_none (apart : ∀ call ∈ calls, id ∉ call.nodes) :
    (registryAfter calls).get? id = none := by
  induction calls using List.reverseRecOn with
  | nil => rfl
  | append_singleton calls last ih =>
      rw [List.forall_mem_append, List.forall_mem_singleton] at apart
      obtain ⟨outcome, added, step, -, among⟩ :=
        compile_of_agreeOn last.target last.model
          (Registry.AgreeOn.refl _ (registryAfter calls))
      rw [registryAfter_concat, step, Registry.get?_append, ih apart.1, Option.none_or,
        Registry.get?, List.lookup_eq_none_iff]
      intro entry member
      rw [bne_iff_ne]
      rintro rfl
      exact apart.2 (among entry member)

/-- A call that succeeds leaves all containers of its model registered. -/
theorem exists_get?_of_success (accepted : ∀ call ∈ calls, call.Accepted identities)
    (acceptedCall : call.Accepted identities) {compiled : CompiledModel}
    (success : (compile call.target call.model (registryAfter calls)).1 = .ok compiled)
    (member : id ∈ call.nodes) :
    ∃ type, (compile call.target call.model (registryAfter calls)).2.get? id = some type := by
  have aligned := aligned_after accepted
  obtain ⟨kept, precedes, outcome⟩ := aligned.compile acceptedCall
  rw [success] at outcome
  cases made : ((storeAfter calls).compile call.target call.model).1 with
  | error error =>
      rw [made] at outcome
      exact outcome.elim
  | ok result =>
      rw [made] at outcome
      obtain ⟨⟨root, tree, returned⟩, -⟩ := outcome
      obtain ⟨added, entries, -, new⟩ := returned.appended
      rw [Call.nodes, tree] at member
      rw [← Option.ne_none_iff_exists']
      intro absent
      rw [kept.registry_get?_eq_none_iff] at absent
      cases found : (storeAfter calls).get? id with
      | some reference =>
          rw [precedes.found id reference found] at absent
          cases absent
      | none =>
          obtain ⟨entry, inAdded, rfl⟩ := List.mem_map.mp ((new id).mpr ⟨member, found⟩)
          have there : (entry.1, entry.2) ∈
              ((storeAfter calls).compile call.target call.model).2.entries := by
            rw [entries]
            exact List.mem_append_right _ inAdded
          rw [kept.get?_eq_some_iff_mem.mpr there] at absent
          cases absent

/-- A container that a call reaches has an owner. -/
theorem exists_isOwner (member : call ∈ calls) (reached : id ∈ call.nodes) :
    ∃ owner, IsOwner calls id owner := by
  induction calls with
  | nil => cases member
  | cons first rest ih =>
      by_cases here : id ∈ first.nodes
      · exact ⟨first, [], rest, rfl, here, nofun⟩
      · rcases List.mem_cons.mp member with rfl | inRest
        · exact absurd reached here
        · obtain ⟨owner, before, after, rfl, reaches, apart⟩ := ih inRest
          refine ⟨owner, first :: before, after, rfl, reaches, ?_⟩
          rw [List.forall_mem_cons]
          exact ⟨here, apart⟩

/-- The owner of a container comes before the other calls that reach it. -/
theorem IsOwner.split {before after : List Call} {owner : Call}
    (isOwner : IsOwner (before ++ call :: after) id owner) (reached : id ∈ call.nodes) :
    (owner = call ∧ ∀ earlier ∈ before, id ∉ earlier.nodes) ∨
      ∃ start rest, before = start ++ owner :: rest ∧
        ∀ earlier ∈ start, id ∉ earlier.nodes := by
  obtain ⟨start, others, whole, reaches, apart⟩ := isOwner
  rcases List.append_eq_append_iff.mp whole with ⟨rest, same, tail⟩ | ⟨rest, same, tail⟩
  · cases rest with
    | nil =>
        rw [List.nil_append, List.cons.injEq] at tail
        rw [List.append_nil] at same
        exact .inl ⟨tail.1.symm, same ▸ apart⟩
    | cons first more =>
        rw [List.cons_append, List.cons.injEq] at tail
        obtain ⟨rfl, -⟩ := tail
        exact absurd reached (apart call (by simp [same]))
  · cases rest with
    | nil =>
        rw [List.nil_append, List.cons.injEq] at tail
        rw [List.append_nil] at same
        exact .inl ⟨tail.1, same ▸ apart⟩
    | cons first more =>
        rw [List.cons_append, List.cons.injEq] at tail
        obtain ⟨rfl, -⟩ := tail
        exact .inr ⟨start, more, same, apart⟩

theorem IsOwner.unique {owner other : Call} (isOwner : IsOwner calls id owner)
    (isOther : IsOwner calls id other) : owner = other := by
  obtain ⟨before, after, rfl, reaches, apart⟩ := isOther
  rcases isOwner.split reaches with ⟨same, -⟩ | ⟨start, rest, rfl, -⟩
  · exact same
  · obtain ⟨-, -, -, ownerReaches, -⟩ := isOwner
    exact absurd ownerReaches (apart owner (by simp))

/-- A call that comes before all others that reach a container owns it. -/
theorem isOwner_of_sublist {owner : Call} (distinct : calls.Nodup) (member : owner ∈ calls)
    (reaches : id ∈ owner.nodes)
    (earlier : ∀ call ∈ calls, id ∈ call.nodes → call = owner ∨ [owner, call].Sublist calls) :
    IsOwner calls id owner := by
  obtain ⟨before, after, rfl⟩ := List.append_of_mem member
  refine ⟨before, after, rfl, reaches, ?_⟩
  intro call inBefore reached
  rw [List.nodup_middle, List.nodup_cons] at distinct
  obtain ⟨fresh, distinct⟩ := distinct
  rcases earlier call (List.mem_append_left _ inBefore) reached with rfl | pair
  · exact fresh (List.mem_append_left _ inBefore)
  · obtain ⟨start, rest, split, inStart, inRest⟩ := List.sublist_append_iff.mp pair
    cases start with
    | cons first more =>
        rw [List.cons_append, List.cons.injEq] at split
        exact fresh (List.mem_append_left _ (inStart.subset (by simp [split.1])))
    | nil =>
        rw [List.nil_append] at split
        subst split
        have inAfter : call ∈ after := (List.cons_sublist_cons.mp inRest).subset (by simp)
        exact (List.nodup_append.mp distinct).2.2 call inBefore call inAfter rfl

end

section

variable {identities : NodeId → Option Container} {first second : List Call}

/-- The owner of a container has registered it for all later calls. -/
theorem get?_of_owner {start rest : List Call} {owner : Call} {id : NodeId}
    {outcome : Except CompileError CompiledModel} {added : Registry}
    (step : compile owner.target owner.model (registryAfter start) =
      (outcome, registryAfter start ++ added))
    (apart : ∀ earlier ∈ start, id ∉ earlier.nodes)
    (known : ∃ type, added.get? id = some type) :
    (registryAfter (start ++ owner :: rest)).get? id = added.get? id := by
  obtain ⟨type, found⟩ := known
  obtain ⟨later, grown⟩ := registryAfter_prefix (start ++ [owner]) rest
  rw [registryAfter_concat, step] at grown
  rw [List.append_cons, ← grown, Registry.get?_append, Registry.get?_append,
    get?_registryAfter_eq_none apart, Option.none_or, found, Option.some_or]

/-- In two orders of successful calls in which every container has the same owner, a call
has the same outcome and registers the same types. -/
theorem same_of_owners (distinct : first.Nodup) (distinct' : second.Nodup)
    (accepted : ∀ call ∈ first, call.Accepted identities) (succeed : Succeed first)
    (owners : ∀ id owner, IsOwner first id owner → IsOwner second id owner)
    {before after before' after' : List Call} {call : Call}
    (here : first = before ++ call :: after) (there : second = before' ++ call :: after') :
    ∃ outcome added,
      compile call.target call.model (registryAfter before) =
          (outcome, registryAfter before ++ added) ∧
        compile call.target call.model (registryAfter before') =
          (outcome, registryAfter before' ++ added) := by
  -- The owners of the containers that the call finds registered come earlier.
  induction length : before.length using Nat.strong_induction_on
    generalizing before after before' after' call with
  | _ size ih =>
      suffices agree : (registryAfter before).AgreeOn call.nodes (registryAfter before') by
        obtain ⟨outcome, added, one, other, -⟩ := compile_of_agreeOn call.target call.model agree
        exact ⟨outcome, added, one, other⟩
      intro id reached
      obtain ⟨owner, isOwner⟩ := exists_isOwner (here ▸ by simp : call ∈ first) reached
      have isOwner' := owners id owner isOwner
      rw [here] at isOwner distinct
      rw [there] at isOwner' distinct'
      rcases isOwner.split reached with ⟨rfl, apart⟩ | ⟨start, rest, whole, apart⟩
      · rcases isOwner'.split reached with ⟨-, apart'⟩ | ⟨start, rest, whole, -⟩
        · rw [get?_registryAfter_eq_none apart, get?_registryAfter_eq_none apart']
        · exact absurd distinct' (by simp [whole, List.nodup_append])
      · rcases isOwner'.split reached with
          ⟨rfl, -⟩ | ⟨start', rest', whole', apart'⟩
        · exact absurd distinct (by simp [whole, List.nodup_append])
        · subst whole whole'
          rw [List.append_assoc] at here there
          obtain ⟨outcome, added, one, other⟩ :=
            ih start.length (by simp [← length]) here there rfl
          have early : ∀ call ∈ start, call.Accepted identities := by
            intro call member
            exact accepted call (by simp [here, member])
          obtain ⟨compiled, success⟩ := succeed _ _ _ here
          obtain ⟨-, -, -, ownerReaches, -⟩ := isOwner
          obtain ⟨type, found⟩ := exists_get?_of_success early
            (accepted owner (by simp [here])) success ownerReaches
          rw [one, Registry.get?_append, get?_registryAfter_eq_none apart,
            Option.none_or] at found
          rw [get?_of_owner one apart ⟨type, found⟩, get?_of_owner other apart' ⟨type, found⟩]

end

end FlatMessage.Compiler.Objects
