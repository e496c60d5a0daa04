import FlatMessage.Proofs.Filters.Registered

/-!
# Calls that are left out

When calls of a sequence are left out, the others still find what is compiled with them
registered alike, unless one of those that are left out introduces it: unless it is the first
of the sequence to compile a container.  Then the first of the others that compiles the
container has a type more.
-/

namespace FlatMessage.Compiler.Objects

open Schema (Container NodeId)

variable {identities : NodeId → Option Container} {known calls : List Call}
  {chosen : Call → Bool} {call : Call} {id : NodeId}

/-- A call introduces a container when it is compiled with its model, and with no model that
is known or comes earlier. -/
def Introduces (known calls : List Call) (call : Call) (id : NodeId) : Prop :=
  ∃ before after, calls = before ++ call :: after ∧ id ∈ typedNodes call.model ∧
    ∀ earlier ∈ known ++ before, id ∉ typedNodes earlier.model

theorem Introduces.reached (introduces : Introduces known calls call id) :
    id ∈ typedNodes call.model := by
  obtain ⟨-, -, -, there, -⟩ := introduces
  exact there

theorem Introduces.not_known (introduces : Introduces known calls call id) :
    ∀ earlier ∈ known, id ∉ typedNodes earlier.model := by
  obtain ⟨before, -, -, -, fresh⟩ := introduces
  exact fun earlier member => fresh earlier (List.mem_append_left _ member)

/-- No call that is left out introduces a container of a call that is not. -/
def LeavesOutOwn (known calls : List Call) (chosen : Call → Bool) : Prop :=
  ∀ call id, Introduces known calls call id → chosen call = false →
    ∀ other ∈ calls, chosen other = true → id ∉ typedNodes other.model

/-- What is compiled with the chosen calls is registered alike without the others. -/
theorem agreeOn_filter
    (stored : ∀ call ∈ known ++ calls, call.model.root.StoredIn identities)
    (succeed : Succeed (known ++ calls)) (own : LeavesOutOwn known calls chosen)
    (inCalls : call ∈ calls) (isChosen : chosen call = true) {before after : List Call}
    (split : calls = before ++ after) :
    (registryAfter (known ++ before)).AgreeOn (typedNodes call.model)
      (registryAfter (known ++ before.filter chosen)) := by
  induction before using List.reverseRecOn generalizing call after with
  | nil => exact .refl _ _
  | append_singleton before last ih =>
      rw [List.append_assoc, List.singleton_append] at split
      have agree : ∀ {other : Call}, other ∈ calls → chosen other = true →
          (registryAfter (known ++ before)).AgreeOn (typedNodes other.model)
            (registryAfter (known ++ before.filter chosen)) :=
        fun inCalls isChosen => ih inCalls isChosen split
      rw [List.filter_append, ← List.append_assoc]
      cases lastChosen : chosen last with
      | true =>
          obtain ⟨outcome, added, one, other, -⟩ := compile_of_agreeOn_typed last.target
            last.model (agree (by simp [split]) lastChosen)
          rw [List.filter_singleton, lastChosen, cond_true, ← List.append_assoc,
            registryAfter_concat, registryAfter_concat, one, other]
          exact (agree inCalls isChosen).append added
      | false =>
          have whole : known ++ calls = known ++ before ++ [last] ++ after := by
            simp [split]
          rw [whole] at stored succeed
          have storedHere : ∀ call ∈ known ++ before ++ [last],
              call.model.root.StoredIn identities :=
            fun call member => stored call (List.mem_append_left _ member)
          obtain ⟨compiled, added, adds⟩ := exists_adds storedHere succeed.of_append
          rw [List.filter_singleton, lastChosen, cond_false, List.append_nil, adds.registry]
          intro id reached
          have absent : Registry.get? added id = none := by
            rw [Registry.get?_eq_none_iff, adds.mem_iff]
            rintro ⟨there, fresh⟩
            exact own last id ⟨before, after, split, there, fresh⟩ lastChosen call inCalls
              isChosen reached
          rw [Registry.get?_append, absent, Option.or_none]
          exact agree inCalls isChosen id reached

/-- What a call returns is decided by the calls before it, if no call stands twice. -/
theorem IsResult.success {compiled : CompiledModel} (result : IsResult calls call compiled)
    (distinct : calls.Nodup) {before after : List Call} (split : calls = before ++ call :: after) :
    (compile call.target call.model (registryAfter before)).1 = .ok compiled := by
  obtain ⟨start, rest, whole, success⟩ := result
  rw [split] at whole distinct
  rw [List.nodup_middle, List.nodup_cons, List.mem_append, not_or] at distinct
  obtain ⟨⟨notBefore, notAfter⟩, -⟩ := distinct
  obtain ⟨rfl, -, -⟩ := (List.append_cons_inj_of_notMem notBefore notAfter).mp whole
  exact success

theorem IsResult.unique {compiled other : CompiledModel} (result : IsResult calls call compiled)
    (distinct : calls.Nodup) (result' : IsResult calls call other) : compiled = other := by
  obtain ⟨before, after, split, success⟩ := result
  have success' := result'.success distinct split
  exact Except.ok.inj (success.symm.trans success')

/-- Where what is left out introduces nothing for them, the chosen calls return the same. -/
theorem IsResult.eq_of_filter (distinct : (known ++ calls).Nodup)
    (stored : ∀ call ∈ known ++ calls, call.model.root.StoredIn identities)
    (succeed : Succeed (known ++ calls)) (own : LeavesOutOwn known calls chosen)
    (inCalls : call ∈ calls) (isChosen : chosen call = true) {compiled other : CompiledModel}
    (result : IsResult (known ++ calls) call compiled)
    (result' : IsResult (known ++ calls.filter chosen) call other) : compiled = other := by
  obtain ⟨before, after, split⟩ := List.append_of_mem inCalls
  have agree := agreeOn_filter stored succeed own inCalls isChosen split
  obtain ⟨outcome, added, one, another, -⟩ :=
    compile_of_agreeOn_typed call.target call.model agree
  have filtered : calls.filter chosen = before.filter chosen ++ call :: after.filter chosen := by
    rw [split, List.filter_append, List.filter_cons_of_pos isChosen]
  have distinct' : (known ++ calls.filter chosen).Nodup :=
    distinct.sublist (List.filter_sublist.append_left known)
  have success := result.success distinct (by rw [split, List.append_assoc])
  have success' := result'.success distinct' (by rw [filtered, List.append_assoc])
  rw [one] at success
  rw [another] at success'
  exact Except.ok.inj (success.symm.trans success')

/-- The first chosen call with a container that is introduced by a call that is left out. -/
theorem Introduces.exists_first (introduces : Introduces known calls call id)
    (leftOut : chosen call = false) {other : Call} (inCalls : other ∈ calls)
    (isChosen : chosen other = true) (reached : id ∈ typedNodes other.model) :
    ∃ before first after, calls = before ++ first :: after ∧ chosen first = true ∧
      id ∈ typedNodes first.model ∧ call ∈ before ∧
        ∀ earlier ∈ before.filter chosen, id ∉ typedNodes earlier.model := by
  obtain ⟨first, found⟩ : ∃ first, calls.find? (fun other =>
      chosen other && decide (id ∈ typedNodes other.model)) = some first := by
    rw [← Option.isSome_iff_exists, List.find?_isSome]
    exact ⟨other, inCalls, by simp [isChosen, reached]⟩
  obtain ⟨holds, before, after, split, none_⟩ := List.find?_eq_some_iff_append.mp found
  rw [Bool.and_eq_true, decide_eq_true_eq] at holds
  obtain ⟨firstChosen, firstReached⟩ := holds
  refine ⟨before, first, after, split, firstChosen, firstReached, ?_, ?_⟩
  · obtain ⟨start, rest, splitToo, -, fresh⟩ := introduces
    have different : call ≠ first := by
      rintro rfl
      rw [leftOut] at firstChosen
      cases firstChosen
    rcases List.append_eq_append_iff.mp (split.symm.trans splitToo) with
      ⟨more, same, tail⟩ | ⟨more, same, tail⟩
    · cases more with
      | nil => exact absurd (List.cons.inj tail).1.symm different
      | cons head more =>
          obtain ⟨rfl, -⟩ := List.cons.inj tail
          exact absurd firstReached (fresh first (by simp [same]))
    · cases more with
      | nil => exact absurd (List.cons.inj tail).1 different
      | cons head more =>
          obtain ⟨rfl, -⟩ := List.cons.inj tail
          simp [same]
  · intro earlier member
    rw [List.mem_filter] at member
    have passed := none_ earlier member.1
    simpa [member.2] using passed

/-- A call that finds fewer containers registered has more types: it has those it had, and one
for each container that only the others are compiled with. -/
theorem Adds.length_lt {fewer more : List Call} {compiled compiled' : CompiledModel}
    {added added' : Registry} (adds : Adds more call compiled added)
    (adds' : Adds fewer call compiled' added') (part : fewer ⊆ more)
    (reached : id ∈ typedNodes call.model)
    (known : ∃ other ∈ more, id ∈ typedNodes other.model)
    (fresh : ∀ other ∈ fewer, id ∉ typedNodes other.model) :
    compiled.types.length < compiled'.types.length := by
  obtain ⟨other, member, there⟩ := known
  have new : id ∈ added'.nodes := (adds'.mem_iff id).mpr ⟨reached, fresh⟩
  have found : id ∉ added.nodes := fun listed =>
    ((adds.mem_iff id).mp listed).2 other member there
  have among : added.nodes ⊆ added'.nodes := by
    intro node listed
    obtain ⟨compiledWith, unknown⟩ := (adds.mem_iff node).mp listed
    exact (adds'.mem_iff node).mpr ⟨compiledWith, fun other inPart => unknown other (part inPart)⟩
  have counted : (id :: added.nodes).length ≤ added'.nodes.length :=
    (List.nodup_cons.mpr ⟨found, adds.distinct⟩).length_le_of_subset
      (List.cons_subset.mpr ⟨new, among⟩)
  rw [adds.types, adds'.types]
  simpa [Registry.types, Registry.nodes, Nat.succ_le_iff] using counted

/-- If a call that is left out introduces a container of a chosen call, then some chosen call
has fewer types with it than without it. -/
theorem Introduces.exists_fewer_types
    (stored : ∀ call ∈ known ++ calls, call.model.root.StoredIn identities)
    (succeed : Succeed (known ++ calls)) (succeed' : Succeed (known ++ calls.filter chosen))
    (introduces : Introduces known calls call id) (leftOut : chosen call = false) {other : Call}
    (inCalls : other ∈ calls) (isChosen : chosen other = true)
    (reached : id ∈ typedNodes other.model) :
    ∃ first compiled compiled', first ∈ calls ∧ chosen first = true ∧
      IsResult (known ++ calls) first compiled ∧
        IsResult (known ++ calls.filter chosen) first compiled' ∧
          compiled.types.length < compiled'.types.length := by
  obtain ⟨before, first, after, split, firstChosen, firstReached, earlier, apart⟩ :=
    introduces.exists_first leftOut inCalls isChosen reached
  have whole : known ++ calls = known ++ before ++ [first] ++ after := by
    simp [split]
  have whole' : known ++ calls.filter chosen =
      known ++ before.filter chosen ++ [first] ++ after.filter chosen := by
    simp [split, List.filter_cons_of_pos firstChosen]
  have part : known ++ before.filter chosen ++ [first] ⊆ known ++ calls := by
    rw [whole]
    intro call member
    simp only [List.mem_append, List.mem_filter] at member ⊢
    tauto
  have storedHere : ∀ call ∈ known ++ before ++ [first], call.model.root.StoredIn identities :=
    fun call member => stored call (whole ▸ List.mem_append_left _ member)
  have storedHere' : ∀ call ∈ known ++ before.filter chosen ++ [first],
      call.model.root.StoredIn identities := fun call member => stored call (part member)
  obtain ⟨compiled, added, adds⟩ := exists_adds storedHere (whole ▸ succeed).of_append
  obtain ⟨compiled', added', adds'⟩ := exists_adds storedHere' (whole' ▸ succeed').of_append
  refine ⟨first, compiled, compiled', by simp [split], firstChosen,
    ⟨known ++ before, after, by simp [whole], adds.success⟩,
    ⟨known ++ before.filter chosen, after.filter chosen, by simp [whole'], adds'.success⟩, ?_⟩
  refine adds.length_lt adds' ?_ firstReached
    ⟨call, List.mem_append_right _ earlier, introduces.reached⟩ ?_
  · intro other inPart
    rw [List.mem_append, List.mem_filter] at inPart
    exact List.mem_append.mpr (inPart.imp_right And.left)
  · rw [List.forall_mem_append]
    exact ⟨introduces.not_known, apart⟩

end FlatMessage.Compiler.Objects
