import Mathlib.Data.List.Nodup
import Mathlib.Logic.Relation

/-!
# Depth-first visits

Visiting a node of a graph visits what the node imports, in order, and then finishes the
node; a node that is finished is not visited again.  The order of finishing is the
depth-first post-order.

Finished nodes are closed under imports, so a graph that can be visited has no cycle that
is reached, and exactly the reachable nodes are finished.
-/

namespace FlatMessage.Schema

variable {α : Type}

mutual

/-- From the nodes `done`, which are finished in that order, visiting a node finishes
more. -/
inductive Visits (imports? : α → Option (List α)) : List α → α → List α → Prop
  | known {done : List α} {node : α} (member : node ∈ done) : Visits imports? done node done
  | new {done later others : List α} {node : α} (fresh : node ∉ done)
      (imports : imports? node = some others) (inner : VisitsAll imports? done others later)
      (unfinished : node ∉ later) : Visits imports? done node (later ++ [node])

/-- Visiting several nodes in order. -/
inductive VisitsAll (imports? : α → Option (List α)) : List α → List α → List α → Prop
  | nil {done : List α} : VisitsAll imports? done [] done
  | cons {done middle later rest : List α} {node : α}
      (first : Visits imports? done node middle)
      (others : VisitsAll imports? middle rest later) :
      VisitsAll imports? done (node :: rest) later

end

/-- A node imports another one. -/
def Edge (imports? : α → Option (List α)) (node other : α) : Prop :=
  ∃ others, imports? node = some others ∧ other ∈ others

/-- What a node imports comes before the node. -/
def Ordered (imports? : α → Option (List α)) (done : List α) : Prop :=
  ∀ before node after, done = before ++ node :: after →
    ∃ others, imports? node = some others ∧ ∀ other ∈ others, other ∈ before

variable {imports? : α → Option (List α)}

/-! ## What a visit finishes -/

mutual

/-- A visit only appends, and it finishes the node. -/
theorem Visits.extends {done later : List α} {node : α}
    (visits : Visits imports? done node later) :
    done <+: later ∧ node ∈ later := by
  match visits with
  | .known member => exact ⟨List.prefix_rfl, member⟩
  | .new fresh imports inner unfinished =>
      exact ⟨inner.extends.1.trans (List.prefix_append _ _), by simp⟩

theorem VisitsAll.extends {done later nodes : List α}
    (visits : VisitsAll imports? done nodes later) :
    done <+: later ∧ ∀ node ∈ nodes, node ∈ later := by
  match visits with
  | .nil => exact ⟨List.prefix_rfl, nofun⟩
  | .cons first others =>
      obtain ⟨before, member⟩ := first.extends
      obtain ⟨after, members⟩ := others.extends
      rw [List.forall_mem_cons]
      exact ⟨before.trans after, after.subset member, members⟩

end

mutual

/-- No node is finished twice. -/
theorem Visits.nodup {done later : List α} {node : α}
    (visits : Visits imports? done node later)
    (distinct : done.Nodup) : later.Nodup := by
  match visits with
  | .known member => exact distinct
  | .new fresh imports inner unfinished =>
      rw [← List.concat_eq_append]
      exact (inner.nodup distinct).concat unfinished

theorem VisitsAll.nodup {done later nodes : List α}
    (visits : VisitsAll imports? done nodes later)
    (distinct : done.Nodup) : later.Nodup := by
  match visits with
  | .nil => exact distinct
  | .cons first others => exact others.nodup (first.nodup distinct)

end

/-- The last node is finished after what it imports. -/
theorem Ordered.concat {done others : List α} {node : α} (ordered : Ordered imports? done)
    (imports : imports? node = some others) (finished : ∀ other ∈ others, other ∈ done) :
    Ordered imports? (done ++ [node]) := by
  intro before inner after whole
  rcases List.eq_nil_or_concat after with rfl | ⟨after, last, rfl⟩
  · obtain ⟨rfl, same⟩ := List.append_inj' whole rfl
    obtain rfl := List.singleton_inj.mp same
    exact ⟨others, imports, finished⟩
  · rw [List.concat_eq_append, ← List.cons_append, ← List.append_assoc] at whole
    exact ordered before inner after (List.append_inj' whole rfl).1

mutual

/-- A visit keeps the order. -/
theorem Visits.ordered {done later : List α} {node : α}
    (visits : Visits imports? done node later)
    (ordered : Ordered imports? done) : Ordered imports? later := by
  match visits with
  | .known member => exact ordered
  | .new fresh imports inner unfinished =>
      exact (inner.ordered ordered).concat imports inner.extends.2

theorem VisitsAll.ordered {done later nodes : List α}
    (visits : VisitsAll imports? done nodes later)
    (ordered : Ordered imports? done) : Ordered imports? later := by
  match visits with
  | .nil => exact ordered
  | .cons first others => exact others.ordered (first.ordered ordered)

end

mutual

/-- Only nodes that are reached are finished. -/
theorem Visits.reached {done later : List α} {node inner : α}
    (visits : Visits imports? done node later) (member : inner ∈ later) :
    inner ∈ done ∨ Relation.ReflTransGen (Edge imports?) node inner := by
  match visits with
  | .known _ => exact .inl member
  | .new fresh imports visitsInner unfinished =>
      rcases List.mem_append.mp member with before | last
      · rcases visitsInner.reached before with known | ⟨other, inOthers, reached⟩
        · exact .inl known
        · exact .inr (.head ⟨_, imports, inOthers⟩ reached)
      · rw [List.mem_singleton] at last
        subst last
        exact .inr .refl

theorem VisitsAll.reached {done later nodes : List α}
    (visits : VisitsAll imports? done nodes later)
    {inner : α} (member : inner ∈ later) :
    inner ∈ done ∨ ∃ node ∈ nodes, Relation.ReflTransGen (Edge imports?) node inner := by
  match visits with
  | .nil => exact .inl member
  | .cons first others =>
      rcases others.reached member with middle | ⟨node, inRest, reached⟩
      · rcases first.reached middle with known | reached
        · exact .inl known
        · exact .inr ⟨_, List.mem_cons_self, reached⟩
      · exact .inr ⟨node, List.mem_cons_of_mem _ inRest, reached⟩

end

/-! ## Ordered nodes -/

namespace Ordered

variable {done later : List α}

/-- Every beginning of the order is closed under imports. -/
theorem closed (ordered : Ordered imports? later) (before : done <+: later) {node other : α}
    (reached : Relation.ReflTransGen (Edge imports?) node other) (member : node ∈ done) :
    other ∈ done := by
  induction reached with
  | refl => exact member
  | @tail middle last _ edge ih =>
      obtain ⟨others, imports, inOthers⟩ := edge
      obtain ⟨early, late, rfl⟩ := List.append_of_mem ih
      obtain ⟨more, rfl⟩ := before
      obtain ⟨again, same, finished⟩ :=
        ordered early middle (late ++ more) (by simp)
      rw [imports, Option.some.injEq] at same
      subst same
      exact List.mem_append_left _ (finished _ inOthers)

/-- No node reaches itself. -/
theorem acyclic (ordered : Ordered imports? done) (distinct : done.Nodup) {node : α}
    (member : node ∈ done) : ¬Relation.TransGen (Edge imports?) node node := by
  intro cycle
  obtain ⟨other, ⟨others, imports, inOthers⟩, reached⟩ := Relation.TransGen.head'_iff.mp cycle
  obtain ⟨before, after, rfl⟩ := List.append_of_mem member
  obtain ⟨again, same, finished⟩ := ordered before node after rfl
  rw [imports, Option.some.injEq] at same
  subst same
  have early := ordered.closed (List.prefix_append before _) reached (finished other inOthers)
  exact (List.nodup_append.mp distinct).2.2 node early node List.mem_cons_self rfl

end Ordered

theorem ordered_nil : Ordered imports? ([] : List α) := by
  intro before node after whole
  simp at whole

/-- Visiting some nodes finishes what they reach. -/
theorem VisitsAll.mem_iff {done nodes : List α} (visits : VisitsAll imports? [] nodes done)
    {node : α} :
    node ∈ done ↔ ∃ root ∈ nodes, Relation.ReflTransGen (Edge imports?) root node := by
  constructor
  · intro member
    rcases visits.reached member with none | reached
    · cases none
    · exact reached
  · rintro ⟨root, inNodes, reached⟩
    exact (visits.ordered ordered_nil).closed List.prefix_rfl reached
      (visits.extends.2 root inNodes)

end FlatMessage.Schema
