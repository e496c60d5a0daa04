import Mathlib.Data.List.Forall2
import Mathlib.Data.List.Nodup

/-!
# Lists

Lists that are searched by keys, matched item by item, and changed at one position.
-/

namespace FlatMessage

/-- Where all keys are different, what is found by a key is the member with that key. -/
theorem find?_eq_some_iff_of_nodup {α β : Type} [DecidableEq β] {key : α → β} {items : List α}
    (distinct : (items.map key).Nodup) {wanted : β} {item : α} :
    items.find? (fun other => key other = wanted) = some item ↔
      item ∈ items ∧ key item = wanted := by
  constructor
  · intro found
    exact ⟨List.mem_of_find?_eq_some found, by simpa using List.find?_some found⟩
  · rintro ⟨member, rfl⟩
    cases found : items.find? (fun other => key other = key item) with
    | none =>
        have absent := List.find?_eq_none.mp found item member
        simp at absent
    | some other =>
        have same : key other = key item := by simpa using List.find?_some found
        rw [List.inj_on_of_nodup_map distinct (List.mem_of_find?_eq_some found) member same]

/-- What is matched with a member of the second list is a member of the first one. -/
theorem exists_of_forall₂ {α β : Type} {related : α → β → Prop} {items : List α}
    {results : List β} (all : List.Forall₂ related items results) {result : β}
    (member : result ∈ results) : ∃ item ∈ items, related item result := by
  induction all with
  | nil => cases member
  | cons head tail ih =>
      rcases List.mem_cons.mp member with rfl | later
      · exact ⟨_, List.mem_cons_self, head⟩
      · obtain ⟨item, inItems, matched⟩ := ih later
        exact ⟨item, List.mem_cons_of_mem _ inItems, matched⟩

/-- Matched items that agree on a value have the same list of values. -/
theorem map_eq_of_forall₂ {α β γ : Type} {related : α → β → Prop} {f : α → γ} {g : β → γ}
    {items : List α} {results : List β} (all : List.Forall₂ related items results)
    (same : ∀ item result, related item result → f item = g result) :
    items.map f = results.map g := by
  induction all with
  | nil => rfl
  | cons head _ ih => rw [List.map_cons, List.map_cons, same _ _ head, ih]

/-- The position past the end is that of the item that is appended. -/
theorem getElem?_concat_eq_some_iff {α : Type} {items : List α} {item other : α} {position : Nat} :
    (items ++ [item])[position]? = some other ↔
      items[position]? = some other ∨ position = items.length ∧ item = other := by
  rw [List.getElem?_append]
  split
  · next within => simp [Nat.ne_of_lt within]
  · next past =>
      rw [List.getElem?_eq_none (Nat.le_of_not_lt past), List.getElem?_singleton]
      split <;> simp <;> omega

section

variable {α : Type} {items more : List α} {position : Nat} {f : α → α}

theorem modify_append_of_lt (within : position < items.length) :
    (items ++ more).modify position f = items.modify position f ++ more := by
  induction items generalizing position with
  | nil => cases within
  | cons item rest ih =>
      cases position with
      | zero => rfl
      | succ position =>
          simp only [List.cons_append, List.modify_succ_cons]
          rw [ih (Nat.lt_of_succ_lt_succ within)]

theorem modify_concat_length (items : List α) (item : α) :
    (items ++ [item]).modify items.length f = items ++ [f item] := by
  induction items with
  | nil => rfl
  | cons first rest ih => simp [ih]

end

end FlatMessage
