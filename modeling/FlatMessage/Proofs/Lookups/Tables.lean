import FlatMessage.Proofs.Orders.Reports
import Mathlib.Data.List.Perm.Subperm
import Mathlib.Data.String.Basic

/-!
# Tables of bindings

The keys of a table ascend, so no key stands in it twice.  The table of a list of bindings
has the keys of the list, and it is as long as the list exactly when all keys of the list are
different.
-/

namespace FlatMessage.Keyed

variable {α : Type} {table : List (String × α)}

/-- Each key of a table in order is less than all that follow. -/
theorem ordered_iff_pairwise :
    Ordered table ↔ (table.map Prod.fst).Pairwise (· < ·) := by
  induction table with
  | nil => simp [Ordered]
  | cons binding rest ih =>
      obtain ⟨first, value⟩ := binding
      cases rest with
      | nil => simp [Ordered]
      | cons next rest =>
          obtain ⟨second, other⟩ := next
          rw [Ordered, ih, List.map_cons, List.map_cons, List.pairwise_cons (a := first)]
          refine and_congr_left fun ascends => ?_
          rw [List.pairwise_cons] at ascends
          rw [List.map_cons, List.forall_mem_cons]
          exact ⟨fun less => ⟨less, fun name member => less.trans (ascends.1 name member)⟩,
            And.left⟩

/-- Binding a key adds it to the keys. -/
theorem mem_keys_insert {key name : String} {value : α} :
    name ∈ (insert key value table).map Prod.fst ↔
      name = key ∨ name ∈ table.map Prod.fst := by
  induction table with
  | nil => simp [insert]
  | cons binding rest ih =>
      obtain ⟨first, old⟩ := binding
      rw [insert]
      split
      · next same =>
          subst same
          simp
      · split
        · simp
        · rw [List.map_cons, List.mem_cons, ih, List.map_cons, List.mem_cons]
          exact or_left_comm

/-- Binding a key keeps the order. -/
theorem Ordered.insert (ordered : Ordered table) (key : String) (value : α) :
    Ordered (insert key value table) := by
  rw [ordered_iff_pairwise] at ordered ⊢
  induction table with
  | nil => simp [Keyed.insert]
  | cons binding rest ih =>
      obtain ⟨first, old⟩ := binding
      have whole := ordered
      rw [List.map_cons, List.pairwise_cons] at ordered
      rw [Keyed.insert]
      split
      · next same =>
          subst same
          exact whole
      · next other =>
          split
          · next before =>
              refine List.Pairwise.cons ?_ whole
              rw [List.map_cons, List.forall_mem_cons]
              exact ⟨before, fun name member => before.trans (ordered.1 name member)⟩
          · next after =>
              refine List.Pairwise.cons ?_ (ih ordered.2)
              intro name member
              rcases mem_keys_insert.mp member with rfl | later
              · exact lt_of_le_of_ne (not_lt.mp after) other
              · exact ordered.1 name later

theorem ofList_concat (bindings : List (String × α)) (key : String) (value : α) :
    ofList (bindings ++ [(key, value)]) = insert key value (ofList bindings) := by
  rw [ofList, List.foldl_append]
  rfl

theorem ordered_ofList (bindings : List (String × α)) : Ordered (ofList bindings) := by
  induction bindings using List.reverseRecOn with
  | nil => exact trivial
  | append_singleton bindings last ih =>
      rw [ofList_concat]
      exact ih.insert last.1 last.2

theorem mem_keys_ofList {bindings : List (String × α)} {name : String} :
    name ∈ (ofList bindings).map Prod.fst ↔ name ∈ bindings.map Prod.fst := by
  induction bindings using List.reverseRecOn with
  | nil => rfl
  | append_singleton bindings last ih =>
      rw [ofList_concat, mem_keys_insert, ih]
      simp [or_comm]

/-- A table has as many entries as there are bindings only if no key is bound twice. -/
theorem length_ofList_eq_iff {bindings : List (String × α)} :
    (ofList bindings).length = bindings.length ↔ (bindings.map Prod.fst).Nodup := by
  constructor
  · intro counted
    have distinct : ((ofList bindings).map Prod.fst).Nodup :=
      (ordered_iff_pairwise.mp (ordered_ofList bindings)).imp ne_of_lt
    have part := List.Nodup.subperm distinct fun name member => mem_keys_ofList.mp member
    have perm := part.perm_of_length_le (by rw [List.length_map, List.length_map, counted])
    exact perm.nodup distinct
  · exact fun distinct => (perm_ofList distinct).length_eq

/-- Where no key is bound twice, every binding is found. -/
theorem get?_ofList {bindings : List (String × α)} (distinct : (bindings.map Prod.fst).Nodup)
    {key : String} {value : α} (member : (key, value) ∈ bindings) :
    get? key (ofList bindings) = some value := by
  induction bindings using List.reverseRecOn with
  | nil => cases member
  | append_singleton bindings last ih =>
      rw [List.map_append, List.nodup_append] at distinct
      obtain ⟨distinct, -, apart⟩ := distinct
      rw [ofList_concat]
      rcases List.mem_append.mp member with early | late
      · have different : key ≠ last.1 :=
          apart key (List.mem_map_of_mem early) last.1 (by simp)
        rw [get?_insert_of_ne different, ih distinct early]
      · obtain rfl := List.mem_singleton.mp late
        exact get?_insert_self key value _

end FlatMessage.Keyed
