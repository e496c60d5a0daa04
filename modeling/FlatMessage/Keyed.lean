/-!
# Tables in key order

A table is a list of key and value pairs whose keys ascend strictly by code
point.  Instances, encoder options and generated descriptors all keep their
members in this order, so each of them has one written form.

Binding a key replaces its value and keeps the order; the last binding of a
key wins.
-/

namespace FlatMessage.Keyed

universe u

variable {α : Type u}

/-- The value bound to `key`. -/
def get? (key : String) : List (String × α) → Option α
  | [] => none
  | (name, value) :: rest => if name = key then some value else get? key rest

/-- Bind `key` to `value`, before the first greater key. -/
def insert (key : String) (value : α) : List (String × α) → List (String × α)
  | [] => [(key, value)]
  | (name, old) :: rest =>
      if name = key then (key, value) :: rest
      else if key < name then (key, value) :: (name, old) :: rest
      else (name, old) :: insert key value rest

/-- Drop the binding of `key`. -/
def erase (key : String) : List (String × α) → List (String × α)
  | [] => []
  | (name, value) :: rest =>
      if name = key then rest else (name, value) :: erase key rest

/-- The table of a list of bindings, in which the last binding of a key
wins. -/
def ofList (bindings : List (String × α)) : List (String × α) :=
  bindings.foldl (fun table binding => insert binding.1 binding.2 table) []

/-- The keys ascend strictly. -/
def Ordered : List (String × α) → Prop
  | [] => True
  | [_] => True
  | (first, _) :: (second, value) :: rest =>
      first < second ∧ Ordered ((second, value) :: rest)

@[simp]
theorem get?_nil (key : String) : get? key ([] : List (String × α)) = none :=
  rfl

/-- The key just bound has the value it was bound to. -/
@[simp]
theorem get?_insert_self (key : String) (value : α)
    (table : List (String × α)) :
    get? key (insert key value table) = some value := by
  induction table with
  | nil => simp [insert, get?]
  | cons binding rest ih =>
      obtain ⟨name, old⟩ := binding
      by_cases same : name = key
      · simp [insert, get?, same]
      · by_cases before : key < name
        · simp [insert, get?, same, before]
        · simp [insert, get?, same, before, ih]

/-- Binding one key leaves the others alone. -/
theorem get?_insert_of_ne {key other : String} (different : other ≠ key)
    (value : α) (table : List (String × α)) :
    get? other (insert key value table) = get? other table := by
  induction table with
  | nil => simp [insert, get?, Ne.symm different]
  | cons binding rest ih =>
      obtain ⟨name, old⟩ := binding
      by_cases same : name = key
      · subst same
        simp [insert, get?, Ne.symm different]
      · by_cases before : key < name
        · simp [insert, get?, same, before, Ne.symm different]
        · simp [insert, get?, same, before, ih]

end FlatMessage.Keyed
