import FlatMessage.Proofs.Bindings.Trees
import FlatMessage.Proofs.Distinct.Paths
import FlatMessage.Proofs.Distinct.Registering
import FlatMessage.Proofs.Objects.History
import FlatMessage.Proofs.Places.Canonical

/-!
# Paths in binding trees

The path of a node is made of the names on the way to it, and it is cut into those names
again because no name holds a slash.  They lead back to the node because no two siblings
have one name.

Both come from compiling.  Properties are named by identifiers that are different within a
type, and a slash in the name of a schema node would stand in the identifier of its type.
-/

namespace FlatMessage

namespace Text

/-- The pieces of a text between slashes make up the text. -/
theorem join_split (text : String) : join "/" (split (· == '/') text) = text := by
  have pieces : (split (· == '/') text).map String.toList =
      splitChars (· == '/') text.toList := by
    simp [split]
  have some_ : split (· == '/') text ≠ [] := by
    simpa [split] using splitChars_ne_nil (· == '/') text.toList
  have simple : ∀ piece ∈ split (· == '/') text, '/' ∉ piece.toList := by
    intro piece member slash
    obtain ⟨chars, inPieces, rfl⟩ := List.mem_map.mp member
    rw [String.toList_ofList] at slash
    exact absurd (not_mem_of_mem_splitChars inPieces '/' slash) (by decide)
  have again := Files.splitChars_join some_ simple
  rw [pieces] at again
  exact String.toList_inj.mp (splitChars_inj again)

/-- Names without slashes are found between the slashes of what they make up. -/
theorem split_join {names : List String} (some_ : names ≠ [])
    (simple : ∀ name ∈ names, '/' ∉ name.toList) :
    split (· == '/') (join "/" names) = names := by
  rw [split, Files.splitChars_join some_ simple, List.map_map]
  simp

end Text

namespace Compiler

open Codec (CompiledType Property)

namespace BindingTree

/-! ## Addresses -/

theorem at?_cons (tree : BindingTree) (position : Nat) (rest : Address) :
    tree.at? (position :: rest) = tree.children[position]?.bind (·.at? rest) := by
  obtain ⟨binding, children⟩ := tree
  rw [at?]
  cases (node binding children).children[position]? <;> rfl

theorem mem_addressesFrom {start : Nat} {trees : List BindingTree} {position : Nat}
    {rest : Address} :
    position :: rest ∈ addressesFrom start trees ↔
      start ≤ position ∧ ∃ child, trees[position - start]? = some child ∧
        rest ∈ child.addresses := by
  induction trees generalizing start with
  | nil => simp [addressesFrom]
  | cons tree others ih =>
      have head : position :: rest ∈ tree.addresses.map (start :: ·) ↔
          position = start ∧ rest ∈ tree.addresses := by
        simp [eq_comm, and_comm]
      rw [addressesFrom, List.mem_append, ih, head]
      rcases Nat.lt_trichotomy position start with before | rfl | after
      · have never : ¬start + 1 ≤ position := Nat.not_le_of_lt (Nat.lt_succ_of_lt before)
        simp [never, Nat.not_le_of_lt before, Nat.ne_of_lt before]
      · have never : ¬position + 1 ≤ position := Nat.not_succ_le_self position
        simp [never]
      · obtain ⟨offset, rfl⟩ := Nat.exists_eq_add_of_lt after
        have next : start + offset + 1 - start = offset + 1 := by omega
        have later : start + offset + 1 - (start + 1) = offset := by omega
        rw [next, later, List.getElem?_cons_succ]
        simp [Nat.ne_of_gt after, Nat.le_of_lt after]

theorem nil_not_mem_addressesFrom (start : Nat) (trees : List BindingTree) :
    [] ∉ addressesFrom start trees := by
  induction trees generalizing start with
  | nil => simp [addressesFrom]
  | cons tree others ih => simp [addressesFrom, ih]

/-- The addresses of a tree are those that lead to a node. -/
theorem mem_addresses_iff {tree : BindingTree} {address : Address} :
    address ∈ tree.addresses ↔ ∃ inner, tree.at? address = some inner := by
  induction address generalizing tree with
  | nil =>
      obtain ⟨binding, children⟩ := tree
      simp [addresses, at?]
  | cons position rest ih =>
      rw [at?_cons]
      obtain ⟨binding, children⟩ := tree
      have under : position :: rest ∈ (node binding children).addresses ↔
          position :: rest ∈ addressesFrom 0 children := by
        simp [addresses]
      rw [under, mem_addressesFrom]
      simp only [ih, Nat.zero_le, true_and, Nat.sub_zero, BindingTree.children,
        Option.bind_eq_some_iff]
      constructor
      · rintro ⟨child, found, inner, there⟩
        exact ⟨inner, child, found, there⟩
      · rintro ⟨inner, child, found, there⟩
        exact ⟨child, found, inner, there⟩

mutual

/-- No address is listed twice. -/
theorem nodup_addresses (tree : BindingTree) : tree.addresses.Nodup := by
  match tree with
  | .node binding children =>
      rw [addresses, List.nodup_cons]
      exact ⟨nil_not_mem_addressesFrom 0 children, nodup_addressesFrom 0 children⟩

theorem nodup_addressesFrom (start : Nat) (trees : List BindingTree) :
    (addressesFrom start trees).Nodup := by
  match trees with
  | [] => exact List.nodup_nil
  | tree :: others =>
      rw [addressesFrom, List.nodup_append]
      refine ⟨?_, nodup_addressesFrom (start + 1) others, ?_⟩
      · exact (nodup_addresses tree).map fun _ _ => List.tail_eq_of_cons_eq
      · rintro address inTree _ inOthers rfl
        obtain ⟨rest, -, rfl⟩ := List.mem_map.mp inTree
        exact absurd (mem_addressesFrom.mp inOthers).1 (Nat.not_succ_le_self start)

end

/-! ## Labels -/

/-- The labels below the root on the way to an address. -/
def labelsBelow (tree : BindingTree) (address : Address) : List String :=
  (tree.labels address).tail

theorem labels_eq (tree : BindingTree) (address : Address) :
    tree.labels address = tree.label :: tree.labelsBelow address := by
  cases address <;> rfl

theorem labelsBelow_cons {tree child : BindingTree} {position : Nat}
    (found : tree.children[position]? = some child) (rest : Address) :
    tree.labelsBelow (position :: rest) = child.label :: child.labelsBelow rest := by
  rw [labelsBelow, labels, List.tail_cons, found, ← labels_eq]

theorem label_of_property {tree : BindingTree} {name : String}
    (named : tree.binding.property = some name) : tree.label = name := by
  rw [label, named, Option.getD_some]

/-- A tree whose nodes are told apart by paths: siblings have different labels, and no label
below the root holds a slash. -/
inductive Addressable : BindingTree → Prop
  | node {binding : Binding} {children : List BindingTree}
      (distinct : (children.map label).Nodup)
      (named : ∀ child ∈ children,
        ∃ name, child.binding.property = some name ∧ '/' ∉ name.toList)
      (inner : ∀ child ∈ children, Addressable child) :
      Addressable (.node binding children)

/-- Only the first child with a name has it. -/
theorem findIdx?_of_addressable {tree child : BindingTree} (apart : tree.Addressable)
    {position : Nat} (found : tree.children[position]? = some child) :
    (tree.children.findIdx? fun other => other.binding.property = some child.label) =
      some position := by
  obtain @⟨binding, children, distinct, named, -⟩ := apart
  change children[position]? = some child at found
  change (children.findIdx? _) = _
  obtain ⟨within, rfl⟩ := List.getElem?_eq_some_iff.mp found
  obtain ⟨name, property, -⟩ := named _ (List.getElem_mem within)
  refine List.findIdx?_eq_some_iff_getElem.mpr ⟨within, ?_, fun earlier before same => ?_⟩
  · simp [property, label_of_property property]
  · have labels := label_of_property (of_decide_eq_true same)
    have differ := List.pairwise_iff_getElem.mp distinct earlier position (by simp; omega)
      (by simpa using within) before
    simp only [List.getElem_map] at differ
    exact differ labels

/-- The labels on the way to a node lead back to it. -/
theorem follow_labelsBelow {tree inner : BindingTree} (apart : tree.Addressable)
    {address : Address} (found : tree.at? address = some inner) :
    tree.follow (tree.labelsBelow address) = some address := by
  induction address generalizing tree with
  | nil => rfl
  | cons position rest ih =>
      rw [at?_cons, Option.bind_eq_some_iff] at found
      obtain ⟨child, atPosition, found⟩ := found
      have innerApart : child.Addressable := by
        obtain ⟨-, -, inner⟩ := apart
        exact inner child (List.mem_of_getElem? atPosition)
      rw [labelsBelow_cons atPosition, follow, findIdx?_of_addressable apart atPosition]
      dsimp only
      rw [atPosition]
      dsimp only
      rw [ih innerApart found]
      rfl

/-- Names that are followed are the labels on the way. -/
theorem labelsBelow_of_follow {tree : BindingTree} {names : List String} {address : Address}
    (followed : tree.follow names = some address) :
    (∃ inner, tree.at? address = some inner) ∧ tree.labelsBelow address = names := by
  induction names generalizing tree address with
  | nil =>
      cases followed
      exact ⟨⟨tree, by rw [at?]⟩, rfl⟩
  | cons name rest ih =>
      rw [follow] at followed
      split at followed
      · cases followed
      · next position first =>
          obtain ⟨within, named, -⟩ := List.findIdx?_eq_some_iff_getElem.mp first
          rw [List.getElem?_eq_getElem within] at followed
          obtain ⟨further, there, rfl⟩ := Option.map_eq_some_iff.mp followed
          obtain ⟨⟨inner, found⟩, same⟩ := ih there
          have child := List.getElem?_eq_getElem within
          refine ⟨⟨inner, ?_⟩, ?_⟩
          · rw [at?_cons, child]
            exact found
          · rw [labelsBelow_cons child, same, label_of_property (by simpa using named)]

/-- No label on the way to a node holds a slash. -/
theorem slash_not_mem_labels {tree inner : BindingTree} (apart : tree.Addressable)
    {address : Address} (found : tree.at? address = some inner) :
    ∀ name ∈ tree.labelsBelow address, '/' ∉ name.toList := by
  induction address generalizing tree with
  | nil => exact nofun
  | cons position rest ih =>
      rw [at?_cons, Option.bind_eq_some_iff] at found
      obtain ⟨child, atPosition, found⟩ := found
      obtain ⟨-, named, inner⟩ := apart
      have member := List.mem_of_getElem? atPosition
      obtain ⟨name, property, simple⟩ := named child member
      rw [labelsBelow_cons atPosition, List.forall_mem_cons, label_of_property property]
      exact ⟨simple, ih (inner child member) found⟩

/-! ## Paths -/

section

variable {tree : BindingTree} (root : tree.binding.property = none)

include root in
theorem label_of_root : tree.label = tree.binding.nodeName := by
  rw [label, root, Option.getD_none]

include root in
/-- A node is found by its path. -/
theorem find?_path (apart : tree.Addressable) (simple : '/' ∉ tree.binding.nodeName.toList)
    {address : Address} (member : address ∈ tree.addresses) :
    tree.find? (tree.path address) = some address := by
  obtain ⟨inner, found⟩ := mem_addresses_iff.mp member
  have names : Text.split (· == '/') (tree.path address) =
      tree.binding.nodeName :: tree.labelsBelow address := by
    rw [path, labels_eq, label_of_root root]
    refine Text.split_join (List.cons_ne_nil _ _) (List.forall_mem_cons.mpr ⟨simple, ?_⟩)
    exact slash_not_mem_labels apart found
  rw [find?, names]
  dsimp only
  rw [if_pos rfl, follow_labelsBelow apart found]

include root in
/-- A text by which a node is found is its path. -/
theorem path_of_find? {text : String} {address : Address}
    (found : tree.find? text = some address) :
    address ∈ tree.addresses ∧ tree.path address = text := by
  rw [find?] at found
  split at found
  · next first rest pieces =>
      split at found
      · next same =>
          obtain ⟨there, names⟩ := labelsBelow_of_follow found
          refine ⟨mem_addresses_iff.mpr there, ?_⟩
          rw [path, labels_eq, label_of_root root, ← same, names, ← pieces, Text.join_split]
      · cases found
  · cases found

end

end BindingTree

/-! ## Trees of compiled types -/

/-- A slash is kept in Pascal case. -/
theorem slash_mem_pascalFrom {chars : List Char} (member : '/' ∈ chars) (atStart : Bool) :
    '/' ∈ Naming.pascalFrom atStart chars := by
  induction chars generalizing atStart with
  | nil => cases member
  | cons c rest ih =>
      rw [Naming.pascalFrom]
      rcases List.mem_cons.mp member with rfl | later
      · have plain : Naming.isSeparator '/' = false := by decide
        have capital : Text.toUppercase '/' = ['/'] := by decide
        cases atStart <;> simp [plain, capital]
      · split
        · exact ih later true
        · split
          · exact List.mem_append_right _ (ih later false)
          · exact List.mem_cons_of_mem _ (ih later false)

/-- The name of a node from which the identifier of a type is derived has no slashes. -/
theorem slash_not_mem_of_typeIdentifier {name identifier : String}
    (derived : Naming.typeIdentifier name = .ok identifier) : '/' ∉ name.toList := by
  intro member
  obtain ⟨-, legal⟩ := Naming.check_eq_ok_iff.mp derived
  refine legal.not_mem_slash ?_
  rw [Naming.pascalCase, String.toList_ofList]
  exact slash_mem_pascalFrom member true

/-- The nodes of a type's binding tree are told apart by paths, and its root by name. -/
structure IsAddressable (type : CompiledType) : Prop where
  apart : (BindingTree.ofType type).Addressable
  simple : '/' ∉ type.nodeName.toList

/-- The tree of a property is as the tree of its bean type. -/
theorem addressable_ofProp {property : Property}
    (made : MadeProperty IsAddressable property) : (BindingTree.ofProp property).Addressable := by
  cases bound : property.binding with
  | scalar scalar =>
      rw [BindingTree.ofProp_scalar bound]
      exact .node List.nodup_nil nofun nofun
  | bean type =>
      rw [BindingTree.ofProp_bean bound]
      have apart := (made.beans type bound).apart
      rw [BindingTree.ofType_eq] at apart
      obtain ⟨distinct, named, inner⟩ := apart
      exact .node distinct named inner

theorem property_ofProp (property : Property) :
    (BindingTree.ofProp property).binding.property = some property.name := by
  cases bound : property.binding with
  | scalar scalar => rw [BindingTree.ofProp_scalar bound]; rfl
  | bean type => rw [BindingTree.ofProp_bean bound]; rfl

/-- Types that are made with addressable types are addressable. -/
theorem isAddressable_of_made {space : String} {type : CompiledType}
    (made : MadeType space IsAddressable type) : IsAddressable type where
  apart := by
    rw [BindingTree.ofType_eq]
    refine .node ?_ ?_ ?_
    · have labels : (type.properties.map BindingTree.ofProp).map BindingTree.label =
          type.properties.map Property.name := by
        rw [List.map_map]
        exact List.map_congr_left fun property _ =>
          BindingTree.label_of_property (property_ofProp property)
      rw [labels]
      exact made.distinct
    · rw [List.forall_mem_map]
      intro property member
      exact ⟨_, property_ofProp property, (made.properties property member).legal.not_mem_slash⟩
    · rw [List.forall_mem_map]
      exact fun property member => addressable_ofProp (made.properties property member)
  simple := by
    obtain ⟨identifier, derived⟩ := made.derived
    exact slash_not_mem_of_typeIdentifier derived

/-- After every sequence of calls all registered types are addressable. -/
theorem all_isAddressable (calls : List Objects.Call) :
    (Objects.registryAfter calls).All IsAddressable := by
  induction calls using List.reverseRecOn with
  | nil => exact List.forall_mem_nil _
  | append_singleton calls last ih =>
      rw [Objects.registryAfter_concat]
      exact ih.compile (fun _ => isAddressable_of_made) last.model

end Compiler

end FlatMessage
