import FlatMessage.Proofs.Bindings.Arena
import FlatMessage.Proofs.Bindings.Paths

/-!
# Paths in an arena

The path of a node in an arena is collected on the way up to the root, and a node is found
on the way down, by the first link to a node with the next name.  The links of an arena that
is built for a compiled type lead up and down the same way, and the names of the nodes that
are linked under one node are different, so each of these undoes the other.
-/

namespace FlatMessage.Compiler

open Schema (Model)

namespace Arena

/-- The name of a node in paths. -/
def labelOf (node : ArenaNode) : String :=
  node.binding.property.getD node.binding.nodeName

/-- The loop that collects names from a node up to the root ends with these names. -/
inductive Climbs (arena : Arena) : Option Nat → List String → Prop
  | done : Climbs arena none []
  | step {position : Nat} {node : ArenaNode} {names : List String}
      (found : arena[position]? = some node) (rest : Climbs arena node.parent names) :
      Climbs arena (some position) (labelOf node :: names)

/-- The path of the node at a position. -/
def IsPath (arena : Arena) (position : Nat) (path : String) : Prop :=
  ∃ names, Climbs arena (some position) names ∧ path = Text.join "/" names.reverse

/-- The property at a position. -/
def property? (arena : Arena) (position : Nat) : Option String :=
  arena[position]?.bind fun node => node.binding.property

/-- The first node with a property that is linked under the one at a position. -/
def child? (arena : Arena) (position : Nat) (name : String) : Option Nat :=
  arena[position]?.bind fun node =>
    node.children.find? fun child => arena.property? child = some name

/-- The position of the node with a path. -/
def find? (arena : Arena) (path : String) : Option Nat :=
  match Text.split (· == '/') path with
  | first :: rest =>
      if arena[0]?.map (·.binding.nodeName) = some first then rest.foldlM arena.child? 0
      else none
  | [] => none

/-- The nodes of an arena are told apart by paths: the root by its node name, and the nodes
that are linked under one node by their properties. -/
structure Apart (arena : Arena) : Prop where
  root : ∃ node : ArenaNode, arena[0]? = some node ∧ node.binding.property = none ∧
    '/' ∉ node.binding.nodeName.toList
  named : ∀ (position : Nat) (node : ArenaNode), arena[position]? = some node →
    ∀ child ∈ node.children, ∃ name, arena.property? child = some name ∧ '/' ∉ name.toList
  distinct : ∀ (position : Nat) (node : ArenaNode), arena[position]? = some node →
    (node.children.map arena.property?).Nodup

/-! ## From trees to arenas -/

section

variable {arena : Arena}

theorem Holds.property? {position : Nat} {tree : BindingTree}
    (holds : arena.Holds position tree) : arena.property? position = tree.binding.property := by
  obtain ⟨found, -⟩ := holds
  rw [Arena.property?, found]
  rfl

/-- Every node of a wired arena holds a part of the tree that the first one holds. -/
theorem exists_holds (wired : arena.Wired) {tree : BindingTree} (holds : arena.Holds 0 tree)
    (apart : tree.Addressable) (position : Nat) (within : position < arena.length) :
    ∃ part : BindingTree, arena.Holds position part ∧ part.Addressable := by
  refine wired.induction ⟨tree, holds, apart⟩ ?_ position within
  rintro parent owner owned ⟨part, ⟨found, inner⟩, ⟨-, -, each⟩⟩ child member
  rw [owned, Option.some.injEq] at found
  subst found
  obtain ⟨part, inChildren, held⟩ := exists_of_forall₂ inner.flip member
  exact ⟨part, held, each part inChildren⟩

/-- An arena that holds an addressable tree is told apart as the tree is. -/
theorem apart_of_holds (wired : arena.Wired) {tree : BindingTree} (holds : arena.Holds 0 tree)
    (apart : tree.Addressable) (root : tree.binding.property = none)
    (simple : '/' ∉ tree.binding.nodeName.toList) : arena.Apart := by
  have parts : ∀ (position : Nat) (node : ArenaNode), arena[position]? = some node →
      ∃ children : List BindingTree,
      List.Forall₂ (arena.Holds) node.children children ∧
        (children.map BindingTree.label).Nodup ∧ ∀ child ∈ children,
          ∃ name, child.binding.property = some name ∧ '/' ∉ name.toList := by
    intro position node there
    have within := (List.getElem?_eq_some_iff.mp there).1
    obtain ⟨part, held, apart⟩ := exists_holds wired holds apart position within
    obtain ⟨found, inner⟩ := held
    rw [there, Option.some.injEq] at found
    subst found
    obtain ⟨distinct, named, -⟩ := apart
    exact ⟨_, inner, distinct, named⟩
  refine ⟨?_, ?_, ?_⟩
  · obtain ⟨found, -⟩ := holds
    exact ⟨_, found, root, simple⟩
  · intro position node there child member
    obtain ⟨children, inner, -, named⟩ := parts position node there
    obtain ⟨other, inChildren, held⟩ := exists_of_forall₂ inner.flip member
    obtain ⟨name, property, simple⟩ := named other inChildren
    exact ⟨name, held.property?.trans property, simple⟩
  · intro position node there
    obtain ⟨children, inner, distinct, named⟩ := parts position node there
    have labels : children.map (·.binding.property) =
        (children.map BindingTree.label).map some := by
      rw [List.map_map]
      refine List.map_congr_left fun child member => ?_
      obtain ⟨name, property, -⟩ := named child member
      rw [Function.comp_apply, BindingTree.label_of_property property, property]
    rw [map_eq_of_forall₂ inner fun _ _ held => held.property?, labels]
    exact distinct.map fun _ _ => Option.some.inj

/-! ## Up and down -/

/-- The names on the way up are determined. -/
theorem Climbs.unique {start : Option Nat} {names others : List String}
    (first : arena.Climbs start names) (second : arena.Climbs start others) :
    names = others := by
  induction first generalizing others with
  | done =>
      cases second
      rfl
  | step found _ ih =>
      obtain _ | ⟨again, rest⟩ := second
      rw [found, Option.some.injEq] at again
      subst again
      rw [ih rest]

/-- A linked node is found by its property. -/
theorem child?_eq_some_iff (apart : arena.Apart) {parent position : Nat} {owner : ArenaNode}
    (owned : arena[parent]? = some owner) {name : String} :
    arena.child? parent name = some position ↔
      position ∈ owner.children ∧ arena.property? position = some name := by
  rw [child?, owned]
  exact find?_eq_some_iff_of_nodup (apart.distinct parent owner owned)

theorem labelOf_of_property? {position : Nat} {node : ArenaNode} {name : String}
    (found : arena[position]? = some node) (named : arena.property? position = some name) :
    labelOf node = name := by
  rw [property?, found] at named
  exact congrArg (·.getD node.binding.nodeName) named

/-- The way up from the root passes its node name. -/
theorem climbs_root (wired : arena.Wired) (apart : arena.Apart) {root : ArenaNode}
    (rooted : arena[0]? = some root) : Climbs arena (some 0) [root.binding.nodeName] := by
  obtain ⟨node, found, alone⟩ := wired.root
  obtain ⟨other, again, unbound, -⟩ := apart.root
  rw [rooted, Option.some.injEq] at found again
  subst found again
  have named : labelOf root = root.binding.nodeName := by
    rw [labelOf, unbound, Option.getD_none]
  rw [← named]
  exact .step rooted (alone ▸ .done)

/-- The way up from a linked node passes its property before it goes on. -/
theorem Climbs.child (wired : arena.Wired) {parent position : Nat} {owner : ArenaNode}
    (owned : arena[parent]? = some owner) (member : position ∈ owner.children) {name : String}
    (named : arena.property? position = some name) {names : List String}
    (climbs : Climbs arena (some parent) names) :
    Climbs arena (some position) (name :: names) := by
  obtain ⟨node, found, linked⟩ := wired.below parent owner owned position member
  rw [← labelOf_of_property? found named]
  exact .step found (linked ▸ climbs)

/-- Every node is found on the way down by the names that are passed on the way up. -/
theorem exists_descends (wired : arena.Wired) (apart : arena.Apart) {root : ArenaNode}
    (rooted : arena[0]? = some root) (position : Nat) (within : position < arena.length) :
    ∃ names, Climbs arena (some position) (root.binding.nodeName :: names).reverse ∧
      names.foldlM arena.child? 0 = some position ∧ ∀ name ∈ names, '/' ∉ name.toList := by
  refine wired.induction ⟨[], climbs_root wired apart rooted, rfl, nofun⟩ ?_ position within
  rintro parent owner owned ⟨names, climbs, descends, simple⟩ child member
  obtain ⟨name, named, plain⟩ := apart.named parent owner owned child member
  refine ⟨names ++ [name], ?_, ?_, ?_⟩
  · simpa using climbs.child wired owned member named
  · rw [List.foldlM_append, descends, Option.bind_eq_bind, Option.bind_some,
      List.foldlM_cons, (child?_eq_some_iff apart owned).mpr ⟨member, named⟩]
    rfl
  · rw [List.forall_mem_append, List.forall_mem_singleton]
    exact ⟨simple, plain⟩

/-- The names by which a node is found on the way down are passed on the way up. -/
theorem climbs_of_descends (wired : arena.Wired) (apart : arena.Apart) {root : ArenaNode}
    (rooted : arena[0]? = some root) {names : List String} {position : Nat}
    (descends : names.foldlM arena.child? 0 = some position) :
    Climbs arena (some position) (root.binding.nodeName :: names).reverse := by
  induction names using List.reverseRecOn generalizing position with
  | nil =>
      cases descends
      exact climbs_root wired apart rooted
  | append_singleton names name ih =>
      rw [List.foldlM_append, Option.bind_eq_bind, Option.bind_eq_some_iff] at descends
      obtain ⟨parent, before, last⟩ := descends
      rw [List.foldlM_cons, Option.bind_eq_bind, Option.bind_eq_some_iff] at last
      obtain ⟨other, last, same⟩ := last
      cases same
      obtain ⟨owner, owned, -⟩ := Option.bind_eq_some_iff.mp last
      obtain ⟨member, named⟩ := (child?_eq_some_iff apart owned).mp last
      simpa using (ih before).child wired owned member named

/-! ## Paths -/

/-- Every node has a path, and it is found by its path. -/
theorem exists_isPath (wired : arena.Wired) (apart : arena.Apart) {position : Nat}
    (within : position < arena.length) :
    ∃ path, arena.IsPath position path ∧ arena.find? path = some position := by
  obtain ⟨root, rooted, -, plain⟩ := apart.root
  obtain ⟨names, climbs, descends, simple⟩ := exists_descends wired apart rooted position within
  refine ⟨Text.join "/" (root.binding.nodeName :: names), ⟨_, climbs, ?_⟩, ?_⟩
  · rw [List.reverse_reverse]
  · rw [find?, Text.split_join (List.cons_ne_nil _ _) (List.forall_mem_cons.mpr ⟨plain, simple⟩)]
    dsimp only
    rw [rooted, Option.map_some, if_pos rfl, descends]

/-- A text by which a node is found is its path. -/
theorem isPath_of_find? (wired : arena.Wired) (apart : arena.Apart) {path : String}
    {position : Nat} (found : arena.find? path = some position) :
    arena.IsPath position path := by
  rw [find?] at found
  split at found
  · next first rest pieces =>
      split at found
      · next same =>
          obtain ⟨root, rooted, rfl⟩ := Option.map_eq_some_iff.mp same
          refine ⟨_, climbs_of_descends wired apart rooted found, ?_⟩
          rw [List.reverse_reverse, ← pieces, Text.join_split]
      · cases found
  · cases found

/-- Only nodes have paths. -/
theorem IsPath.within {position : Nat} {path : String} (isPath : arena.IsPath position path) :
    position < arena.length := by
  obtain ⟨names, climbs, -⟩ := isPath
  obtain - | ⟨found, -⟩ := climbs
  exact (List.getElem?_eq_some_iff.mp found).1

/-- A node has one path. -/
theorem IsPath.unique {position : Nat} {path other : String}
    (first : arena.IsPath position path) (second : arena.IsPath position other) :
    path = other := by
  obtain ⟨names, climbs, rfl⟩ := first
  obtain ⟨others, again, rfl⟩ := second
  rw [climbs.unique again]

end

end Arena

/-- In the binding tree of a compiled model every node is found by its path, different nodes
have different paths, and every text by which a node is found is its path.  The same is true
in an arena, where paths are collected on the way up and nodes are found on the way down. -/
theorem paths_invert (calls : List Objects.Call) {target : Target} {model : Model}
    {compiled : CompiledModel}
    (success : (compile target model (Objects.registryAfter calls)).1 = .ok compiled) :
    ((∀ address ∈ compiled.bindings.addresses,
        compiled.bindings.find? (compiled.bindings.path address) = some address) ∧
      (compiled.bindings.addresses.map compiled.bindings.path).Nodup ∧
      ∀ path address, compiled.bindings.find? path = some address →
        address ∈ compiled.bindings.addresses ∧ compiled.bindings.path address = path) ∧
    (∀ position < (Arena.build compiled.root).length,
      ∃ path, (Arena.build compiled.root).IsPath position path ∧
        (Arena.build compiled.root).find? path = some position ∧
        ∀ other, (Arena.build compiled.root).IsPath position other → other = path) ∧
    ∀ path position, (Arena.build compiled.root).find? path = some position →
      position < (Arena.build compiled.root).length ∧
        (Arena.build compiled.root).IsPath position path := by
  have addressable : IsAddressable compiled.root := by
    have enough : ∀ type, MadeType target.space IsAddressable type → IsAddressable type :=
      fun _ => isAddressable_of_made
    obtain ⟨_, -, -, -, rooted⟩ :=
      exists_added_of_compile enough (all_isAddressable calls) model
    exact (rooted compiled success).2
  have found {address : Address} (member : address ∈ compiled.bindings.addresses) :
      compiled.bindings.find? (compiled.bindings.path address) = some address :=
    BindingTree.find?_path rfl addressable.apart addressable.simple member
  have wired := Arena.wired_build compiled.root
  have apart := Arena.apart_of_holds wired (Arena.holds_build _) addressable.apart rfl
    addressable.simple
  refine ⟨⟨fun address => found, ?_, fun path address => BindingTree.path_of_find? rfl⟩,
    fun position within => ?_, fun path position there => ?_⟩
  · refine (BindingTree.nodup_addresses _).map_on fun address first other second same => ?_
    rw [← Option.some.injEq, ← found first, same, found second]
  · obtain ⟨path, isPath, there⟩ := Arena.exists_isPath wired apart within
    exact ⟨path, isPath, there, fun other again => again.unique isPath⟩
  · have isPath := Arena.isPath_of_find? wired apart there
    exact ⟨isPath.within, isPath⟩

/-- The given name of the author of a notice's note, the types of which were made by an
earlier call that failed, is found by its path in the tree and in the arena. -/
theorem paths_invert_notice :
    ∃ compiled,
      (compile ⟨"com.acme", .standalone⟩ Schema.notice
        (Objects.registryAfter (Objects.sharedCalls.take 1))).1 = .ok compiled ∧
      compiled.bindings.path [0, 1, 0] = "notice/note/author/given_name" ∧
      compiled.bindings.find? "notice/note/author/given_name" = some [0, 1, 0] ∧
      (Arena.build compiled.root).find? "notice/note/author/given_name" = some 4 ∧
      (Arena.build compiled.root).IsPath 4 "notice/note/author/given_name" := by
  have success : (compile ⟨"com.acme", .standalone⟩ Schema.notice
    (Objects.registryAfter (Objects.sharedCalls.take 1))).1 = .ok _ := rfl
  obtain ⟨⟨found, -, -⟩, -, inverse⟩ := paths_invert _ success
  have named := found [0, 1, 0] (by decide)
  exact ⟨_, success, rfl, named, rfl, (inverse _ _ rfl).2⟩

end FlatMessage.Compiler
