import FlatMessage.Proofs.Bindings.Trees
import FlatMessage.Proofs.Lists
import Mathlib.Algebra.GroupWithZero.Nat

/-!
# Binding trees in an arena

The nodes of a binding tree can be kept in one list and refer to each other by position: to
the node above, and to those below in order.  Such an arena is filled in the order of a walk
through the compiled types.  Adding a node appends it and links it under a node that is
there, so the links of a node are not complete before everything under it is added.

What is added under a node is a stretch of the arena of its own, in which the positions of
all links can be computed in advance.
-/

namespace FlatMessage.Compiler

open Codec (CompiledType Layout Step)

/-- A node of an arena. -/
structure ArenaNode where
  binding : Binding
  /-- The position of the node above; the root has none. -/
  parent : Option Nat
  /-- The positions of the nodes below, in order. -/
  children : List Nat

/-- The nodes of a binding tree. -/
abbrev Arena :=
  List ArenaNode

/-- Link nodes under a node. -/
def ArenaNode.link (positions : List Nat) (node : ArenaNode) : ArenaNode :=
  { node with children := node.children ++ positions }

theorem ArenaNode.link_nil : ArenaNode.link [] = id := by
  funext node
  simp [link]

theorem ArenaNode.link_comp (positions others : List Nat) :
    ArenaNode.link others ∘ ArenaNode.link positions = ArenaNode.link (positions ++ others) := by
  funext node
  simp [link]

namespace Arena

/-! ## Building -/

/-- Add a node under the one at `parent`. -/
def add (arena : Arena) (parent : Nat) (binding : Binding) : Arena :=
  (arena ++ [({ binding, parent := some parent, children := [] } : ArenaNode)]).modify parent
    (.link [arena.length])

mutual

/-- Add the bindings of the properties of a layout. -/
def bindLayout (parent : Nat) (layout : Layout) (arena : Arena) : Arena :=
  match layout with
  | ⟨_, body, _, _, _, segments⟩ => bindSteps parent segments (bindSteps parent body arena)
termination_by structural layout

/-- Add the bindings of the properties of steps. -/
def bindSteps (parent : Nat) (steps : List Step) (arena : Arena) : Arena :=
  match steps with
  | [] => arena
  | ⟨⟨name, nodeName, occurs, binding⟩, _, _⟩ :: rest =>
      bindSteps parent rest (bindProperty parent name nodeName occurs binding arena)
termination_by structural steps

/-- Add the binding of a property and everything under it. -/
def bindProperty (parent : Nat) (name nodeName : String) (occurs : Schema.Occurs)
    (binding : Codec.Binding) (arena : Arena) : Arena :=
  match binding with
  | .scalar _ => arena.add parent ⟨nodeName, some name, none, occurs⟩
  | .bean ⟨typeName, space, _, _, layout⟩ =>
      bindLayout arena.length layout
        (arena.add parent ⟨nodeName, some name, some (space ++ "." ++ typeName), occurs⟩)
termination_by structural binding

end

/-- The arena of a compiled type. -/
def build (root : CompiledType) : Arena :=
  bindLayout 0 root.layout [⟨⟨root.nodeName, none, some root.qualifiedName, .once⟩, none, []⟩]

mutual

/-- Add a tree. -/
def bindTree (parent : Nat) (tree : BindingTree) (arena : Arena) : Arena :=
  match tree with
  | .node binding children => bindTrees arena.length children (arena.add parent binding)

/-- Add trees one after the other. -/
def bindTrees (parent : Nat) (trees : List BindingTree) (arena : Arena) : Arena :=
  match trees with
  | [] => arena
  | tree :: rest => bindTrees parent rest (bindTree parent tree arena)

end

theorem bindTrees_append (parent : Nat) (trees others : List BindingTree) (arena : Arena) :
    bindTrees parent (trees ++ others) arena =
      bindTrees parent others (bindTrees parent trees arena) := by
  induction trees generalizing arena with
  | nil => rw [List.nil_append, bindTrees]
  | cons tree rest ih => rw [List.cons_append, bindTrees, bindTrees, ih]

mutual

/-- What is added for a layout is what its binding trees add. -/
theorem bindLayout_eq (parent : Nat) (layout : Layout) (arena : Arena) :
    bindLayout parent layout arena = bindTrees parent (BindingTree.ofLayout layout) arena := by
  match layout with
  | ⟨code, body, truncateAt, terminator, flush, segments⟩ =>
      rw [bindLayout, BindingTree.ofLayout, bindTrees_append, bindSteps_eq, bindSteps_eq]

theorem bindSteps_eq (parent : Nat) (steps : List Step) (arena : Arena) :
    bindSteps parent steps arena = bindTrees parent (BindingTree.ofSteps steps) arena := by
  match steps with
  | [] => rw [bindSteps, BindingTree.ofSteps, bindTrees]
  | ⟨⟨name, nodeName, occurs, binding⟩, leading, level⟩ :: rest =>
      rw [bindSteps, BindingTree.ofSteps, bindTrees, bindProperty_eq, bindSteps_eq]

theorem bindProperty_eq (parent : Nat) (name nodeName : String) (occurs : Schema.Occurs)
    (binding : Codec.Binding) (arena : Arena) :
    bindProperty parent name nodeName occurs binding arena =
      bindTree parent (.ofProperty name nodeName occurs binding) arena := by
  match binding with
  | .scalar scalar => rw [bindProperty, BindingTree.ofProperty, bindTree, bindTrees]
  | .bean ⟨typeName, space, inner, kind, layout⟩ =>
      rw [bindProperty, BindingTree.ofProperty, bindTree, bindLayout_eq]

end

/-- The arena of a type is filled by the trees of its properties. -/
theorem build_eq (root : CompiledType) :
    build root =
      bindTrees 0 (BindingTree.ofType root).children
        [⟨(BindingTree.ofType root).binding, none, []⟩] :=
  bindLayout_eq 0 root.layout _

/-! ## What is added -/

/-- The positions of the roots of trees that are added from a position on. -/
def starts (start : Nat) : List BindingTree → List Nat
  | [] => []
  | tree :: rest => start :: starts (start + tree.size) rest

mutual

/-- The nodes of a tree that is added from a position on. -/
def nodes (start : Nat) (parent : Option Nat) : BindingTree → Arena
  | .node binding children =>
      ⟨binding, parent, starts (start + 1) children⟩ :: nodesOf (start + 1) start children

/-- The nodes of trees that are added one after the other under a node. -/
def nodesOf (start parent : Nat) : List BindingTree → Arena
  | [] => []
  | tree :: rest => nodes start (some parent) tree ++ nodesOf (start + tree.size) parent rest

end

end Arena

theorem BindingTree.length_addressesFrom (position : Nat) (trees : List BindingTree) :
    (addressesFrom position trees).length = (trees.map size).sum := by
  induction trees generalizing position with
  | nil => rfl
  | cons tree rest ih => simp [addressesFrom, ih, size]

theorem BindingTree.size_node (binding : Binding) (children : List BindingTree) :
    size (.node binding children) = (children.map size).sum + 1 := by
  rw [size, addresses, List.length_cons, length_addressesFrom]

namespace Arena

mutual

/-- A tree has a stretch as long as it has nodes. -/
theorem length_nodes (start : Nat) (parent : Option Nat) (tree : BindingTree) :
    (nodes start parent tree).length = tree.size := by
  match tree with
  | .node binding children =>
      rw [nodes, List.length_cons, length_nodesOf, BindingTree.size_node]

theorem length_nodesOf (start parent : Nat) (trees : List BindingTree) :
    (nodesOf start parent trees).length = (trees.map BindingTree.size).sum := by
  match trees with
  | [] => rfl
  | tree :: rest =>
      rw [nodesOf, List.length_append, length_nodes, length_nodesOf, List.map_cons,
        List.sum_cons]

end

mutual

/-- A tree is linked under a node and has the next stretch of the arena. -/
theorem bindTree_eq {arena : Arena} {parent : Nat} (within : parent < arena.length)
    (tree : BindingTree) :
    bindTree parent tree arena =
      arena.modify parent (.link [arena.length]) ++ nodes arena.length (some parent) tree := by
  match tree with
  | .node binding children =>
      have added : arena.add parent binding =
          arena.modify parent (.link [arena.length]) ++ [⟨binding, some parent, []⟩] :=
        modify_append_of_lt within
      have length : (arena.add parent binding).length = arena.length + 1 := by
        simp [add]
      have linked : ∀ positions, (arena.add parent binding).modify arena.length
          (.link positions) =
          arena.modify parent (.link [arena.length]) ++ [⟨binding, some parent, positions⟩] := by
        intro positions
        have last := modify_concat_length (f := ArenaNode.link positions)
          (arena.modify parent (.link [arena.length])) ⟨binding, some parent, []⟩
        rwa [List.length_modify, ← added] at last
      rw [bindTree, bindTrees_eq (by omega) children, length, linked, nodes, List.append_assoc]
      rfl

theorem bindTrees_eq {arena : Arena} {parent : Nat} (within : parent < arena.length)
    (trees : List BindingTree) :
    bindTrees parent trees arena =
      arena.modify parent (.link (starts arena.length trees)) ++
        nodesOf arena.length parent trees := by
  match trees with
  | [] => rw [bindTrees, starts, ArenaNode.link_nil, List.modify_id, nodesOf, List.append_nil]
  | tree :: rest =>
      have length : (bindTree parent tree arena).length = arena.length + tree.size := by
        rw [bindTree_eq within, List.length_append, List.length_modify, length_nodes]
      have still : parent < (arena.modify parent (.link [arena.length])).length := by
        rwa [List.length_modify]
      rw [bindTrees, bindTrees_eq (by omega) rest, length, bindTree_eq within,
        modify_append_of_lt still, List.modify_modify_eq, ArenaNode.link_comp, nodesOf, starts,
        List.append_assoc]
      rfl

end

theorem length_bindTree {arena : Arena} {parent : Nat} (within : parent < arena.length)
    (tree : BindingTree) :
    (bindTree parent tree arena).length = arena.length + tree.size := by
  rw [bindTree_eq within, List.length_append, List.length_modify, length_nodes]

/-- The arena of a type is the stretch of its binding tree. -/
theorem build_eq_nodes (root : CompiledType) :
    build root = nodes 0 none (.ofType root) := by
  rw [build_eq, bindTrees_eq Nat.zero_lt_one, BindingTree.ofType, nodes]
  rfl

/-! ## What an arena holds -/

/-- The node at a position holds the root of a tree, and the nodes that are linked under it
hold the trees under the root, in order. -/
inductive Holds (arena : Arena) : Nat → BindingTree → Prop
  | node {position : Nat} {binding : Binding} {parent : Option Nat} {below : List Nat}
      {children : List BindingTree} (found : arena[position]? = some ⟨binding, parent, below⟩)
      (held : List.Forall₂ (Holds arena) below children) :
      Holds arena position (.node binding children)

mutual

/-- A stretch holds its tree. -/
theorem holds_nodes (before after : Arena) (parent : Option Nat) (tree : BindingTree) :
    Holds (before ++ nodes before.length parent tree ++ after) before.length tree := by
  match tree with
  | .node binding children =>
      have held := holds_nodesOf
        (before ++ [⟨binding, parent, starts (before.length + 1) children⟩]) after before.length
        children
      rw [List.length_append, List.length_singleton] at held
      have found : (before ++ nodes before.length parent (.node binding children) ++ after)[
          before.length]? = some ⟨binding, parent, starts (before.length + 1) children⟩ := by
        simp [nodes]
      exact .node found (by simpa [nodes] using held)

theorem holds_nodesOf (before after : Arena) (parent : Nat) (trees : List BindingTree) :
    List.Forall₂ (Holds (before ++ nodesOf before.length parent trees ++ after))
      (starts before.length trees) trees := by
  match trees with
  | [] => exact .nil
  | tree :: rest =>
      have first := holds_nodes before
        (nodesOf (before.length + tree.size) parent rest ++ after) (some parent) tree
      have others := holds_nodesOf (before ++ nodes before.length (some parent) tree) after parent
        rest
      rw [List.length_append, length_nodes] at others
      rw [nodesOf, starts]
      refine .cons ?_ ?_
      · simpa using first
      · simpa using others

end

theorem holds_build (root : CompiledType) : (build root).Holds 0 (.ofType root) := by
  have held := holds_nodes [] [] none (.ofType root)
  rw [List.append_nil] at held
  rwa [build_eq_nodes]

/-! ## Links -/

/-- The links of an arena: only the first node has none above it, every other node is linked
once under an earlier node that is the one above it, and nothing else is linked. -/
structure Wired (arena : Arena) : Prop where
  root : ∃ node : ArenaNode, arena[0]? = some node ∧ node.parent = none
  above : ∀ (position : Nat) (node : ArenaNode), arena[position]? = some node → 0 < position →
    ∃ (parent : Nat) (owner : ArenaNode), node.parent = some parent ∧ parent < position ∧
      arena[parent]? = some owner ∧ owner.children.count position = 1
  below : ∀ (position : Nat) (node : ArenaNode), arena[position]? = some node →
    ∀ child ∈ node.children, ∃ inner : ArenaNode,
      arena[child]? = some inner ∧ inner.parent = some position

/-- What the first node has, and nodes pass on to those that are linked under them, every
node has. -/
@[elab_as_elim]
theorem Wired.induction {arena : Arena} (wired : arena.Wired) {motive : Nat → Prop}
    (root : motive 0)
    (below : ∀ (parent : Nat) (owner : ArenaNode), arena[parent]? = some owner →
      motive parent → ∀ child ∈ owner.children, motive child)
    (position : Nat) (within : position < arena.length) : motive position := by
  induction position using Nat.strongRecOn with
  | ind position ih =>
      rcases Nat.eq_zero_or_pos position with rfl | later
      · exact root
      · obtain ⟨parent, owner, -, before, owned, once⟩ :=
          wired.above position _ (List.getElem?_eq_getElem within) later
        have member : position ∈ owner.children :=
          List.count_pos_iff.mp (once ▸ Nat.one_pos)
        have above := ih parent before (Nat.lt_trans before within)
        exact below parent owner owned above position member

/-- A lone node is wired. -/
theorem wired_singleton (binding : Binding) : Wired [⟨binding, none, []⟩] where
  root := ⟨_, rfl, rfl⟩
  above := by
    intro position node found later
    rw [List.getElem?_eq_none (by simpa using Nat.succ_le_of_lt later)] at found
    cases found
  below := by
    intro position node found child member
    cases List.mem_singleton.mp (List.mem_of_getElem? found)
    cases member

/-- A node is added behind the others, and the one above it is linked to it. -/
theorem getElem?_add {arena : Arena} {parent : Nat} (within : parent < arena.length)
    (binding : Binding) (position : Nat) :
    (arena.add parent binding)[position]? =
      if position = arena.length then some ⟨binding, some parent, []⟩
      else if position = parent then (arena[position]?).map (.link [arena.length])
      else arena[position]? := by
  rw [add, modify_append_of_lt within, List.getElem?_append, List.length_modify]
  rcases Nat.lt_trichotomy position arena.length with below | rfl | above
  · rw [if_pos below, if_neg (Nat.ne_of_lt below), List.getElem?_modify]
    by_cases same : position = parent
    · simp [same]
    · simp [same, Ne.symm same]
  · simp
  · rw [if_neg (by omega), if_neg (by omega), if_neg (by omega)]
    rw [List.getElem?_eq_none (by simpa using by omega), List.getElem?_eq_none (by omega)]

/-- The links that a node gets when another one is added under `parent`. -/
def newLinks (arena : Arena) (parent position : Nat) : List Nat :=
  if position = parent then [arena.length] else []

/-- A node that was there only gets new links. -/
theorem getElem?_add_of_some {arena : Arena} {parent : Nat} (within : parent < arena.length)
    (binding : Binding) {position : Nat} {node : ArenaNode}
    (found : arena[position]? = some node) :
    (arena.add parent binding)[position]? =
      some (node.link (arena.newLinks parent position)) := by
  have below : position < arena.length := (List.getElem?_eq_some_iff.mp found).1
  rw [getElem?_add within, if_neg (Nat.ne_of_lt below), found, newLinks]
  split
  · rfl
  · rw [ArenaNode.link_nil, id]

/-- A node is new, or it was there. -/
theorem getElem?_add_cases {arena : Arena} {parent : Nat} (within : parent < arena.length)
    {binding : Binding} {position : Nat} {node : ArenaNode}
    (found : (arena.add parent binding)[position]? = some node) :
    (position = arena.length ∧ node = ⟨binding, some parent, []⟩) ∨
      ∃ old, arena[position]? = some old ∧ node = old.link (arena.newLinks parent position) := by
  have same := found
  rw [getElem?_add within] at found
  split at found
  · next last =>
      cases found
      exact .inl ⟨last, rfl⟩
  · have there : ∃ old, arena[position]? = some old := by
      split at found
      · obtain ⟨old, there, -⟩ := Option.map_eq_some_iff.mp found
        exact ⟨old, there⟩
      · exact ⟨node, found⟩
    obtain ⟨old, there⟩ := there
    rw [getElem?_add_of_some within binding there, Option.some.injEq] at same
    exact .inr ⟨old, there, same.symm⟩

/-- A wired arena has no links to nodes that are not there. -/
theorem Wired.length_not_mem {arena : Arena} (wired : arena.Wired) {position : Nat}
    {node : ArenaNode} (found : arena[position]? = some node) :
    arena.length ∉ node.children := by
  intro member
  obtain ⟨inner, there, -⟩ := wired.below position node found _ member
  rw [List.getElem?_eq_none (Nat.le_refl _)] at there
  cases there

/-- Adding a node under another one keeps an arena wired. -/
theorem Wired.add {arena : Arena} (wired : arena.Wired) {parent : Nat}
    (within : parent < arena.length) (binding : Binding) : (arena.add parent binding).Wired where
  root := by
    obtain ⟨node, found, alone⟩ := wired.root
    exact ⟨_, getElem?_add_of_some within binding found, alone⟩
  above := by
    intro position node found later
    rcases getElem?_add_cases within found with ⟨rfl, rfl⟩ | ⟨old, there, rfl⟩
    · have owned : arena[parent]? = some arena[parent] := List.getElem?_eq_getElem within
      refine ⟨parent, _, rfl, within, getElem?_add_of_some within binding owned, ?_⟩
      have unlinked := List.count_eq_zero_of_not_mem (wired.length_not_mem owned)
      simp [ArenaNode.link, newLinks, List.count_append, unlinked]
    · obtain ⟨above, owner, linked, before, owned, once⟩ :=
        wired.above position old there later
      refine ⟨above, _, linked, before, getElem?_add_of_some within binding owned, ?_⟩
      have differs : position ≠ arena.length :=
        Nat.ne_of_lt (List.getElem?_eq_some_iff.mp there).1
      have unlinked : (arena.newLinks parent above).count position = 0 := by
        rw [newLinks]
        split <;> simp [differs.symm]
      simp [ArenaNode.link, List.count_append, once, unlinked]
  below := by
    intro position node found child member
    rcases getElem?_add_cases within found with ⟨rfl, rfl⟩ | ⟨old, there, rfl⟩
    · cases member
    · rcases List.mem_append.mp member with before | new
      · obtain ⟨inner, reached, linked⟩ := wired.below position old there child before
        exact ⟨_, getElem?_add_of_some within binding reached, linked⟩
      · rw [newLinks] at new
        split at new
        · next same =>
            rw [List.mem_singleton.mp new, same]
            exact ⟨_, by rw [getElem?_add within, if_pos rfl], rfl⟩
        · cases new

mutual

/-- Adding a tree keeps an arena wired. -/
theorem Wired.bindTree {arena : Arena} (wired : arena.Wired) {parent : Nat}
    (within : parent < arena.length) (tree : BindingTree) :
    (Arena.bindTree parent tree arena).Wired := by
  match tree with
  | .node binding children =>
      rw [Arena.bindTree]
      exact (wired.add within binding).bindTrees (by simp [Arena.add]) children

theorem Wired.bindTrees {arena : Arena} (wired : arena.Wired) {parent : Nat}
    (within : parent < arena.length) (trees : List BindingTree) :
    (Arena.bindTrees parent trees arena).Wired := by
  match trees with
  | [] => rwa [Arena.bindTrees]
  | tree :: rest =>
      rw [Arena.bindTrees]
      refine (wired.bindTree within tree).bindTrees ?_ rest
      rw [length_bindTree within]
      omega

end

/-- The arena of a type is wired. -/
theorem wired_build (root : CompiledType) : (build root).Wired := by
  rw [build_eq]
  exact (wired_singleton _).bindTrees Nat.zero_lt_one _

end Arena

end FlatMessage.Compiler
