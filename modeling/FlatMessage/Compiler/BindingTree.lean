import FlatMessage.Codec.Type
import FlatMessage.Text.Split

/-!
# Binding trees

The binding tree of a compiled type has a node for the type itself and, under every
bean, a node for each of its properties: delimited children first, nested segments
after, in schema order.

A node is addressed by the child positions that lead to it from the root.  Its path
names the root's schema node and then the property of every node on the way.
-/

namespace FlatMessage.Compiler

open Codec (CompiledType)

/-- What a node of a binding tree says. -/
structure Binding where
  /-- The name of the schema node. -/
  nodeName : String
  /-- The bound property; the root has none. -/
  property : Option String
  /-- The qualified name of a bean's type. -/
  typeName : Option String
  occurs : Schema.Occurs
  deriving DecidableEq, Repr

/-- A binding with the bindings under it. -/
inductive BindingTree
  | node (binding : Binding) (children : List BindingTree)

/-- The child positions that lead to a node from the root. -/
abbrev Address :=
  List Nat

namespace BindingTree

/-- The binding at the root of a tree. -/
def binding : BindingTree → Binding
  | node binding _ => binding

/-- The trees under the root of a tree. -/
def children : BindingTree → List BindingTree
  | node _ children => children

/-- Whether the root of a tree is bound to a bean. -/
def isBean (tree : BindingTree) : Bool :=
  tree.binding.typeName.isSome

/-! ## Building -/

mutual

/-- The bindings of the properties of a layout. -/
def ofLayout (layout : Codec.Layout) : List BindingTree :=
  match layout with
  | ⟨_, body, _, _, _, segments⟩ => ofSteps body ++ ofSteps segments
termination_by structural layout

/-- The bindings of the properties of steps. -/
def ofSteps (steps : List Codec.Step) : List BindingTree :=
  match steps with
  | [] => []
  | ⟨⟨name, nodeName, occurs, binding⟩, _, _⟩ :: rest =>
      ofProperty name nodeName occurs binding :: ofSteps rest
termination_by structural steps

/-- The binding of a property with everything under it. -/
def ofProperty (name nodeName : String) (occurs : Schema.Occurs)
    (binding : Codec.Binding) : BindingTree :=
  match binding with
  | .scalar _ => node ⟨nodeName, some name, none, occurs⟩ []
  | .bean ⟨typeName, space, _, _, layout⟩ =>
      node ⟨nodeName, some name, some (space ++ "." ++ typeName), occurs⟩
        (ofLayout layout)
termination_by structural binding

end

/-- The binding tree of a compiled type. -/
def ofType (type : CompiledType) : BindingTree :=
  node ⟨type.nodeName, none, some type.qualifiedName, .once⟩ (ofLayout type.layout)

/-! ## Addresses and paths -/

/-- The tree at an address. -/
def at? (tree : BindingTree) : Address → Option BindingTree
  | [] => some tree
  | position :: rest =>
      match tree.children[position]? with
      | some child => child.at? rest
      | none => none

mutual

/-- The addresses of all nodes, every node before those under it. -/
def addresses : BindingTree → List Address
  | node _ children => [] :: addressesFrom 0 children

/-- The addresses of all nodes in trees whose first one is the child at
`position`. -/
def addressesFrom (position : Nat) : List BindingTree → List Address
  | [] => []
  | child :: rest =>
      child.addresses.map (position :: ·) ++ addressesFrom (position + 1) rest

end

/-- The number of nodes. -/
def size (tree : BindingTree) : Nat :=
  tree.addresses.length

/-- The name of a node in paths. -/
def label (tree : BindingTree) : String :=
  tree.binding.property.getD tree.binding.nodeName

/-- The labels on the way to an address, that of the root included. -/
def labels (tree : BindingTree) : Address → List String
  | [] => [tree.label]
  | position :: rest =>
      tree.label ::
        match tree.children[position]? with
        | some child => child.labels rest
        | none => []

/-- The path of the node at an address. -/
def path (tree : BindingTree) (address : Address) : String :=
  Text.join "/" (tree.labels address)

/-- Follow property names from the root of a tree. -/
def follow (tree : BindingTree) : List String → Option Address
  | [] => some []
  | name :: rest =>
      let found := tree.children.findIdx? fun child =>
        child.binding.property = some name
      match found with
      | none => none
      | some position =>
          match tree.children[position]? with
          | some child => (child.follow rest).map (position :: ·)
          | none => none

/-- The address of the node with a path. -/
def find? (tree : BindingTree) (path : String) : Option Address :=
  match Text.split (· == '/') path with
  | first :: rest =>
      if first = tree.binding.nodeName then tree.follow rest else none
  | [] => none

end BindingTree

end FlatMessage.Compiler
