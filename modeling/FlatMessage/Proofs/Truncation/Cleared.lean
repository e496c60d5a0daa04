import FlatMessage.Proofs.Compilation

/-!
# Schemas without truncation

The truncatable flag of chosen containers can be cleared throughout a schema.  Names,
identities and options stay, so the cleared schema is stored and compiled as the schema
is.  Its readings are those of the schema, except that the heads of chosen containers
are not truncatable: which slots there are, and what is in them, has nothing to do with
truncation.
-/

namespace FlatMessage

open Schema (Child Container Model Node NodeId)

/-! ## Clearing the flag -/

namespace Schema

mutual

/-- Clear the truncatable flag of chosen containers. -/
def Container.withoutTruncation (chosen : NodeId → Bool) (container : Container) :
    Container :=
  match container with
  | ⟨id, kind, name, code, truncatable, documentation, children, segments⟩ =>
      ⟨id, kind, name, code, truncatable && !chosen id, documentation,
        childrenWithoutTruncation chosen children,
        childrenWithoutTruncation chosen segments⟩
termination_by structural container

/-- Clear the flag in several children. -/
def childrenWithoutTruncation (chosen : NodeId → Bool) (children : List Child) :
    List Child :=
  match children with
  | [] => []
  | ⟨occurs, node⟩ :: rest =>
      ⟨occurs, node.withoutTruncation chosen⟩ :: childrenWithoutTruncation chosen rest
termination_by structural children

/-- Clear the flag in a node. -/
def Node.withoutTruncation (chosen : NodeId → Bool) (node : Node) : Node :=
  match node with
  | .value content => .value content
  | .container content => .container (content.withoutTruncation chosen)
termination_by structural node

end

/-- Clear the flag in a model. -/
def Model.withoutTruncation (chosen : NodeId → Bool) (model : Model) : Model :=
  { model with root := model.root.withoutTruncation chosen }

section

variable (chosen : NodeId → Bool)

@[simp]
theorem Container.id_withoutTruncation (container : Container) :
    (container.withoutTruncation chosen).id = container.id := by
  cases container
  rfl

@[simp]
theorem Node.name_withoutTruncation (node : Node) :
    (node.withoutTruncation chosen).name = node.name := by
  cases node with
  | value content => rfl
  | container content => cases content; rfl

@[simp]
theorem isEmpty_childrenWithoutTruncation (children : List Child) :
    (childrenWithoutTruncation chosen children).isEmpty = children.isEmpty := by
  cases children with
  | nil => rfl
  | cons child rest =>
      cases child
      rfl

mutual

/-- The containers of a cleared tree are the cleared containers of the tree. -/
theorem Container.containers_withoutTruncation (container : Container) :
    (container.withoutTruncation chosen).containers =
      container.containers.map (Container.withoutTruncation chosen) := by
  match container with
  | ⟨id, kind, name, code, truncatable, documentation, children, segments⟩ =>
      simp only [Container.withoutTruncation, Container.containers, List.map_cons,
        List.map_append, containersOf_withoutTruncation children,
        containersOf_withoutTruncation segments]

theorem containersOf_withoutTruncation (children : List Child) :
    containersOf (childrenWithoutTruncation chosen children) =
      (containersOf children).map (Container.withoutTruncation chosen) := by
  match children with
  | [] => rfl
  | ⟨occurs, node⟩ :: rest =>
      simp only [childrenWithoutTruncation, containersOf, List.map_append,
        Node.containers_withoutTruncation node, containersOf_withoutTruncation rest]

theorem Node.containers_withoutTruncation (node : Node) :
    (node.withoutTruncation chosen).containers =
      node.containers.map (Container.withoutTruncation chosen) := by
  match node with
  | .value content => rfl
  | .container content =>
      rw [Node.withoutTruncation, Node.containers, Node.containers,
        Container.containers_withoutTruncation content]

end

/-- A cleared tree is stored where all containers are cleared. -/
theorem Node.StoredIn.withoutTruncation {store : NodeId → Option Container} {node : Node}
    (stored : node.StoredIn store) :
    (node.withoutTruncation chosen).StoredIn fun id =>
      (store id).map (Container.withoutTruncation chosen) := by
  intro container member
  rw [Node.containers_withoutTruncation, List.mem_map] at member
  obtain ⟨origin, inTree, rfl⟩ := member
  dsimp only
  rw [Container.id_withoutTruncation, stored origin inTree, Option.map_some]

end

end Schema

/-! ## Compiling and reading cleared schemas -/

namespace Compiler

variable (chosen : NodeId → Bool)

mutual

/-- Clearing a schema does not change whether it is legal. -/
theorem legal_withoutTruncation (container : Container) :
    Legal (container.withoutTruncation chosen) ↔ Legal container := by
  match container with
  | ⟨id, kind, name, code, truncatable, documentation, children, segments⟩ =>
      rw [Container.withoutTruncation, Legal, Legal,
        legalChildren_withoutTruncation children, legalChildren_withoutTruncation segments]

theorem legalChildren_withoutTruncation (children : List Child) :
    LegalChildren (Schema.childrenWithoutTruncation chosen children) ↔
      LegalChildren children := by
  match children with
  | [] => rfl
  | ⟨occurs, node⟩ :: rest =>
      rw [Schema.childrenWithoutTruncation, LegalChildren, LegalChildren,
        Node.name_withoutTruncation, legalNode_withoutTruncation node,
        legalChildren_withoutTruncation rest]

theorem legalNode_withoutTruncation (node : Node) :
    LegalNode (node.withoutTruncation chosen) ↔ LegalNode node := by
  match node with
  | .value content => rfl
  | .container content =>
      rw [Node.withoutTruncation, LegalNode, LegalNode, legal_withoutTruncation content]

end

end Compiler

namespace Reading

open Codec (WriteError)

variable (chosen : NodeId → Bool)

/-- A head that is not truncatable if it is chosen. -/
def Head.withoutTruncation (head : Head) : Head :=
  { head with truncatable := head.truncatable && !chosen head.id }

mutual

/-- Clear the flag of chosen containers in a reading. -/
def Part.withoutTruncation : Part → Part
  | .empty => .empty
  | .value rendered => .value rendered
  | .container head slots nested =>
      .container (head.withoutTruncation chosen) (partsWithoutTruncation slots)
        (partsWithoutTruncation nested)

/-- Clear the flag in several parts. -/
def partsWithoutTruncation : List Part → List Part
  | [] => []
  | part :: rest => part.withoutTruncation :: partsWithoutTruncation rest

end

theorem partsWithoutTruncation_eq_map (parts : List Part) :
    partsWithoutTruncation chosen parts = parts.map (Part.withoutTruncation chosen) := by
  induction parts with
  | nil => rfl
  | cons part rest ih => rw [partsWithoutTruncation, ih, List.map_cons]

/-- Reading slots goes through what is done to each part. -/
theorem mapM_map {α : Type} {read cleared : α → Except WriteError Part}
    (same : ∀ x, cleared x = (read x).map (Part.withoutTruncation chosen)) (xs : List α) :
    xs.mapM cleared = (xs.mapM read).map (partsWithoutTruncation chosen) := by
  induction xs with
  | nil => rfl
  | cons x rest ih =>
      rw [List.mapM_cons, List.mapM_cons, same, ih]
      cases read x with
      | error error => rfl
      | ok part => cases rest.mapM read <;> rfl

theorem partsWithoutTruncation_append (first second : List Part) :
    partsWithoutTruncation chosen (first ++ second) =
      partsWithoutTruncation chosen first ++ partsWithoutTruncation chosen second := by
  simp only [partsWithoutTruncation_eq_map, List.map_append]

section

variable {read cleared : Value → Except WriteError Part}
  (same : ∀ value, cleared value = (read value).map (Part.withoutTruncation chosen))

include same

theorem readSlot_withoutTruncation (slot : Option Value) :
    readSlot cleared slot = (readSlot read slot).map (Part.withoutTruncation chosen) := by
  cases slot with
  | none => rfl
  | some value => exact same value

theorem readProperty_withoutTruncation (name : String) (occurs : Schema.Occurs)
    (bean : Bean) :
    readProperty cleared name occurs bean =
      (readProperty read name occurs bean).map (partsWithoutTruncation chosen) := by
  rw [readProperty, readProperty]
  cases itemsOf name occurs (bean.get? name) with
  | error error => rfl
  | ok items =>
      exact mapM_map chosen (readSlot_withoutTruncation chosen same) (slotsOf occurs items)

theorem readItems_withoutTruncation (name : String) (occurs : Schema.Occurs) (bean : Bean) :
    readItems cleared name occurs bean =
      (readItems read name occurs bean).map (partsWithoutTruncation chosen) := by
  rw [readItems, readItems]
  cases itemsOf name occurs (bean.get? name) with
  | error error => rfl
  | ok items => exact mapM_map chosen same items

end

theorem scopeAfter_withoutTruncation (scope : Naming.Scope) (children : List Child) :
    scopeAfter scope (Schema.childrenWithoutTruncation chosen children) =
      scopeAfter scope children := by
  induction children generalizing scope with
  | nil => rfl
  | cons child rest ih =>
      obtain ⟨occurs, node⟩ := child
      rw [Schema.childrenWithoutTruncation, scopeAfter, scopeAfter, ih,
        Node.name_withoutTruncation]

theorem headOf_withoutTruncation (container : Container) :
    headOf (container.withoutTruncation chosen) =
      (headOf container).withoutTruncation chosen := by
  obtain ⟨id, kind, name, code, truncatable, documentation, children, segments⟩ := container
  simp [headOf, Head.withoutTruncation, Container.withoutTruncation, Container.hasFields]

mutual

/-- A cleared container is read as the container is, with the flags cleared. -/
theorem readContainer_withoutTruncation (container : Container) (bean : Bean) :
    readContainer (container.withoutTruncation chosen) bean =
      (readContainer container bean).map (Part.withoutTruncation chosen) := by
  match container with
  | ⟨id, kind, name, code, truncatable, documentation, children, segments⟩ =>
      have head := headOf_withoutTruncation chosen
        ⟨id, kind, name, code, truncatable, documentation, children, segments⟩
      have slots := readChildren_withoutTruncation [] children bean
      have nested := fun scope => readSegments_withoutTruncation scope segments bean
      rw [readContainer_eq, readContainer_eq, head]
      simp only [Container.withoutTruncation, slotsRead, slotScope, slots, nested,
        scopeAfter_withoutTruncation]
      cases kind.childLevel?.isSome with
      | true =>
          cases readChildren [] children bean with
          | error error => rfl
          | ok parts =>
              simp only [if_true, Except.map, bind, Except.bind]
              cases readSegments (scopeAfter [] children) segments bean <;> rfl
      | false =>
          simp only [Bool.false_eq_true, if_false, bind, Except.bind]
          cases readSegments [] segments bean <;> rfl

theorem readChildren_withoutTruncation (scope : Naming.Scope) (children : List Child)
    (bean : Bean) :
    readChildren scope (Schema.childrenWithoutTruncation chosen children) bean =
      (readChildren scope children bean).map (partsWithoutTruncation chosen) := by
  match children with
  | [] => rfl
  | ⟨occurs, node⟩ :: rest =>
      rw [Schema.childrenWithoutTruncation, readChildren_cons,
        readChildren_cons, Node.name_withoutTruncation,
        readProperty_withoutTruncation chosen
          (readNode_withoutTruncation node (claimed scope node.name).1),
        readChildren_withoutTruncation (claimed scope node.name).2 rest bean]
      cases readProperty (readNode node (claimed scope node.name).1)
          (claimed scope node.name).1 occurs bean with
      | error error => rfl
      | ok parts =>
          cases readChildren (claimed scope node.name).2 rest bean with
          | error error => rfl
          | ok others =>
              exact congrArg Except.ok (partsWithoutTruncation_append chosen parts others).symm

theorem readSegments_withoutTruncation (scope : Naming.Scope) (segments : List Child)
    (bean : Bean) :
    readSegments scope (Schema.childrenWithoutTruncation chosen segments) bean =
      (readSegments scope segments bean).map (partsWithoutTruncation chosen) := by
  match segments with
  | [] => rfl
  | ⟨occurs, node⟩ :: rest =>
      rw [Schema.childrenWithoutTruncation, readSegments_cons,
        readSegments_cons, Node.name_withoutTruncation,
        readItems_withoutTruncation chosen
          (readNode_withoutTruncation node (claimed scope node.name).1),
        readSegments_withoutTruncation (claimed scope node.name).2 rest bean]
      cases readItems (readNode node (claimed scope node.name).1)
          (claimed scope node.name).1 occurs bean with
      | error error => rfl
      | ok parts =>
          cases readSegments (claimed scope node.name).2 rest bean with
          | error error => rfl
          | ok others =>
              exact congrArg Except.ok (partsWithoutTruncation_append chosen parts others).symm

theorem readNode_withoutTruncation (node : Node) (name : String) (value : Value) :
    readNode (node.withoutTruncation chosen) name value =
      (readNode node name value).map (Part.withoutTruncation chosen) := by
  match node with
  | .value content =>
      rw [Node.withoutTruncation, readNode]
      cases read : readScalar content name value with
      | error error => rfl
      | ok part =>
          obtain ⟨rendered, rfl⟩ := exists_of_readScalar read
          rfl
  | .container content =>
      cases value with
      | bean properties => exact readContainer_withoutTruncation content properties
      | scalar scalar => rfl
      | list items => rfl

end

end Reading

end FlatMessage
