import FlatMessage.Proofs.SoundTree

/-!
# Containers in a tree

The containers of a tree are the root and the containers of its children.  A container
is never inside itself, so everything inside it can be compiled before it is.

Only some of the containers are compiled: a container of a kind without delimited children is
compiled without those that it has all the same.
-/

namespace FlatMessage.Schema

theorem containersOf_cons (child : Child) (rest : List Child) :
    containersOf (child :: rest) = child.node.containers ++ containersOf rest := by
  obtain ⟨occurs, node⟩ := child
  rw [containersOf]

theorem containersOf_append (first second : List Child) :
    containersOf (first ++ second) = containersOf first ++ containersOf second := by
  induction first with
  | nil => simp [containersOf]
  | cons child rest ih =>
      obtain ⟨occurs, node⟩ := child
      simp [containersOf, ih]

theorem Container.containers_eq (container : Container) :
    container.containers =
      container :: (containersOf container.children ++ containersOf container.segments) := by
  obtain ⟨id, kind, name, code, truncatable, documentation, children, segments⟩ := container
  rw [Container.containers]

@[simp]
theorem Container.self_mem_containers (container : Container) :
    container ∈ container.containers := by
  simp [Container.containers_eq]

theorem mem_containersOf_iff {inner : Container} {children : List Child} :
    inner ∈ containersOf children ↔ ∃ child ∈ children, inner ∈ child.node.containers := by
  induction children with
  | nil => simp [containersOf]
  | cons child rest ih =>
      obtain ⟨occurs, node⟩ := child
      simp [containersOf, ih]

mutual

theorem Container.sizeOf_le_of_mem (container : Container) {inner : Container}
    (member : inner ∈ container.containers) : sizeOf inner ≤ sizeOf container := by
  match container with
  | ⟨id, kind, name, code, truncatable, documentation, children, segments⟩ =>
      rw [Container.containers, List.mem_cons, List.mem_append] at member
      rcases member with rfl | inChildren | inSegments
      · exact Nat.le_refl _
      · have below := sizeOf_le_of_mem_containersOf children inChildren
        simp only [Container.mk.sizeOf_spec]
        omega
      · have below := sizeOf_le_of_mem_containersOf segments inSegments
        simp only [Container.mk.sizeOf_spec]
        omega

theorem sizeOf_le_of_mem_containersOf (children : List Child) {inner : Container}
    (member : inner ∈ containersOf children) : sizeOf inner ≤ sizeOf children := by
  match children with
  | [] => cases member
  | ⟨occurs, node⟩ :: rest =>
      rw [containersOf, List.mem_append] at member
      simp only [List.cons.sizeOf_spec, Child.mk.sizeOf_spec]
      rcases member with inNode | inRest
      · have below := Node.sizeOf_le_of_mem node inNode
        omega
      · have below := sizeOf_le_of_mem_containersOf rest inRest
        omega

theorem Node.sizeOf_le_of_mem (node : Node) {inner : Container}
    (member : inner ∈ node.containers) : sizeOf inner ≤ sizeOf node := by
  match node with
  | .value content => cases member
  | .container content =>
      have below := Container.sizeOf_le_of_mem content member
      simp only [Node.container.sizeOf_spec]
      omega

end

mutual

/-- The containers that are compiled with a container: itself, and what is in its nested
segments and in the delimited children that its kind allows. -/
def Container.typed (container : Container) : List Container :=
  match container with
  | ⟨id, kind, name, code, truncatable, documentation, children, segments⟩ =>
      ⟨id, kind, name, code, truncatable, documentation, children, segments⟩ ::
        ((if kind.childLevel?.isSome then typedOf children else []) ++ typedOf segments)
termination_by structural container

/-- The containers that are compiled with several children. -/
def typedOf (children : List Child) : List Container :=
  match children with
  | [] => []
  | ⟨_, node⟩ :: rest => node.typed ++ typedOf rest
termination_by structural children

/-- The containers that are compiled with a node. -/
def Node.typed (node : Node) : List Container :=
  match node with
  | .value _ => []
  | .container content => content.typed
termination_by structural node

end

theorem Container.typed_eq (container : Container) :
    container.typed =
      container ::
        ((if container.kind.childLevel?.isSome then typedOf container.children else []) ++
          typedOf container.segments) := by
  obtain ⟨id, kind, name, code, truncatable, documentation, children, segments⟩ := container
  rw [Container.typed]

mutual

/-- Only containers of a tree are compiled. -/
theorem Container.typed_subset (container : Container) :
    container.typed ⊆ container.containers := by
  match container with
  | ⟨id, kind, name, code, truncatable, documentation, children, segments⟩ =>
      rw [Container.typed, Container.containers]
      refine List.cons_subset_cons _ fun inner member => List.mem_append.mpr ?_
      rcases List.mem_append.mp member with inChildren | inSegments
      · split at inChildren
        · exact .inl (typedOf_subset children inChildren)
        · cases inChildren
      · exact .inr (typedOf_subset segments inSegments)

theorem typedOf_subset (children : List Child) : typedOf children ⊆ containersOf children := by
  match children with
  | [] => exact List.nil_subset _
  | ⟨occurs, node⟩ :: rest =>
      rw [typedOf, containersOf]
      intro inner member
      rw [List.mem_append] at member ⊢
      exact member.imp (@Node.typed_subset node inner) (@typedOf_subset rest inner)

theorem Node.typed_subset (node : Node) : node.typed ⊆ node.containers := by
  match node with
  | .value content => exact List.nil_subset _
  | .container content => exact Container.typed_subset content

end

/-- No container is inside itself. -/
theorem Container.not_mem_inside (container : Container) :
    container ∉ containersOf container.children ++ containersOf container.segments := by
  intro member
  obtain ⟨id, kind, name, code, truncatable, documentation, children, segments⟩ := container
  rcases List.mem_append.mp member with inChildren | inSegments
  · have below := sizeOf_le_of_mem_containersOf children inChildren
    simp only [Container.mk.sizeOf_spec] at below
    omega
  · have below := sizeOf_le_of_mem_containersOf segments inSegments
    simp only [Container.mk.sizeOf_spec] at below
    omega

end FlatMessage.Schema
