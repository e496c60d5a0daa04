import FlatMessage.Proofs.Written

/-!
# The shape of occurrences

Where the maximum of every delimited child is bounded, each occurrence of a container
has as many slots as its children declare, whatever is read into them.
-/

namespace FlatMessage

namespace Schema

/-- The delimited children of a container all have a maximum. -/
def Container.IsBounded (container : Container) : Prop :=
  ∀ child ∈ container.children, child.occurs.max.isSome = true

/-- The number of slots that children with a maximum declare. -/
def declaredSlots : List Child → Nat
  | [] => 0
  | child :: rest => child.occurs.max.getD 1 + declaredSlots rest

mutual

/-- The containers in a sound container are sound. -/
theorem Container.Sound.of_mem {container : Container} (sound : container.Sound) :
    ∀ inner ∈ container.containers, inner.Sound := by
  match container with
  | ⟨id, kind, name, code, truncatable, documentation, children, segments⟩ =>
      have here := sound
      rw [Container.Sound] at sound
      rw [Container.containers, List.forall_mem_cons, List.forall_mem_append]
      exact ⟨here, sound_of_mem_children sound.2.1, sound_of_mem_segments sound.2.2⟩

theorem sound_of_mem_children {kind : ContainerKind} {children : List Child}
    (sound : ChildrenSound kind children) :
    ∀ inner ∈ containersOf children, inner.Sound := by
  match children with
  | [] => exact nofun
  | ⟨occurs, node⟩ :: rest =>
      rw [ChildrenSound] at sound
      rw [containersOf, List.forall_mem_append]
      exact ⟨Node.Sound.of_mem sound.2.2.1, sound_of_mem_children sound.2.2.2⟩

theorem sound_of_mem_segments {segments : List Child} (sound : SegmentsSound segments) :
    ∀ inner ∈ containersOf segments, inner.Sound := by
  match segments with
  | [] => exact nofun
  | ⟨occurs, node⟩ :: rest =>
      rw [SegmentsSound] at sound
      rw [containersOf, List.forall_mem_append]
      exact ⟨Node.Sound.of_mem sound.2.2.1, sound_of_mem_segments sound.2.2.2⟩

theorem Node.Sound.of_mem {node : Node} (sound : node.Sound) :
    ∀ inner ∈ node.containers, inner.Sound := by
  match node with
  | .value content => exact nofun
  | .container content =>
      rw [Node.Sound] at sound
      rw [Node.containers]
      exact Container.Sound.of_mem sound

end

end Schema

namespace Reading

open Schema (Child ChildrenSound Container ContainerKind Occurs declaredSlots)

/-- The items of a property keep to its maximum. -/
theorem length_le_max {name : String} {occurs : Occurs} (sound : occurs.Sound)
    {value : Option Value} {items : List Value}
    (run : itemsOf name occurs value = .ok items) {max : Nat}
    (bound : occurs.max = some max) : items.length ≤ max := by
  cases repeating : occurs.isRepeating with
  | true => exact length_le_of_itemsOf run repeating bound
  | false =>
      have positive := (sound max bound).1
      rcases value with _ | (scalar | properties | list)
      · cases run
        exact Nat.zero_le max
      · cases run
        exact positive
      · cases run
        exact positive
      · rw [itemsOf, repeating, if_neg Bool.false_ne_true] at run
        cases run

/-- A child with a maximum has as many slots. -/
theorem length_slotsOf {occurs : Occurs} (sound : occurs.Sound) {max : Nat}
    (bound : occurs.max = some max) {items : List Value} (fits : items.length ≤ max) :
    (slotsOf occurs items).length = max := by
  have positive := (sound max bound).1
  have count : slotCount occurs items.length = max := by
    rw [slotCount, bound, Option.getD_some]
    omega
  rw [slotsOf, List.length_append, List.length_map, List.length_replicate, count]
  omega

/-- Children with maxima are read into as many slots as they declare. -/
theorem length_of_readChildren {kind : ContainerKind} {children : List Child}
    (sound : ChildrenSound kind children)
    (bounded : ∀ child ∈ children, child.occurs.max.isSome = true) {scope : Naming.Scope}
    {bean : Bean} {parts : List Part} (read : readChildren scope children bean = .ok parts) :
    parts.length = declaredSlots children := by
  induction children generalizing scope parts with
  | nil =>
      cases read
      rfl
  | cons child rest ih =>
      obtain ⟨occurs, node⟩ := child
      rw [ChildrenSound] at sound
      rw [List.forall_mem_cons] at bounded
      obtain ⟨items, slots, others, itemsRun, slotsRun, othersRun, rfl⟩ :=
        readChildren_cons_eq_ok_iff.mp read
      obtain ⟨max, bound⟩ := Option.isSome_iff_exists.mp bounded.1
      have fits := length_le_max sound.1 itemsRun bound
      rw [List.length_append, length_of_mapM slotsRun, length_slotsOf sound.1 bound fits,
        ih sound.2.2.2 bounded.2 othersRun, declaredSlots, bound, Option.getD_some]

/-- An occurrence of a sound and bounded container has the slots that it declares. -/
theorem length_of_slotsRead {container : Container} (sound : container.Sound)
    (bounded : container.IsBounded) {bean : Bean} {slots : List Part}
    (read : slotsRead container bean = .ok slots) :
    slots.length = declaredSlots container.children := by
  obtain ⟨id, kind, name, code, truncatable, documentation, children, segments⟩ := container
  rw [Container.Sound] at sound
  unfold slotsRead at read
  split at read
  · exact length_of_readChildren sound.2.1 bounded read
  · next undelimited =>
      cases kind with
      | segmentGroup =>
          obtain rfl : children = [] := sound.1
          cases read
          rfl
      | segment => exact absurd rfl undelimited
      | field => exact absurd rfl undelimited
      | component => exact absurd rfl undelimited

end Reading

end FlatMessage
