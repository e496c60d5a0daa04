import FlatMessage.Proofs.Containers
import FlatMessage.Schema.Build
import Mathlib.Data.List.Nodup

/-!
# Identities of containers

The containers of a model are those that its document builds, each at its own position, and
those that the document refers to, which are in the trees that it imports.  So a container
is found by its identity: the document that builds it, and its position there.
-/

namespace FlatMessage.Schema

open Xml (Element)

/-! ## Segments that are referred to -/

mutual

/-- What is found in a container by its code is part of it. -/
theorem containers_of_findSegment? (container : Container) {code : String} {node : Node}
    (found : container.findSegment? code = some node) :
    ∀ inner ∈ node.containers, inner ∈ containersOf container.segments := by
  match container with
  | ⟨id, kind, name, other, truncatable, documentation, children, segments⟩ =>
      rw [Container.findSegment?] at found
      exact containers_of_findSegmentIn? segments found

theorem containers_of_findSegmentIn? (segments : List Child) {code : String} {node : Node}
    (found : findSegmentIn? code segments = some node) :
    ∀ inner ∈ node.containers, inner ∈ containersOf segments := by
  match segments with
  | [] => cases found
  | ⟨occurs, content⟩ :: rest =>
      rw [findSegmentIn?, Option.or_eq_some_iff] at found
      intro inner member
      rw [containersOf, List.mem_append]
      rcases found with first | ⟨-, later⟩
      · exact .inl (containers_of_findChild? ⟨occurs, content⟩ first inner member)
      · exact .inr (containers_of_findSegmentIn? rest later inner member)

theorem containers_of_findChild? (child : Child) {code : String} {node : Node}
    (found : child.findSegment? code = some node) :
    ∀ inner ∈ node.containers, inner ∈ child.node.containers := by
  match child with
  | ⟨occurs, .value content⟩ => cases found
  | ⟨occurs, .container content⟩ =>
      rw [Child.findSegment?] at found
      split at found
      · cases found
        exact fun _ member => member
      · intro inner member
        change inner ∈ content.containers
        rw [Container.containers_eq, List.mem_cons, List.mem_append]
        exact .inr (.inr (containers_of_findSegment? content found inner member))

end

/-- What a reference denotes is part of an imported tree. -/
theorem containers_of_resolveReference {imported : Imported} {reference : String} {node : Node}
    (resolved : resolveReference imported reference = .ok node) :
    ∃ entry ∈ imported, ∀ inner ∈ node.containers, inner ∈ entry.2.containers := by
  unfold resolveReference at resolved
  dsimp only at resolved
  split at resolved
  · next found =>
      cases resolved
      simp only [Option.bind_eq_bind, Option.bind_eq_some_iff] at found
      obtain ⟨⟨space, code⟩, -, root, known, container, isContainer, found⟩ := found
      refine ⟨(space, root), ?_, ?_⟩
      · obtain ⟨before, after, whole, -⟩ := List.lookup_eq_some_iff.mp known
        exact List.mem_reverse.mp (by simp [whole])
      · cases root with
        | value content => cases isContainer
        | container content =>
            cases isContainer
            intro inner member
            change inner ∈ container.containers
            rw [Container.containers_eq, List.mem_cons, List.mem_append]
            exact .inr (.inr (containers_of_findSegment? container found inner member))
  · cases resolved

/-! ## Positions -/

/-- Containers are built by a document, each at its own position among those `within`, or
they are part of what the document imports. -/
structure Placed (document : String) (imported : Imported) (within : List Nat → Prop)
    (containers : List Container) : Prop where
  origin : ∀ inner ∈ containers,
    (inner.id.document = document ∧ within inner.id.position) ∨
      (inner.id.document ≠ document ∧ ∃ entry ∈ imported, inner ∈ entry.2.containers)
  distinct :
    ((containers.filter (·.id.document = document)).map Container.id).Nodup

/-- The position of a container or of something inside it. -/
def From (place position : List Nat) : Prop :=
  place <+: position

/-- A position inside a container, not before one of its children. -/
def Inside (place : List Nat) (first : Nat) (position : List Nat) : Prop :=
  ∃ index, first ≤ index ∧ place ++ [index] <+: position

theorem not_inside_of_from {place position : List Nat} {index : Nat}
    (here : From (place ++ [index]) position) : ¬Inside place (index + 1) position := by
  rintro ⟨other, later, there⟩
  have same := List.prefix_of_prefix_length_le here there (by simp)
  obtain rfl : index = other := by
    simpa using same.eq_of_length (by simp)
  omega

namespace Placed

variable {document : String} {imported : Imported} {within other : List Nat → Prop}
  {containers more : List Container}

theorem nil : Placed document imported within [] where
  origin := nofun
  distinct := List.nodup_nil

theorem mono (placed : Placed document imported within containers)
    (wider : ∀ position, within position → other position) :
    Placed document imported other containers where
  origin := fun inner member => (placed.origin inner member).imp_left
    fun own => ⟨own.1, wider _ own.2⟩
  distinct := placed.distinct

theorem perm (placed : Placed document imported within containers)
    (order : containers.Perm more) : Placed document imported within more where
  origin := fun inner member => placed.origin inner (order.mem_iff.mpr member)
  distinct := ((order.filter _).map _).nodup placed.distinct

/-- Containers at different positions are different. -/
theorem append (placed : Placed document imported within containers)
    (others : Placed document imported other more)
    (apart : ∀ position, within position → ¬other position) :
    Placed document imported (fun position => within position ∨ other position)
      (containers ++ more) where
  origin := by
    rw [List.forall_mem_append]
    exact ⟨(placed.mono fun _ => Or.inl).origin, (others.mono fun _ => Or.inr).origin⟩
  distinct := by
    rw [List.filter_append, List.map_append, List.nodup_append]
    refine ⟨placed.distinct, others.distinct, ?_⟩
    rintro _ first _ second rfl
    obtain ⟨one, member, rfl⟩ := List.mem_map.mp first
    obtain ⟨two, memberToo, same⟩ := List.mem_map.mp second
    rw [List.mem_filter, decide_eq_true_eq] at member memberToo
    obtain ⟨-, here⟩ := (placed.origin one member.1).resolve_right fun far => far.1 member.2
    obtain ⟨-, there⟩ :=
      (others.origin two memberToo.1).resolve_right fun far => far.1 memberToo.2
    rw [same] at there
    exact apart _ here there

/-- A container stands before what is inside it. -/
theorem cons {place : List Nat} {container : Container}
    (same : container.id = ⟨document, place⟩)
    (inside : Placed document imported (Inside place 0) containers) :
    Placed document imported (From place) (container :: containers) := by
  have self : Placed document imported (· = place) [container] := by
    constructor
    · simp [same]
    · simp [same]
  refine (self.append inside ?_).mono ?_
  · rintro _ rfl ⟨index, -, before⟩
    have longer := before.length_le
    rw [List.length_append, List.length_singleton] at longer
    omega
  · rintro position (rfl | ⟨index, -, before⟩)
    · exact List.prefix_rfl
    · exact (List.prefix_append _ _).trans before

/-- A child stands before the children that follow it. -/
theorem child {place : List Nat} {index : Nat}
    (first : Placed document imported (From (place ++ [index])) containers)
    (rest : Placed document imported (Inside place (index + 1)) more) :
    Placed document imported (Inside place index) (containers ++ more) := by
  refine (first.append rest fun _ => not_inside_of_from).mono ?_
  rintro position (here | ⟨other, later, there⟩)
  · exact ⟨index, Nat.le_refl _, here⟩
  · exact ⟨other, by omega, there⟩

/-- Nothing stands where a child is skipped. -/
theorem skip {place : List Nat} {index : Nat}
    (rest : Placed document imported (Inside place (index + 1)) containers) :
    Placed document imported (Inside place index) containers := by
  refine rest.mono ?_
  rintro position ⟨other, later, there⟩
  exact ⟨other, by omega, there⟩

end Placed

/-! ## Building -/

/-- No container in the imported trees is built by the document. -/
def AreForeign (document : String) (imported : Imported) : Prop :=
  ∀ entry ∈ imported, ∀ inner ∈ entry.2.containers, inner.id.document ≠ document

section

variable {document : String} {imported : Imported}

theorem placed_buildParts {owner partName : String}
    {build : Nat → Element → Except ParseError Child} {place : List Nat}
    (each : ∀ position part child, build position part = .ok child →
      Placed document imported (From (place ++ [position])) child.node.containers)
    {position : Nat} {parts : List Element} {children : List Child}
    (built : buildParts owner partName build position parts = .ok children) :
    Placed document imported (Inside place position) (containersOf children) := by
  induction parts generalizing position children with
  | nil =>
      cases built
      exact .nil
  | cons part rest ih =>
      rw [buildParts] at built
      split at built
      · exact (ih built).skip
      · split at built
        · obtain ⟨child, first, built⟩ := bind_eq_ok_iff.mp built
          obtain ⟨others, later, same⟩ := bind_eq_ok_iff.mp built
          cases same
          rw [containersOf_cons]
          exact (each _ _ _ first).child (ih later)
        · cases built

theorem placed_buildDelimited {place : List Nat} {element : Element} {level : Delimiter.Level}
    {kind : ContainerKind} {partName : String}
    {build : Nat → Element → Except ParseError Child}
    (each : ∀ position part child, build position part = .ok child →
      Placed document imported (From (place ++ [position])) child.node.containers)
    {child : Child}
    (built : buildDelimited document place element level kind partName build = .ok child) :
    Placed document imported (From place) child.node.containers := by
  unfold buildDelimited at built
  obtain ⟨isRequired, -, built⟩ := bind_eq_ok_iff.mp built
  obtain ⟨occurs, -, built⟩ := bind_eq_ok_iff.mp built
  obtain ⟨name, -, built⟩ := bind_eq_ok_iff.mp built
  split at built
  · obtain ⟨content, -, same⟩ := bind_eq_ok_iff.mp built
    cases same
    exact .nil
  · obtain ⟨truncatable, -, built⟩ := bind_eq_ok_iff.mp built
    obtain ⟨children, parts, same⟩ := bind_eq_ok_iff.mp built
    cases same
    have inside := placed_buildParts each parts
    refine Placed.cons rfl ?_
    simpa [containersOf] using inside

theorem placed_buildField {place : List Nat} {element : Element} {child : Child}
    (built : buildField document place element = .ok child) :
    Placed document imported (From place) child.node.containers := by
  refine placed_buildDelimited ?_ built
  intro position part child component
  refine placed_buildDelimited ?_ component
  intro position part child leaf
  unfold buildSubComponent at leaf
  obtain ⟨isRequired, -, leaf⟩ := bind_eq_ok_iff.mp leaf
  obtain ⟨occurs, -, leaf⟩ := bind_eq_ok_iff.mp leaf
  obtain ⟨content, -, same⟩ := bind_eq_ok_iff.mp leaf
  cases same
  exact .nil

/-- The containers of a content. -/
def Content.containers (content : Content) : List Container :=
  containersOf content.children ++ containersOf content.segments

theorem placed_resolveReference (foreign : AreForeign document imported)
    {within : List Nat → Prop} {reference : String} {node : Node}
    (resolved : resolveReference imported reference = .ok node) :
    Placed document imported within node.containers := by
  obtain ⟨entry, inImported, all⟩ := containers_of_resolveReference resolved
  constructor
  · intro inner member
    have there := all inner member
    exact .inr ⟨foreign entry inImported inner there, entry, inImported, there⟩
  · have none_ : node.containers.filter (·.id.document = document) = [] := by
      rw [List.filter_eq_nil_iff]
      intro inner member
      simpa using foreign entry inImported inner (all inner member)
    rw [none_]
    exact List.nodup_nil

mutual

/-- A segment or segment group is built with what is in it. -/
theorem placed_buildSegmentChild (foreign : AreForeign document imported) (place : List Nat)
    (element : Element) {child : Child}
    (built : buildSegmentChild document imported place element = .ok child) :
    Placed document imported (From place) child.node.containers := by
  match element with
  | .mk name attributes children text =>
      rw [buildSegmentChild] at built
      obtain ⟨occurs, -, built⟩ := bind_eq_ok_iff.mp built
      split at built
      · split at built
        · obtain ⟨node, resolved, same⟩ := bind_eq_ok_iff.mp built
          cases same
          exact placed_resolveReference foreign resolved
        · obtain ⟨tag, -, built⟩ := bind_eq_ok_iff.mp built
          obtain ⟨code, -, built⟩ := bind_eq_ok_iff.mp built
          obtain ⟨truncatable, -, built⟩ := bind_eq_ok_iff.mp built
          obtain ⟨content, inner, same⟩ := bind_eq_ok_iff.mp built
          cases same
          exact Placed.cons rfl (placed_buildSegmentContent foreign place 0 children inner)
      · split at built
        · obtain ⟨tag, -, built⟩ := bind_eq_ok_iff.mp built
          obtain ⟨content, inner, same⟩ := bind_eq_ok_iff.mp built
          cases same
          exact Placed.cons rfl (placed_buildGroupContent foreign place 0 children inner).2
        · cases built
termination_by structural element

/-- The content of a segment is built child by child. -/
theorem placed_buildSegmentContent (foreign : AreForeign document imported)
    (place : List Nat) (position : Nat) (elements : List Element) {content : Content}
    (built : buildSegmentContent document imported place position elements = .ok content) :
    Placed document imported (Inside place position) content.containers := by
  match elements with
  | [] =>
      cases built
      exact .nil
  | element :: rest =>
      rw [buildSegmentContent] at built
      split at built
      · obtain ⟨child, field, built⟩ := bind_eq_ok_iff.mp built
        obtain ⟨others, later, same⟩ := bind_eq_ok_iff.mp built
        cases same
        have all := placed_buildSegmentContent foreign place (position + 1) rest later
        rw [Content.containers, containersOf_cons, List.append_assoc]
        exact (placed_buildField field).child all
      · split at built
        · obtain ⟨child, segment, built⟩ := bind_eq_ok_iff.mp built
          obtain ⟨others, later, same⟩ := bind_eq_ok_iff.mp built
          cases same
          have all := placed_buildSegmentContent foreign place (position + 1) rest later
          have first := placed_buildSegmentChild foreign (place ++ [position]) element segment
          refine (first.child all).perm ?_
          rw [Content.containers, Content.containers, containersOf_cons, ← List.append_assoc,
            ← List.append_assoc]
          exact List.perm_append_comm.append_right _
        · split at built
          · obtain ⟨others, later, same⟩ := bind_eq_ok_iff.mp built
            cases same
            exact (placed_buildSegmentContent foreign place (position + 1) rest later).skip
          · cases built
termination_by structural elements

/-- A segment group has no fields, and its segments are built child by child. -/
theorem placed_buildGroupContent (foreign : AreForeign document imported)
    (place : List Nat) (position : Nat) (elements : List Element) {content : Content}
    (built : buildGroupContent document imported place position elements = .ok content) :
    content.children = [] ∧
      Placed document imported (Inside place position)
        (containersOf [] ++ containersOf content.segments) := by
  match elements with
  | [] =>
      cases built
      exact ⟨rfl, .nil⟩
  | element :: rest =>
      rw [buildGroupContent] at built
      split at built
      · obtain ⟨others, later, same⟩ := bind_eq_ok_iff.mp built
        cases same
        obtain ⟨none_, all⟩ := placed_buildGroupContent foreign place (position + 1) rest later
        exact ⟨none_, all.skip⟩
      · obtain ⟨child, segment, built⟩ := bind_eq_ok_iff.mp built
        obtain ⟨others, later, same⟩ := bind_eq_ok_iff.mp built
        cases same
        obtain ⟨none_, all⟩ := placed_buildGroupContent foreign place (position + 1) rest later
        have first := placed_buildSegmentChild foreign (place ++ [position]) element segment
        rw [containersOf_cons]
        exact ⟨none_, first.child all⟩
termination_by structural elements

end

/-- The containers of a model are found by their identities. -/
theorem placed_build (foreign : AreForeign document imported) {source : Document}
    {model : Model} (built : source.build document imported = .ok model) :
    Placed document imported (From []) model.root.containers := by
  unfold Document.build at built
  obtain ⟨name, -, built⟩ := bind_eq_ok_iff.mp built
  obtain ⟨content, inner, same⟩ := bind_eq_ok_iff.mp built
  cases same
  exact Placed.cons rfl (placed_buildGroupContent foreign [] 0 _ inner).2

end

end FlatMessage.Schema
