import FlatMessage.Proofs.Building.Steps
import FlatMessage.Proofs.Lists
import FlatMessage.Proofs.Orders.Identities

/-!
# The shape of built trees

Builders choose kinds and levels from the names of elements and from whether they have
parts, so every container they make holds what its kind allows: segment groups hold no
fields, segments have a code, composites have parts and no segments, delimited children
stand at the level below their container, and only segments and segment groups are nested.

A segment that is referred to comes out of the tree of another document.  It has a code,
so it is a segment there, and it is shaped as that tree is.
-/

namespace FlatMessage.Schema

open Delimiter (Level)
open Xml (Element)

/-- A container holds what builders give to one of its kind. -/
structure Container.Shaped (container : Container) : Prop where
  /-- Exactly the segments have a code, which may be empty. -/
  coded : container.code.isSome = true ↔ container.kind = .segment
  bare : container.kind = .segmentGroup → container.children = []
  composed : container.kind = .field ∨ container.kind = .component →
    container.children ≠ [] ∧ container.segments = []
  levels : ∀ child ∈ container.children, container.kind.childLevel? = some child.node.level
  nested : ∀ child ∈ container.segments, child.node.isSegmentLike = true

/-- Every container of a tree is shaped. -/
def Node.Shaped (node : Node) : Prop :=
  ∀ inner ∈ node.containers, inner.Shaped

theorem shaped_value (content : ValueNode) : (Node.value content).Shaped :=
  List.forall_mem_nil _

/-- A tree is shaped when its root is and the trees of its children are. -/
theorem shaped_container_iff {container : Container} :
    (Node.container container).Shaped ↔
      container.Shaped ∧ ∀ child ∈ container.children ++ container.segments,
        child.node.Shaped := by
  unfold Node.Shaped
  rw [Node.containers, Container.containers_eq, List.forall_mem_cons, ← containersOf_append]
  simp only [mem_containersOf_iff]
  constructor
  · rintro ⟨here, inside⟩
    exact ⟨here, fun child member inner inChild => inside inner ⟨child, member, inChild⟩⟩
  · rintro ⟨here, inside⟩
    refine ⟨here, ?_⟩
    rintro inner ⟨child, member, inChild⟩
    exact inside child member inner inChild

/-- What holds of every child that is built holds of all children. -/
theorem forall_of_forall₂ {make : Element → Child → Prop} {elements : List Element}
    {children : List Child} {property : Child → Prop}
    (all : List.Forall₂ make elements children)
    (each : ∀ element ∈ elements, ∀ child, make element child → property child) :
    ∀ child ∈ children, property child := by
  intro child member
  obtain ⟨element, among, made⟩ := exists_of_forall₂ all member
  exact each element among child made

/-! ## Fields and components -/

/-- A field or component is shaped and stands at its level when its parts are shaped and
stand at the level below. -/
theorem shaped_delimited {document : String} {place : List Nat} {element : Element}
    {level partLevel : Level} {kind : ContainerKind} {partName : String}
    {build : Nat → Element → Except ParseError Child} {node : Node}
    (composite : kind = .field ∨ kind = .component) (own : kind.level = level)
    (below : kind.childLevel? = some partLevel)
    (each : ∀ position part child, build position part = .ok child →
      child.node.Shaped ∧ child.node.level = partLevel)
    (built : Delimited document place element level kind partName build node) :
    node.Shaped ∧ node.level = level := by
  cases built with
  | leaf bare value => exact ⟨shaped_value _, (name_of_buildValue value).2⟩
  | @composite name truncatable children tagged filled named parts =>
      have inside : ∀ child ∈ children, child.node.Shaped ∧ child.node.level = partLevel :=
        forall_of_forall₂ parts fun part _ child ⟨position, built⟩ =>
          each position part child built
      refine ⟨shaped_container_iff.mpr ⟨?_, ?_⟩, own⟩
      · constructor
        case coded => rcases composite with rfl | rfl <;> simp
        case bare => rcases composite with rfl | rfl <;> simp
        case composed => exact fun _ => ⟨filled, rfl⟩
        case levels =>
          intro child member
          rw [(inside child member).2]
          exact below
        case nested => exact nofun
      · intro child member
        rw [List.append_nil] at member
        exact (inside child member).1

theorem shaped_buildField {document : String} {place : List Nat} {element : Element}
    {child : Child} (built : buildField document place element = .ok child) :
    child.node.Shaped ∧ child.node.level = .field := by
  apply shaped_delimited (.inl rfl) rfl rfl _ (cases_buildDelimited (by decide) built)
  intro position part child component
  apply shaped_delimited (.inr rfl) rfl rfl _ (cases_buildDelimited (by decide) component)
  intro position part child leaf
  obtain ⟨content, value, same⟩ := cases_buildSubComponent leaf
  rw [same]
  exact ⟨shaped_value _, (name_of_buildValue value).2⟩

/-! ## Segments -/

/-- What a reference denotes has a code. -/
theorem code_of_resolveReference {imported : Imported} {reference : String} {node : Node}
    (resolved : resolveReference imported reference = .ok node) :
    ∃ shared, node = .container shared ∧ shared.code.isSome = true := by
  unfold resolveReference at resolved
  dsimp only at resolved
  split at resolved
  · next found =>
      cases resolved
      simp only [Option.bind_eq_bind, Option.bind_eq_some_iff,
        Container.findSegment?_eq, Option.map_eq_some_iff] at found
      obtain ⟨⟨space, code⟩, -, root, -, container, -, shared, first, same⟩ := found
      have coded := List.find?_some first
      rw [decide_eq_true_eq] at coded
      exact ⟨shared, same.symm, by simp [coded]⟩
  · cases resolved

section

variable {document : String} {imported : Imported}

/-- What a reference denotes is a segment of a shaped tree. -/
theorem shaped_resolveReference (roots : ∀ entry ∈ imported, entry.2.Shaped)
    {reference : String} {node : Node}
    (resolved : resolveReference imported reference = .ok node) :
    node.Shaped ∧ node.isSegmentLike = true := by
  obtain ⟨entry, inImported, all⟩ := containers_of_resolveReference resolved
  have shaped : node.Shaped := fun inner member =>
    roots entry inImported inner (all inner member)
  obtain ⟨shared, rfl, coded⟩ := code_of_resolveReference resolved
  have segment : shared.kind = .segment := (shaped_container_iff.mp shaped).1.coded.mp coded
  exact ⟨shaped, by simp [Node.isSegmentLike, segment]⟩

/-- A segment group is shaped when the segments that it nests are. -/
theorem shaped_group {id : NodeId} {name : String} {documentation : Option String}
    {segments : List Child}
    (inside : ∀ child ∈ segments, child.node.Shaped ∧ child.node.isSegmentLike = true) :
    (Node.container
      { id, name, documentation, segments
        kind := .segmentGroup
        code := none
        truncatable := false
        children := [] }).Shaped := by
  refine shaped_container_iff.mpr ⟨?_, fun child member => (inside child member).1⟩
  constructor
  case coded => simp
  case bare => exact fun _ => rfl
  case composed => simp
  case levels => exact nofun
  case nested => exact fun child member => (inside child member).2

/-- A segment is shaped when its fields and the segments that it nests are. -/
theorem shaped_segment {id : NodeId} {name code : String} {truncatable : Bool}
    {documentation : Option String} {fields segments : List Child}
    (delimited : ∀ child ∈ fields, child.node.Shaped ∧ child.node.level = .field)
    (inside : ∀ child ∈ segments, child.node.Shaped ∧ child.node.isSegmentLike = true) :
    (Node.container
      { id, name, truncatable, documentation, segments
        kind := .segment
        code := some code
        children := fields }).Shaped := by
  refine shaped_container_iff.mpr ⟨?_, ?_⟩
  · constructor
    case coded => simp
    case bare => exact nofun
    case composed => simp
    case levels =>
      intro child member
      rw [(delimited child member).2]
      rfl
    case nested => exact fun child member => (inside child member).2
  · rw [List.forall_mem_append]
    exact ⟨fun child member => (delimited child member).1,
      fun child member => (inside child member).1⟩

/-- Segments and segment groups are shaped, with everything inside them. -/
theorem shaped_buildSegmentChild (roots : ∀ entry ∈ imported, entry.2.Shaped)
    (element : Element) : ∀ {place : List Nat} {child : Child},
      buildSegmentChild document imported place element = .ok child →
        child.node.Shaped ∧ child.node.isSegmentLike = true := by
  induction element using Element.induction with
  | step element ih =>
      intro place child built
      have inside {segments : List Child}
          (all : SegmentsBuilt document imported (segmentsAmong element.children) segments) :
          ∀ child ∈ segments, child.node.Shaped ∧ child.node.isSegmentLike = true :=
        forall_of_forall₂ all fun part among _ ⟨_, built⟩ =>
          ih part (List.mem_of_mem_filter among) built
      have made := cases_buildSegmentChild built
      generalize child.node = node at made ⊢
      cases made with
      | reference refers resolved => exact shaped_resolveReference roots resolved
      | segment named plain tagged inner =>
          obtain ⟨-, fields, segments⟩ := cases_buildSegmentContent inner
          have delimited := forall_of_forall₂ fields fun part _ child ⟨_, built⟩ =>
            shaped_buildField built
          exact ⟨shaped_segment delimited (inside segments), rfl⟩
      | group named tagged inner =>
          obtain ⟨-, segments⟩ := cases_buildGroupContent inner
          exact ⟨shaped_group (inside segments), rfl⟩

/-- The tree of a document is shaped when the trees that it imports are. -/
theorem shaped_build (roots : ∀ entry ∈ imported, entry.2.Shaped) {source : Document}
    {model : Model} (built : source.build document imported = .ok model) :
    model.root.Shaped := by
  unfold Document.build at built
  obtain ⟨name, -, built⟩ := bind_eq_ok_iff.mp built
  obtain ⟨content, inner, same⟩ := bind_eq_ok_iff.mp built
  cases same
  obtain ⟨-, segments⟩ := cases_buildGroupContent inner
  exact shaped_group <| forall_of_forall₂ segments fun part _ child ⟨_, built⟩ =>
    shaped_buildSegmentChild roots part built

/-- The root of a model is a segment group, and its delimiters are those of the document. -/
theorem root_of_build {source : Document} {model : Model}
    (built : source.build document imported = .ok model) :
    (∃ root, model.root = .container root ∧ root.kind = .segmentGroup) ∧
      model.delimiters = source.delimiters := by
  unfold Document.build at built
  obtain ⟨name, -, built⟩ := bind_eq_ok_iff.mp built
  obtain ⟨content, -, same⟩ := bind_eq_ok_iff.mp built
  cases same
  exact ⟨⟨_, rfl, rfl⟩, rfl⟩

end

end FlatMessage.Schema
