import FlatMessage.Compiler.BindingTree
import FlatMessage.Proofs.Containers
import FlatMessage.Schema.Build
import Mathlib.Data.List.Forall2

/-!
# References to segments

The nodes of a tree are addressed by child positions, and so are the elements that they are
built from.  Where an element is written as a reference, the node at its address is the
segment that the reference denotes: the first one with the code in the depth-first order of
the imported tree, and no copy of it.
-/

namespace FlatMessage.Schema

open Compiler (Address)
open Xml (Element)

/-! ## Addresses -/

/-- The node at an address in a tree. -/
def Node.at? (node : Node) : Address → Option Node
  | [] => some node
  | position :: rest =>
      match node with
      | .value _ => none
      | .container content =>
          (content.children ++ content.segments)[position]?.bind fun child =>
            child.node.at? rest

/-- The reference that an element is written as; the only elements that can be are
segments. -/
def referenceOf? (element : Element) : Option String :=
  if element.name = "segment" then element.attribute? "segref" else none

/-- The fields among some elements. -/
def fieldsAmong (elements : List Element) : List Element :=
  elements.filter (·.name = "field")

/-- The segments and segment groups among some elements. -/
def segmentsAmong (elements : List Element) : List Element :=
  elements.filter fun element => element.name = "segment" ∨ element.name = "segmentGroup"

/-- The element that the node at an address is built from.  Nothing is built from what
stands inside a reference, and the parts of a field are no segments. -/
def elementAt? (element : Element) : Address → Option Element
  | [] => some element
  | position :: rest =>
      if element.name = "field" ∨ (referenceOf? element).isSome then none
      else
        (fieldsAmong element.children ++ segmentsAmong element.children)[position]?.bind
          fun part => elementAt? part rest

theorem Container.containers_of_mem {container : Container} {child : Child}
    (member : child ∈ container.children ++ container.segments) :
    child.node.containers ⊆ container.containers := by
  intro inner inChild
  rw [Container.containers_eq, ← containersOf_append]
  exact List.mem_cons_of_mem _ (mem_containersOf_iff.mpr ⟨child, member, inChild⟩)

/-! ## The first segment with a code -/

mutual

/-- The segments and segment groups that a container nests, each one before what is nested
in it. -/
def Container.nested (container : Container) : List Container :=
  match container with
  | { segments, .. } => nestedIn segments
termination_by structural container

/-- The containers among some children, each one before what is nested in it. -/
def nestedIn (segments : List Child) : List Container :=
  match segments with
  | [] => []
  | child :: rest => child.nested ++ nestedIn rest
termination_by structural segments

/-- The container of a child before what is nested in it. -/
def Child.nested (child : Child) : List Container :=
  match child with
  | ⟨_, .value _⟩ => []
  | ⟨_, .container content⟩ => content :: content.nested
termination_by structural child

end

mutual

/-- A search by code finds the first nested container with the code. -/
theorem Container.findSegment?_eq (container : Container) (code : String) :
    container.findSegment? code =
      (container.nested.find? (·.code = some code)).map .container := by
  match container with
  | ⟨id, kind, name, other, truncatable, documentation, children, segments⟩ =>
      rw [Container.findSegment?, Container.nested]
      exact findSegmentIn?_eq segments code

theorem findSegmentIn?_eq (segments : List Child) (code : String) :
    findSegmentIn? code segments =
      ((nestedIn segments).find? (·.code = some code)).map .container := by
  match segments with
  | [] => rfl
  | child :: rest =>
      rw [findSegmentIn?, nestedIn, List.find?_append, Child.findSegment?_eq child code,
        findSegmentIn?_eq rest code]
      cases child.nested.find? (·.code = some code) <;> rfl

theorem Child.findSegment?_eq (child : Child) (code : String) :
    child.findSegment? code =
      (child.nested.find? (·.code = some code)).map .container := by
  match child with
  | ⟨occurs, .value content⟩ => rfl
  | ⟨occurs, .container content⟩ =>
      rw [Child.findSegment?, Child.nested, List.find?_cons]
      by_cases here : content.code = some code
      · simp [here]
      · simp only [here, decide_false, if_false]
        exact content.findSegment?_eq code

end

mutual

/-- What a container nests is inside it. -/
theorem Container.nested_subset (container : Container) :
    container.nested ⊆ container.containers := by
  match container with
  | ⟨id, kind, name, code, truncatable, documentation, children, segments⟩ =>
      intro inner member
      rw [Container.nested] at member
      rw [Container.containers, List.mem_cons, List.mem_append]
      exact .inr (.inr (nestedIn_subset segments member))

theorem nestedIn_subset (segments : List Child) : nestedIn segments ⊆ containersOf segments := by
  match segments with
  | [] => exact List.Subset.refl _
  | child :: rest =>
      rw [nestedIn, containersOf_cons]
      exact List.append_subset.mpr
        ⟨fun _ member => List.mem_append_left _ (Child.nested_subset child member),
          fun _ member => List.mem_append_right _ (nestedIn_subset rest member)⟩

theorem Child.nested_subset (child : Child) : child.nested ⊆ child.node.containers := by
  match child with
  | ⟨occurs, .value content⟩ => exact List.Subset.refl _
  | ⟨occurs, .container content⟩ =>
      rw [Child.nested]
      exact List.cons_subset.mpr ⟨content.self_mem_containers, content.nested_subset⟩

end

/-- The first segment with a code in the depth-first order of a tree. -/
def Node.segment? (node : Node) (code : String) : Option Container :=
  node.container?.bind fun container => container.nested.find? (·.code = some code)

theorem Node.mem_containers_of_segment? {node : Node} {code : String} {shared : Container}
    (found : node.segment? code = some shared) : shared ∈ node.containers := by
  cases node with
  | value content => cases found
  | container content => exact content.nested_subset (List.mem_of_find?_eq_some found)

/-- A reference denotes the first segment with its code in what is imported under its
namespace. -/
theorem exists_segment?_of_resolveReference {imported : Imported} {reference : String}
    {node root : Node} (resolved : resolveReference imported reference = .ok node)
    {space code : String} (cut : Text.cut? ':' reference = some (space, code))
    (known : imported.root? space = some root) :
    ∃ shared, root.segment? code = some shared ∧ node = .container shared := by
  unfold resolveReference at resolved
  dsimp only at resolved
  split at resolved
  · next found =>
      cases resolved
      simp only [cut, known, Option.bind_eq_bind, Option.bind_some, Option.bind_eq_some_iff,
        Container.findSegment?_eq, Option.map_eq_some_iff] at found
      obtain ⟨container, isContainer, shared, first, same⟩ := found
      exact ⟨shared, Option.bind_eq_some_iff.mpr ⟨container, isContainer, first⟩, same.symm⟩
  · cases resolved

/-! ## What is built from references -/

/-- Wherever an element holds a reference, the node built from it has the segment that the
reference denotes. -/
def Resolves (imported : Imported) (element : Element) (node : Node) : Prop :=
  ∀ address part reference, elementAt? element address = some part →
    referenceOf? part = some reference →
      ∃ found, resolveReference imported reference = .ok found ∧ node.at? address = some found

/-- Children are built from elements, one from each. -/
def AllResolve (imported : Imported) (elements : List Element) (children : List Child) : Prop :=
  List.Forall₂ (fun element child => Resolves imported element child.node) elements children

section

variable {imported : Imported} {element : Element} {elements : List Element}

/-- A field holds no references. -/
theorem resolves_of_field (field : element.name = "field") (node : Node) :
    Resolves imported element node := by
  intro address part reference found refers
  cases address with
  | nil =>
      cases found
      rw [referenceOf?, field] at refers
      cases refers
  | cons position rest =>
      rw [elementAt?, if_pos (.inl field)] at found
      cases found

/-- A reference is resolved into the segment that it denotes. -/
theorem resolves_of_reference {reference : String} {node : Node}
    (refers : referenceOf? element = some reference)
    (resolved : resolveReference imported reference = .ok node) :
    Resolves imported element node := by
  intro address part other found again
  cases address with
  | nil =>
      cases found
      rw [refers, Option.some.injEq] at again
      subst again
      exact ⟨node, resolved, rfl⟩
  | cons position rest =>
      rw [elementAt?, if_pos (.inr (by rw [refers]; rfl))] at found
      cases found

/-- The references in an element are those in its parts. -/
theorem resolves_of_parts (plain : referenceOf? element = none) {content : Container}
    (fields : AllResolve imported (fieldsAmong element.children) content.children)
    (segments : AllResolve imported (segmentsAmong element.children) content.segments) :
    Resolves imported element (.container content) := by
  intro address part reference found refers
  cases address with
  | nil =>
      cases found
      rw [plain] at refers
      cases refers
  | cons position rest =>
      rw [elementAt?] at found
      split at found
      · cases found
      · obtain ⟨inner, atPosition, found⟩ := Option.bind_eq_some_iff.mp found
        obtain ⟨length, each⟩ := List.forall₂_iff_get.mp (List.rel_append fields segments)
        obtain ⟨within, rfl⟩ := List.getElem?_eq_some_iff.mp atPosition
        obtain ⟨node, resolved, there⟩ :=
          each position within (length ▸ within) rest part reference found refers
        refine ⟨node, resolved, ?_⟩
        rw [Node.at?, List.getElem?_eq_getElem (length ▸ within)]
        exact there

end

/-! ## Building -/

section

variable {document : String} {imported : Imported}

/-- Only segments and segment groups are built among nested segments. -/
theorem name_of_buildSegmentChild {place : List Nat} {element : Element} {child : Child}
    (built : buildSegmentChild document imported place element = .ok child) :
    element.name = "segment" ∨ element.name = "segmentGroup" := by
  obtain ⟨name, attributes, children, text⟩ := element
  rw [buildSegmentChild] at built
  obtain ⟨occurs, -, built⟩ := bind_eq_ok_iff.mp built
  split at built
  · next segment => exact .inl segment
  · split at built
    · next group => exact .inr group
    · cases built

mutual

/-- What is built from the references in an element are the segments that they denote. -/
theorem resolves_buildSegmentChild (place : List Nat) (element : Element) {child : Child}
    (built : buildSegmentChild document imported place element = .ok child) :
    Resolves imported element child.node := by
  match element with
  | .mk name attributes children text =>
      rw [buildSegmentChild] at built
      obtain ⟨occurs, -, built⟩ := bind_eq_ok_iff.mp built
      split at built
      · next segment =>
          have refers : referenceOf? (.mk name attributes children text) =
              (Element.mk name attributes children text).attribute? "segref" :=
            if_pos segment
          split at built
          · next reference written =>
              obtain ⟨node, resolved, same⟩ := bind_eq_ok_iff.mp built
              cases same
              exact resolves_of_reference (refers.trans written) resolved
          · next plain =>
              obtain ⟨tag, -, built⟩ := bind_eq_ok_iff.mp built
              obtain ⟨code, -, built⟩ := bind_eq_ok_iff.mp built
              obtain ⟨truncatable, -, built⟩ := bind_eq_ok_iff.mp built
              obtain ⟨content, inner, same⟩ := bind_eq_ok_iff.mp built
              cases same
              obtain ⟨fields, segments⟩ := resolves_buildSegmentContent place 0 children inner
              exact resolves_of_parts (refers.trans plain) fields segments
      · next other =>
          split at built
          · obtain ⟨tag, -, built⟩ := bind_eq_ok_iff.mp built
            obtain ⟨content, inner, same⟩ := bind_eq_ok_iff.mp built
            cases same
            obtain ⟨fields, segments⟩ := resolves_buildGroupContent place 0 children inner
            have plain : referenceOf? (.mk name attributes children text) = none := if_neg other
            exact resolves_of_parts plain fields segments
          · cases built
termination_by structural element

/-- The fields and the segments of a segment are built one by one. -/
theorem resolves_buildSegmentContent (place : List Nat) (position : Nat)
    (elements : List Element) {content : Content}
    (built : buildSegmentContent document imported place position elements = .ok content) :
    AllResolve imported (fieldsAmong elements) content.children ∧
      AllResolve imported (segmentsAmong elements) content.segments := by
  match elements with
  | [] =>
      cases built
      exact ⟨.nil, .nil⟩
  | element :: rest =>
      rw [buildSegmentContent] at built
      rw [fieldsAmong, segmentsAmong, List.filter_cons, List.filter_cons]
      split at built
      · next field =>
          obtain ⟨child, -, built⟩ := bind_eq_ok_iff.mp built
          obtain ⟨others, later, same⟩ := bind_eq_ok_iff.mp built
          cases same
          obtain ⟨fields, segments⟩ := resolves_buildSegmentContent place (position + 1) rest later
          rw [field, if_pos (by decide), if_neg (by decide)]
          exact ⟨.cons (resolves_of_field field child.node) fields, segments⟩
      · next other =>
          rw [if_neg (by simpa using other)]
          split at built
          · next segment =>
              obtain ⟨child, first, built⟩ := bind_eq_ok_iff.mp built
              obtain ⟨others, later, same⟩ := bind_eq_ok_iff.mp built
              cases same
              obtain ⟨fields, segments⟩ :=
                resolves_buildSegmentContent place (position + 1) rest later
              rw [if_pos (by simpa using segment)]
              exact ⟨fields,
                .cons (resolves_buildSegmentChild (place ++ [position]) element first) segments⟩
          · next neither =>
              rw [if_neg (by simpa using neither)]
              split at built
              · obtain ⟨others, later, same⟩ := bind_eq_ok_iff.mp built
                cases same
                obtain ⟨fields, segments⟩ :=
                  resolves_buildSegmentContent place (position + 1) rest later
                exact ⟨fields, segments⟩
              · cases built
termination_by structural elements

/-- A segment group has no fields, and its segments are built one by one. -/
theorem resolves_buildGroupContent (place : List Nat) (position : Nat)
    (elements : List Element) {content : Content}
    (built : buildGroupContent document imported place position elements = .ok content) :
    AllResolve imported (fieldsAmong elements) [] ∧
      AllResolve imported (segmentsAmong elements) content.segments := by
  match elements with
  | [] =>
      cases built
      exact ⟨.nil, .nil⟩
  | element :: rest =>
      rw [buildGroupContent] at built
      rw [fieldsAmong, segmentsAmong, List.filter_cons, List.filter_cons]
      split at built
      · next documentation =>
          obtain ⟨others, later, same⟩ := bind_eq_ok_iff.mp built
          cases same
          obtain ⟨fields, segments⟩ := resolves_buildGroupContent place (position + 1) rest later
          rw [documentation, if_neg (by decide), if_neg (by decide)]
          exact ⟨fields, segments⟩
      · obtain ⟨child, first, built⟩ := bind_eq_ok_iff.mp built
        obtain ⟨others, later, same⟩ := bind_eq_ok_iff.mp built
        cases same
        obtain ⟨fields, segments⟩ := resolves_buildGroupContent place (position + 1) rest later
        have nested := name_of_buildSegmentChild first
        have other : element.name ≠ "field" := by
          rintro field
          rw [field] at nested
          revert nested
          decide
        rw [if_neg (by simpa using other), if_pos (by simpa using nested)]
        exact ⟨fields,
          .cons (resolves_buildSegmentChild (place ++ [position]) element first) segments⟩
termination_by structural elements

end

/-- In the tree of a model the references of its document are the segments that they
denote. -/
theorem resolves_build {source : Document} {model : Model}
    (built : source.build document imported = .ok model)
    (plain : referenceOf? source.segments = none) :
    Resolves imported source.segments model.root := by
  unfold Document.build at built
  obtain ⟨name, -, built⟩ := bind_eq_ok_iff.mp built
  obtain ⟨content, inner, same⟩ := bind_eq_ok_iff.mp built
  cases same
  obtain ⟨fields, segments⟩ := resolves_buildGroupContent [] 0 source.segments.children inner
  exact resolves_of_parts plain fields segments

end

end FlatMessage.Schema
