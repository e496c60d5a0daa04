import FlatMessage.Proofs.Building.Steps

/-!
# Outlines of documents and trees

An outline says what stands where, under which name, and nothing else.  Elements and the
nodes built from them have outlines of one kind, in which documentation is left out and
fields come before nested segments.

A builder never looks into a sub-component.  What it reads of a document is the document
without what stands in sub-components: all of it is allowed where it stands, and the tree
that is built has its outline.
-/

namespace FlatMessage.Schema

open Delimiter (Level)
open Xml (Element)

/-- What stands somewhere, under which name, and its parts. -/
inductive Outline
  | entry (kind : String) (name : Option String) (parts : List Outline)

/-- The parts of an outline. -/
def Outline.parts : Outline → List Outline
  | entry _ _ parts => parts

/-! ## Outlines of elements -/

mutual

/-- The outline of an element; its fields come before its other parts, and documentation
does not count. -/
def Outline.ofElement (element : Element) : Outline :=
  match element with
  | .mk name attributes children _ =>
      .entry name (attributes.lookup "xmltag")
        (Outline.ofFields children ++ Outline.ofOthers children)
termination_by structural element

/-- The outlines of the fields among some elements. -/
def Outline.ofFields (elements : List Element) : List Outline :=
  match elements with
  | [] => []
  | element :: rest =>
      if element.name = "field" then Outline.ofElement element :: Outline.ofFields rest
      else Outline.ofFields rest
termination_by structural elements

/-- The outlines of the elements that are neither fields nor documentation. -/
def Outline.ofOthers (elements : List Element) : List Outline :=
  match elements with
  | [] => []
  | element :: rest =>
      if element.name = "field" ∨ element.name = "documentation" then Outline.ofOthers rest
      else Outline.ofElement element :: Outline.ofOthers rest
termination_by structural elements

end

/-- The elements that count as parts, fields first. -/
def partsIn (elements : List Element) : List Element :=
  fieldsAmong elements ++
    elements.filter fun element => ¬(element.name = "field" ∨ element.name = "documentation")

theorem Outline.ofElement_eq (element : Element) :
    ofElement element =
      .entry element.name (element.attribute? "xmltag")
        ((partsIn element.children).map ofElement) := by
  have fields (elements : List Element) :
      ofFields elements = (fieldsAmong elements).map ofElement := by
    unfold fieldsAmong
    induction elements with
    | nil => rfl
    | cons element rest ih =>
        rw [ofFields, ih, List.filter_cons]
        by_cases field : element.name = "field" <;> simp [field]
  have others (elements : List Element) :
      ofOthers elements = (elements.filter fun element =>
        ¬(element.name = "field" ∨ element.name = "documentation")).map ofElement := by
    induction elements with
    | nil => rfl
    | cons element rest ih =>
        rw [ofOthers, ih, List.filter_cons]
        by_cases left : element.name = "field" ∨ element.name = "documentation" <;>
          simp [left]
  obtain ⟨name, attributes, children, text⟩ := element
  rw [ofElement, fields, others, partsIn, List.map_append]
  rfl

/-- An element counts as a part unless it is documentation. -/
theorem mem_partsIn_iff {elements : List Element} {element : Element} :
    element ∈ partsIn elements ↔ element ∈ elements ∧ element.name ≠ "documentation" := by
  unfold partsIn fieldsAmong
  by_cases field : element.name = "field" <;> simp [field]

/-! ## Outlines of nodes -/

mutual

/-- The outline of a node; a leaf stands at its level. -/
def Outline.ofNode (node : Node) : Outline :=
  match node with
  | .value content => .entry content.level.name (some content.name) []
  | .container content => Outline.ofContainer content
termination_by structural node

/-- The outline of a container; its delimited children come before nested segments. -/
def Outline.ofContainer (container : Container) : Outline :=
  match container with
  | { kind, name, children, segments, .. } =>
      .entry kind.name (some name) (Outline.ofChildren children ++ Outline.ofChildren segments)
termination_by structural container

def Outline.ofChildren (children : List Child) : List Outline :=
  match children with
  | [] => []
  | ⟨_, node⟩ :: rest => Outline.ofNode node :: Outline.ofChildren rest
termination_by structural children

end

theorem Outline.ofChildren_eq (children : List Child) :
    ofChildren children = children.map fun child => ofNode child.node := by
  induction children with
  | nil => rfl
  | cons child rest ih =>
      obtain ⟨occurs, node⟩ := child
      rw [ofChildren, ih, List.map_cons]

theorem Outline.ofContainer_eq (container : Container) :
    ofNode (.container container) =
      .entry container.kind.name (some container.name)
        ((container.children ++ container.segments).map fun child => ofNode child.node) := by
  obtain ⟨id, kind, name, code, truncatable, documentation, children, segments⟩ := container
  rw [ofNode, ofContainer, ofChildren_eq, ofChildren_eq, List.map_append]

/-! ## What is allowed where -/

/-- The names of the elements that are allowed in an element with a name, beside
documentation. -/
def allowedIn (name : String) : List String :=
  if name = "segments" ∨ name = "segmentGroup" then ["segment", "segmentGroup"]
  else if name = "segment" then ["field", "segment", "segmentGroup"]
  else if name = "field" then ["component"]
  else if name = "component" then ["sub-component"]
  else []

mutual

/-- The elements that count in an element: itself and, unless they are documentation, its
child elements with those that count in them. -/
def elementsWithin (element : Element) : List Element :=
  match element with
  | .mk name attributes children text =>
      .mk name attributes children text :: elementsAmong children
termination_by structural element

/-- The elements that count in several elements. -/
def elementsAmong (elements : List Element) : List Element :=
  match elements with
  | [] => []
  | element :: rest =>
      if element.name = "documentation" then elementsAmong rest
      else elementsWithin element ++ elementsAmong rest
termination_by structural elements

end

/-- An element counts in another when it is the same or counts in a part. -/
theorem mem_elementsWithin_iff (root : Element) {element : Element} :
    element ∈ elementsWithin root ↔
      element = root ∨ ∃ part ∈ partsIn root.children, element ∈ elementsWithin part := by
  have among (elements : List Element) : element ∈ elementsAmong elements ↔
      ∃ part ∈ partsIn elements, element ∈ elementsWithin part := by
    simp only [mem_partsIn_iff]
    induction elements with
    | nil => simp [elementsAmong]
    | cons first rest ih =>
        rw [elementsAmong]
        by_cases documentation : first.name = "documentation"
        · rw [if_pos documentation, ih]
          grind
        · rw [if_neg documentation, List.mem_append, ih]
          grind
  obtain ⟨name, attributes, children, text⟩ := root
  rw [elementsWithin, List.mem_cons, among]
  rfl

/-- What holds of the elements that count holds of the root and of those in its parts. -/
theorem forall_mem_elementsWithin_iff {root : Element} {property : Element → Prop} :
    (∀ element ∈ elementsWithin root, property element) ↔
      property root ∧ ∀ part ∈ partsIn root.children,
        ∀ element ∈ elementsWithin part, property element := by
  simp only [mem_elementsWithin_iff root]
  constructor
  · intro all
    exact ⟨all root (.inl rfl), fun part isPart element inside =>
      all element (.inr ⟨part, isPart, inside⟩)⟩
  · rintro ⟨here, inside⟩ element (rfl | ⟨part, isPart, inPart⟩)
    · exact here
    · exact inside part isPart element inPart

/-- Every element is allowed where it stands. -/
def IsWellPlaced (root : Element) : Prop :=
  ∀ element ∈ elementsWithin root,
    ∀ part ∈ partsIn element.children, part.name ∈ allowedIn element.name

/-- Sub-components have no parts. -/
def HasBareSubComponents (root : Element) : Prop :=
  ∀ element ∈ elementsWithin root, element.name = "sub-component" →
    partsIn element.children = []

/-- No segment is a reference. -/
def HasNoReferences (root : Element) : Prop :=
  ∀ element ∈ elementsWithin root, referenceOf? element = none

/-- Everything is well placed when the parts are and everything in them is. -/
theorem isWellPlaced_iff {element : Element} :
    IsWellPlaced element ↔
      (∀ part ∈ partsIn element.children, part.name ∈ allowedIn element.name) ∧
        ∀ part ∈ partsIn element.children, IsWellPlaced part :=
  forall_mem_elementsWithin_iff

theorem hasBareSubComponents_iff {element : Element} :
    HasBareSubComponents element ↔
      (element.name = "sub-component" → partsIn element.children = []) ∧
        ∀ part ∈ partsIn element.children, HasBareSubComponents part :=
  forall_mem_elementsWithin_iff

theorem hasNoReferences_iff {element : Element} :
    HasNoReferences element ↔
      referenceOf? element = none ∧
        ∀ part ∈ partsIn element.children, HasNoReferences part :=
  forall_mem_elementsWithin_iff

/-! ## What is read of a document -/

mutual

/-- An element without what stands in sub-components. -/
def pruned (element : Element) : Element :=
  match element with
  | .mk name attributes children text =>
      .mk name attributes (if name = "sub-component" then [] else prunedAll children) text
termination_by structural element

def prunedAll (elements : List Element) : List Element :=
  match elements with
  | [] => []
  | element :: rest => pruned element :: prunedAll rest
termination_by structural elements

end

@[simp]
theorem name_pruned (element : Element) : (pruned element).name = element.name := by
  obtain ⟨name, attributes, children, text⟩ := element
  rw [pruned]
  rfl

@[simp]
theorem attribute?_pruned (element : Element) (name : String) :
    (pruned element).attribute? name = element.attribute? name := by
  obtain ⟨tag, attributes, children, text⟩ := element
  rw [pruned]
  rfl

theorem children_pruned (element : Element) :
    (pruned element).children =
      if element.name = "sub-component" then [] else element.children.map pruned := by
  have all (elements : List Element) : prunedAll elements = elements.map pruned := by
    induction elements with
    | nil => rfl
    | cons element rest ih => rw [prunedAll, ih, List.map_cons]
  obtain ⟨name, attributes, children, text⟩ := element
  rw [pruned, all]
  rfl

theorem partsIn_map_pruned (elements : List Element) :
    partsIn (elements.map pruned) = (partsIn elements).map pruned := by
  simp [partsIn, fieldsAmong, List.filter_map, Function.comp_def]

/-- The parts of what is read are what is read of the parts, outside sub-components. -/
theorem partsIn_pruned (element : Element) :
    partsIn (pruned element).children =
      if element.name = "sub-component" then [] else (partsIn element.children).map pruned := by
  rw [children_pruned]
  split
  · rfl
  · exact partsIn_map_pruned element.children

/-- Nothing is left out exactly when no sub-component has parts. -/
theorem ofElement_pruned_eq_iff (element : Element) :
    Outline.ofElement (pruned element) = Outline.ofElement element ↔
      HasBareSubComponents element := by
  induction element using Element.induction with
  | step element ih =>
      rw [Outline.ofElement_eq, Outline.ofElement_eq element, name_pruned, attribute?_pruned,
        partsIn_pruned, hasBareSubComponents_iff, Outline.entry.injEq]
      by_cases leaf : element.name = "sub-component"
      · simp only [leaf, if_true, List.map_nil, true_and, true_imp_iff]
        constructor
        · intro same
          have bare : partsIn element.children = [] := List.map_eq_nil_iff.mp same.symm
          simp [bare]
        · rintro ⟨bare, -⟩
          rw [bare, List.map_nil]
      · simp only [leaf, if_false, List.map_map, List.map_inj_left, true_and, false_imp_iff]
        apply forall₂_congr
        intro part isPart
        exact ih part (mem_partsIn_iff.mp isPart).1

theorem parts_pruned_eq_iff (element : Element) :
    (Outline.ofElement (pruned element)).parts = (Outline.ofElement element).parts ↔
      HasBareSubComponents element := by
  rw [← ofElement_pruned_eq_iff, Outline.ofElement_eq (pruned element),
    Outline.ofElement_eq element]
  simp [Outline.parts]

/-- Nothing is allowed in a sub-component. -/
theorem IsWellPlaced.hasBareSubComponents {root : Element} (placed : IsWellPlaced root) :
    HasBareSubComponents root := by
  intro element member named
  rw [List.eq_nil_iff_forall_not_mem]
  intro part isPart
  have allowed := placed element member part isPart
  rw [named] at allowed
  revert allowed
  simp [allowedIn]

/-- Where sub-components have no parts, everything is well placed when what is read is. -/
theorem isWellPlaced_of_pruned (element : Element) (placed : IsWellPlaced (pruned element))
    (bare : HasBareSubComponents element) : IsWellPlaced element := by
  induction element using Element.induction with
  | step element ih =>
      obtain ⟨here, inside⟩ := hasBareSubComponents_iff.mp bare
      obtain ⟨allowed, parts⟩ := isWellPlaced_iff.mp placed
      rw [partsIn_pruned, name_pruned] at allowed
      rw [partsIn_pruned] at parts
      rw [isWellPlaced_iff]
      by_cases leaf : element.name = "sub-component"
      · rw [here leaf]
        exact ⟨List.forall_mem_nil _, List.forall_mem_nil _⟩
      · rw [if_neg leaf, List.forall_mem_map] at allowed parts
        constructor
        · intro part isPart
          simpa using allowed part isPart
        · intro part isPart
          exact ih part (mem_partsIn_iff.mp isPart).1 (parts part isPart) (inside part isPart)

end FlatMessage.Schema
