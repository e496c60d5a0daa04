import FlatMessage.Proofs.Common.References

/-!
# What a builder makes of an element

Every builder is described once, by what it makes when it succeeds: the attributes it
has read, the elements it allows, and what the builders of the parts have made of them.
What holds of built trees is then shown by induction on the element, without another look
at the builders.
-/

namespace FlatMessage

/-! ## Elements -/

namespace Xml.Element

/-- What holds of an element whenever it holds of its child elements holds of every
element. -/
theorem induction {motive : Element → Prop}
    (step : ∀ element, (∀ part ∈ element.children, motive part) → motive element) :
    ∀ element, motive element
  | mk name attributes children text =>
      step (mk name attributes children text) fun part (_ : part ∈ children) =>
        induction step part

end Xml.Element

namespace Schema

open Delimiter (Level)
open Xml (Element)

theorem required_eq_ok_iff {element : Element} {name value : String} :
    required element name = .ok value ↔ element.attribute? name = some value := by
  unfold required
  cases element.attribute? name <;> simp

/-! ## Fields and components -/

/-- A leaf has the name that its element declares. -/
theorem name_of_buildValue {element : Element} {level : Level} {content : ValueNode}
    (built : buildValue element level = .ok content) :
    element.attribute? "xmltag" = some content.name ∧ content.level = level := by
  unfold buildValue at built
  obtain ⟨name, tagged, built⟩ := bind_eq_ok_iff.mp built
  rw [required_eq_ok_iff] at tagged
  split at built
  · cases built
    exact ⟨tagged, rfl⟩
  · obtain ⟨dataType, -, built⟩ := bind_eq_ok_iff.mp built
    split at built
    · obtain ⟨options, -, same⟩ := bind_eq_ok_iff.mp built
      cases same
      exact ⟨tagged, rfl⟩
    · cases built
      exact ⟨tagged, rfl⟩

/-- A sub-component is a leaf, whatever is inside its element. -/
theorem cases_buildSubComponent {element : Element} {child : Child}
    (built : buildSubComponent element = .ok child) :
    ∃ content, buildValue element .subComponent = .ok content ∧
      child.node = .value content := by
  unfold buildSubComponent at built
  obtain ⟨isRequired, -, built⟩ := bind_eq_ok_iff.mp built
  obtain ⟨occurs, -, built⟩ := bind_eq_ok_iff.mp built
  obtain ⟨content, value, same⟩ := bind_eq_ok_iff.mp built
  cases same
  exact ⟨content, value, rfl⟩

/-- The elements with a name. -/
def partsAmong (name : String) (elements : List Element) : List Element :=
  elements.filter (·.name = name)

/-- Children are built from elements one by one, each at some position. -/
def BuiltFrom (build : Nat → Element → Except ParseError Child) (elements : List Element)
    (children : List Child) : Prop :=
  List.Forall₂ (fun element child => ∃ position, build position element = .ok child)
    elements children

/-- All parts have the one name that is allowed, or are documentation, and children are
built from the former. -/
theorem cases_buildParts {owner partName : String}
    {build : Nat → Element → Except ParseError Child} {position : Nat}
    {parts : List Element} {children : List Child}
    (different : partName ≠ "documentation")
    (built : buildParts owner partName build position parts = .ok children) :
    (∀ part ∈ parts, part.name = "documentation" ∨ part.name = partName) ∧
      BuiltFrom build (partsAmong partName parts) children := by
  induction parts generalizing position children with
  | nil =>
      cases built
      exact ⟨nofun, .nil⟩
  | cons part rest ih =>
      rw [buildParts] at built
      rw [List.forall_mem_cons, partsAmong, List.filter_cons]
      split at built
      · next documentation =>
          obtain ⟨named, others⟩ := ih built
          rw [if_neg (by simpa [documentation] using different.symm)]
          exact ⟨⟨.inl documentation, named⟩, others⟩
      · split at built
        · next isPart =>
            obtain ⟨child, first, built⟩ := bind_eq_ok_iff.mp built
            obtain ⟨others, later, same⟩ := bind_eq_ok_iff.mp built
            cases same
            obtain ⟨named, others⟩ := ih later
            rw [if_pos (by simpa using isPart)]
            exact ⟨⟨.inr isPart, named⟩, .cons ⟨position, first⟩ others⟩
        · cases built

/-- What a field or component is built as. -/
inductive Delimited (document : String) (place : List Nat) (element : Element)
    (level : Level) (kind : ContainerKind) (partName : String)
    (build : Nat → Element → Except ParseError Child) : Node → Prop
  /-- Without parts it is a leaf. -/
  | leaf {content : ValueNode}
      (bare : ∀ part ∈ element.children, part.name = "documentation")
      (value : buildValue element level = .ok content) :
      Delimited document place element level kind partName build (.value content)
  /-- With parts it is a composite of them. -/
  | composite {name : String} {truncatable : Bool} {children : List Child}
      (tagged : element.attribute? "xmltag" = some name) (filled : children ≠ [])
      (named : ∀ part ∈ element.children,
        part.name = "documentation" ∨ part.name = partName)
      (parts : BuiltFrom build (partsAmong partName element.children) children) :
      Delimited document place element level kind partName build
        (.container
          { id := ⟨document, place⟩
            kind, name, truncatable, children
            code := none
            documentation := none
            segments := [] })

theorem cases_buildDelimited {document : String} {place : List Nat} {element : Element}
    {level : Level} {kind : ContainerKind} {partName : String}
    {build : Nat → Element → Except ParseError Child} {child : Child}
    (different : partName ≠ "documentation")
    (built : buildDelimited document place element level kind partName build = .ok child) :
    Delimited document place element level kind partName build child.node := by
  unfold buildDelimited at built
  obtain ⟨isRequired, -, built⟩ := bind_eq_ok_iff.mp built
  obtain ⟨occurs, -, built⟩ := bind_eq_ok_iff.mp built
  obtain ⟨name, tagged, built⟩ := bind_eq_ok_iff.mp built
  rw [required_eq_ok_iff] at tagged
  split at built
  · next bare =>
      obtain ⟨content, value, same⟩ := bind_eq_ok_iff.mp built
      cases same
      exact .leaf (by simpa using bare) value
  · next parted =>
      obtain ⟨truncatable, -, built⟩ := bind_eq_ok_iff.mp built
      obtain ⟨children, inner, same⟩ := bind_eq_ok_iff.mp built
      cases same
      obtain ⟨named, parts⟩ := cases_buildParts different inner
      refine .composite tagged ?_ named parts
      rintro rfl
      apply parted
      rw [List.all_eq_true]
      intro part member
      have unused : part ∉ partsAmong partName element.children := by
        rw [List.forall₂_nil_right_iff.mp parts]
        exact List.not_mem_nil
      have other : part.name ≠ partName := by
        simpa [partsAmong, member] using unused
      simpa using (named part member).resolve_right other

/-! ## Segments -/

/-- What a segment or a segment group is built as. -/
inductive SegmentLike (document : String) (imported : Imported) (place : List Nat)
    (element : Element) : Node → Prop
  /-- A reference is the segment that it denotes. -/
  | reference {reference : String} {node : Node}
      (refers : referenceOf? element = some reference)
      (resolved : resolveReference imported reference = .ok node) :
      SegmentLike document imported place element node
  | segment {name code : String} {truncatable : Bool} {content : Content}
      (named : element.name = "segment") (plain : referenceOf? element = none)
      (tagged : element.attribute? "xmltag" = some name)
      (inner : buildSegmentContent document imported place 0 element.children = .ok content) :
      SegmentLike document imported place element
        (.container
          { id := ⟨document, place⟩
            kind := .segment
            name := name
            code := some code
            truncatable
            documentation := content.documentation
            children := content.children
            segments := content.segments })
  | group {name : String} {content : Content}
      (named : element.name = "segmentGroup")
      (tagged : element.attribute? "xmltag" = some name)
      (inner : buildGroupContent document imported place 0 element.children = .ok content) :
      SegmentLike document imported place element
        (.container
          { id := ⟨document, place⟩
            kind := .segmentGroup
            name := name
            code := none
            truncatable := false
            documentation := content.documentation
            children := []
            segments := content.segments })

section

variable {document : String} {imported : Imported} {place : List Nat}

theorem cases_buildSegmentChild {element : Element} {child : Child}
    (built : buildSegmentChild document imported place element = .ok child) :
    SegmentLike document imported place element child.node := by
  obtain ⟨name, attributes, children, text⟩ := element
  rw [buildSegmentChild] at built
  obtain ⟨occurs, -, built⟩ := bind_eq_ok_iff.mp built
  split at built
  · next segment =>
      have refers : referenceOf? (.mk name attributes children text) =
          (Element.mk name attributes children text).attribute? "segref" :=
        if_pos segment
      split at built
      · next reference written =>
          obtain ⟨node, resolved, same⟩ := bind_eq_ok_iff.mp built
          cases same
          exact .reference (refers.trans written) resolved
      · next plain =>
          obtain ⟨tag, tagged, built⟩ := bind_eq_ok_iff.mp built
          obtain ⟨code, -, built⟩ := bind_eq_ok_iff.mp built
          obtain ⟨truncatable, -, built⟩ := bind_eq_ok_iff.mp built
          obtain ⟨content, inner, same⟩ := bind_eq_ok_iff.mp built
          cases same
          exact .segment segment (refers.trans plain) (required_eq_ok_iff.mp tagged) inner
  · split at built
    · next group =>
        obtain ⟨tag, tagged, built⟩ := bind_eq_ok_iff.mp built
        obtain ⟨content, inner, same⟩ := bind_eq_ok_iff.mp built
        cases same
        exact .group group (required_eq_ok_iff.mp tagged) inner
    · cases built

/-- Children are built from segments and segment groups one by one, each at some place. -/
def SegmentsBuilt (document : String) (imported : Imported) (elements : List Element)
    (segments : List Child) : Prop :=
  List.Forall₂
    (fun element child => ∃ place, buildSegmentChild document imported place element = .ok child)
    elements segments

/-- Children are built from fields one by one, each at some place. -/
def FieldsBuilt (document : String) (elements : List Element) (fields : List Child) : Prop :=
  List.Forall₂ (fun element child => ∃ place, buildField document place element = .ok child)
    elements fields

/-- The names of the elements that segments and segment groups nest. -/
def IsSegmentName (name : String) : Prop :=
  name = "segment" ∨ name = "segmentGroup"

/-- The content of a segment is made of its fields and nested segments, and there is
nothing else but documentation. -/
theorem cases_buildSegmentContent {position : Nat} {elements : List Element}
    {content : Content}
    (built : buildSegmentContent document imported place position elements = .ok content) :
    (∀ element ∈ elements, element.name = "documentation" ∨ element.name = "field" ∨
      IsSegmentName element.name) ∧
      FieldsBuilt document (fieldsAmong elements) content.children ∧
        SegmentsBuilt document imported (segmentsAmong elements) content.segments := by
  induction elements generalizing position content with
  | nil =>
      cases built
      exact ⟨nofun, .nil, .nil⟩
  | cons element rest ih =>
      rw [buildSegmentContent] at built
      rw [List.forall_mem_cons, fieldsAmong, segmentsAmong, List.filter_cons, List.filter_cons]
      split at built
      · next field =>
          obtain ⟨child, first, built⟩ := bind_eq_ok_iff.mp built
          obtain ⟨others, later, same⟩ := bind_eq_ok_iff.mp built
          cases same
          obtain ⟨named, fields, segments⟩ := ih later
          rw [field, if_pos (by decide), if_neg (by decide)]
          exact ⟨⟨.inr (.inl rfl), named⟩, .cons ⟨_, first⟩ fields, segments⟩
      · next other =>
          rw [if_neg (by simpa using other)]
          split at built
          · next segment =>
              obtain ⟨child, first, built⟩ := bind_eq_ok_iff.mp built
              obtain ⟨others, later, same⟩ := bind_eq_ok_iff.mp built
              cases same
              obtain ⟨named, fields, segments⟩ := ih later
              rw [if_pos (by simpa using segment)]
              exact ⟨⟨.inr (.inr segment), named⟩, fields, .cons ⟨_, first⟩ segments⟩
          · next neither =>
              rw [if_neg (by simpa using neither)]
              split at built
              · next documentation =>
                  obtain ⟨others, later, same⟩ := bind_eq_ok_iff.mp built
                  cases same
                  obtain ⟨named, fields, segments⟩ := ih later
                  exact ⟨⟨.inl documentation, named⟩, fields, segments⟩
              · cases built

/-- The content of a segment group is made of its nested segments, and there is nothing
else but documentation. -/
theorem cases_buildGroupContent {position : Nat} {elements : List Element}
    {content : Content}
    (built : buildGroupContent document imported place position elements = .ok content) :
    (∀ element ∈ elements, element.name = "documentation" ∨ IsSegmentName element.name) ∧
      SegmentsBuilt document imported (segmentsAmong elements) content.segments := by
  induction elements generalizing position content with
  | nil =>
      cases built
      exact ⟨nofun, .nil⟩
  | cons element rest ih =>
      rw [buildGroupContent] at built
      rw [List.forall_mem_cons, segmentsAmong, List.filter_cons]
      split at built
      · next documentation =>
          obtain ⟨others, later, same⟩ := bind_eq_ok_iff.mp built
          cases same
          obtain ⟨named, segments⟩ := ih later
          rw [documentation, if_neg (by decide)]
          exact ⟨⟨.inl rfl, named⟩, segments⟩
      · obtain ⟨child, first, built⟩ := bind_eq_ok_iff.mp built
        obtain ⟨others, later, same⟩ := bind_eq_ok_iff.mp built
        cases same
        obtain ⟨named, segments⟩ := ih later
        have segment := name_of_buildSegmentChild first
        rw [if_pos (by simpa using segment)]
        exact ⟨⟨.inr segment, named⟩, .cons ⟨_, first⟩ segments⟩

end

end Schema

end FlatMessage
