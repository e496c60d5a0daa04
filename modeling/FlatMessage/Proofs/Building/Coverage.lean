import FlatMessage.Proofs.Building.Outlines

/-!
# What builders read

Of a document without references everything is read that does not stand in a sub-component:
the tree has the outline of the document without that, and an element that is not allowed
where it stands makes the build fail.

What stands in a sub-component is passed over.  So the tree has the outline of the whole
document exactly when there is nothing, and then exactly is every element of the document
allowed where it stands.
-/

namespace FlatMessage.Schema

open Delimiter (Level)
open Xml (Element)

/-! ## Elements and the nodes built from them -/

/-- A node has the outline of an element in which everything is allowed where it
stands. -/
structure Covers (element : Element) (node : Node) : Prop where
  outline : Outline.ofNode node = Outline.ofElement element
  placed : IsWellPlaced element

/-- What is made of every element of a list, one child from each, can be described further
element by element. -/
theorem forall₂_of_forall_mem {make wanted : Element → Child → Prop} {elements : List Element}
    {children : List Child} (all : List.Forall₂ make elements children)
    (each : ∀ element ∈ elements, ∀ child, make element child → wanted element child) :
    List.Forall₂ wanted elements children :=
  ((List.forall₂_and_left _ _).mpr ⟨each, all⟩).imp fun _ child made => made.1 child made.2

/-- A leaf covers an element without parts. -/
theorem covers_value {element : Element} {content : ValueNode}
    (bare : partsIn element.children = []) (named : element.name = content.level.name)
    (tagged : element.attribute? "xmltag" = some content.name) :
    Covers element (.value content) where
  outline := by
    rw [Outline.ofElement_eq, bare, named, tagged]
    rfl
  placed := by
    rw [isWellPlaced_iff, bare]
    exact ⟨List.forall_mem_nil _, List.forall_mem_nil _⟩

/-- Children that cover elements one by one have their outlines. -/
theorem outlines_of_covers {elements : List Element} {children : List Child}
    (all : List.Forall₂ (fun element child => Covers element child.node) elements children) :
    children.map (fun child => Outline.ofNode child.node) = elements.map Outline.ofElement ∧
      ∀ element ∈ elements, IsWellPlaced element := by
  induction all with
  | nil => exact ⟨rfl, List.forall_mem_nil _⟩
  | cons first _ ih =>
      rw [List.map_cons, List.map_cons, List.forall_mem_cons, first.outline, ih.1]
      exact ⟨rfl, first.placed, ih.2⟩

/-- A container covers an element when its children cover the parts. -/
theorem covers_container {element : Element} {container : Container}
    (named : element.name = container.kind.name)
    (tagged : element.attribute? "xmltag" = some container.name)
    (allowed : ∀ part ∈ partsIn element.children, part.name ∈ allowedIn element.name)
    (parts : List.Forall₂ (fun part child => Covers part child.node)
      (partsIn element.children) (container.children ++ container.segments)) :
    Covers element (.container container) where
  outline := by
    rw [Outline.ofElement_eq, Outline.ofContainer_eq, named, tagged,
      (outlines_of_covers parts).1]
  placed := isWellPlaced_iff.mpr ⟨allowed, (outlines_of_covers parts).2⟩

/-- A container covers what is read of an element, which is no sub-component, when its
children cover what is read of the parts. -/
theorem covers_pruned {element : Element} {container : Container}
    (named : element.name = container.kind.name)
    (tagged : element.attribute? "xmltag" = some container.name)
    (allowed : ∀ part ∈ partsIn element.children, part.name ∈ allowedIn element.name)
    (parts : List.Forall₂ (fun part child => Covers (pruned part) child.node)
      (partsIn element.children) (container.children ++ container.segments)) :
    Covers (pruned element) (.container container) := by
  have whole : element.name ≠ "sub-component" := by
    rw [named]
    cases container.kind <;> decide
  have read := partsIn_pruned element
  rw [if_neg whole] at read
  apply covers_container
  · rw [name_pruned, named]
  · rw [attribute?_pruned, tagged]
  · simpa [read] using allowed
  · rw [read]
    exact List.forall₂_map_left_iff.mpr parts

/-! ## Fields and components -/

/-- Where only elements of one name are allowed, these are the parts. -/
theorem partsIn_of_named {name : String} (different : name ≠ "field")
    (notDocumentation : name ≠ "documentation") {elements : List Element}
    (named : ∀ element ∈ elements, element.name = "documentation" ∨ element.name = name) :
    partsIn elements = partsAmong name elements := by
  have fields : fieldsAmong elements = [] := by
    rw [fieldsAmong, List.filter_eq_nil_iff]
    intro element member
    rcases named element member with other | other <;> simp [other, different]
  rw [partsIn, fields, List.nil_append, partsAmong]
  apply List.filter_congr
  intro element member
  rcases named element member with other | other <;>
    simp [other, different, notDocumentation, notDocumentation.symm]

/-- Elements that are all documentation have no parts. -/
theorem partsIn_of_bare {elements : List Element}
    (bare : ∀ element ∈ elements, element.name = "documentation") : partsIn elements = [] := by
  apply List.eq_nil_iff_forall_not_mem.mpr
  intro element member
  obtain ⟨inside, other⟩ := mem_partsIn_iff.mp member
  exact other (bare element inside)

theorem covers_delimited {document : String} {place : List Nat} {element : Element}
    {level : Level} {kind : ContainerKind} {partName : String}
    {build : Nat → Element → Except ParseError Child} {node : Node}
    (named : element.name = kind.name) (own : kind.name = level.name)
    (allowed : allowedIn element.name = [partName]) (different : partName ≠ "field")
    (notDocumentation : partName ≠ "documentation")
    (each : ∀ position part child, part.name = partName → build position part = .ok child →
      Covers (pruned part) child.node)
    (built : Delimited document place element level kind partName build node) :
    Covers (pruned element) node := by
  cases built with
  | leaf bare value =>
      obtain ⟨tagged, atLevel⟩ := name_of_buildValue value
      apply covers_value
      · rw [partsIn_pruned, partsIn_of_bare bare, List.map_nil, ite_self]
      · rw [name_pruned, named, own, atLevel]
      · rw [attribute?_pruned, tagged]
  | composite tagged filled partNames parts =>
      have only := partsIn_of_named different notDocumentation partNames
      apply covers_pruned named tagged
      · intro part member
        rw [allowed, List.mem_singleton]
        obtain ⟨inside, other⟩ := mem_partsIn_iff.mp member
        exact (partNames part inside).resolve_left other
      · rw [only, List.append_nil]
        apply forall₂_of_forall_mem parts
        intro part among child ⟨position, built⟩
        have isPart : part.name = partName := by simpa [partsAmong] using (List.mem_filter.mp among).2
        exact each position part child isPart built

/-- Of a sub-component only the element itself is read. -/
theorem covers_buildSubComponent {element : Element} {child : Child}
    (named : element.name = "sub-component") (built : buildSubComponent element = .ok child) :
    Covers (pruned element) child.node := by
  obtain ⟨content, value, same⟩ := cases_buildSubComponent built
  obtain ⟨tagged, atLevel⟩ := name_of_buildValue value
  rw [same]
  apply covers_value
  · rw [partsIn_pruned, if_pos named]
  · rw [name_pruned, named, atLevel]
    rfl
  · rw [attribute?_pruned, tagged]

theorem covers_buildField {document : String} {place : List Nat} {element : Element}
    {child : Child} (named : element.name = "field")
    (built : buildField document place element = .ok child) :
    Covers (pruned element) child.node := by
  have isField : element.name = ContainerKind.field.name := named
  have holds : allowedIn element.name = ["component"] := by
    rw [named]
    decide
  refine covers_delimited isField rfl holds (by decide) (by decide) ?_
    (cases_buildDelimited (by decide) built)
  intro position part child named built
  have isComponent : part.name = ContainerKind.component.name := named
  have holds : allowedIn part.name = ["sub-component"] := by
    rw [named]
    decide
  refine covers_delimited isComponent rfl holds (by decide) (by decide) ?_
    (cases_buildDelimited (by decide) built)
  intro position part child named built
  exact covers_buildSubComponent named built

/-! ## Segments -/

/-- Where fields and segments are allowed, these are the parts, fields first. -/
theorem partsIn_of_content {elements : List Element}
    (named : ∀ element ∈ elements, element.name = "documentation" ∨ element.name = "field" ∨
      IsSegmentName element.name) :
    partsIn elements = fieldsAmong elements ++ segmentsAmong elements := by
  rw [partsIn, segmentsAmong]
  congr 1
  apply List.filter_congr
  intro element member
  rcases named element member with other | other | other | other <;> simp [other]

theorem partsIn_of_segments {elements : List Element}
    (named : ∀ element ∈ elements, element.name = "documentation" ∨ IsSegmentName element.name) :
    partsIn elements = segmentsAmong elements := by
  have fields : fieldsAmong elements = [] := by
    rw [fieldsAmong, List.filter_eq_nil_iff]
    intro element member
    rcases named element member with other | other | other <;> simp [other]
  rw [partsIn_of_content fun element member => (named element member).imp_right .inr, fields,
    List.nil_append]

section

variable {document : String} {imported : Imported}

/-- Children built from segments cover them when all that is built from each does. -/
theorem covers_segmentsBuilt {elements : List Element} {segments : List Child}
    (plain : ∀ part ∈ partsIn elements, HasNoReferences part)
    (each : ∀ part ∈ elements, HasNoReferences part → ∀ {place : List Nat} {child : Child},
      buildSegmentChild document imported place part = .ok child →
        Covers (pruned part) child.node)
    (built : SegmentsBuilt document imported (segmentsAmong elements) segments) :
    List.Forall₂ (fun part child => Covers (pruned part) child.node)
      (segmentsAmong elements) segments := by
  apply forall₂_of_forall_mem built
  intro part among child ⟨place, built⟩
  obtain ⟨member, isSegment⟩ := List.mem_filter.mp among
  have isPart : part ∈ partsIn elements := by
    refine mem_partsIn_iff.mpr ⟨member, ?_⟩
    rintro documentation
    simp [documentation] at isSegment
  exact each part member (plain part isPart) built

/-- A segment or segment group without references covers what is read of its element. -/
theorem covers_buildSegmentChild (element : Element) :
    HasNoReferences element → ∀ {place : List Nat} {child : Child},
      buildSegmentChild document imported place element = .ok child →
        Covers (pruned element) child.node := by
  induction element using Element.induction with
  | step element ih =>
      intro plain place child built
      obtain ⟨noReference, inside⟩ := hasNoReferences_iff.mp plain
      have made := cases_buildSegmentChild built
      generalize child.node = node at made ⊢
      cases made with
      | reference refers resolved => rw [noReference] at refers; cases refers
      | segment named _ tagged inner =>
          obtain ⟨names, fields, segments⟩ := cases_buildSegmentContent inner
          apply covers_pruned named tagged
          · intro part member
            obtain ⟨among, other⟩ := mem_partsIn_iff.mp member
            rw [named]
            rcases (names part among).resolve_left other with isPart | isPart | isPart <;>
              simp [allowedIn, isPart]
          · rw [partsIn_of_content names]
            apply List.rel_append
            · apply forall₂_of_forall_mem fields
              rintro part among child ⟨_, built⟩
              have isField : part.name = "field" := by simpa using (List.mem_filter.mp among).2
              exact covers_buildField isField built
            · exact covers_segmentsBuilt inside ih segments
      | group named tagged inner =>
          obtain ⟨names, segments⟩ := cases_buildGroupContent inner
          apply covers_pruned named tagged
          · intro part member
            obtain ⟨among, other⟩ := mem_partsIn_iff.mp member
            rw [named]
            rcases (names part among).resolve_left other with isPart | isPart <;>
              simp [allowedIn, isPart]
          · rw [partsIn_of_segments names]
            exact covers_segmentsBuilt inside ih segments

end

/-! ## Documents -/

/-- The tree of a document without references has the outline of what is read of the
document, in which everything is allowed where it stands. -/
theorem covers_build {source : Document} {document : String} {imported : Imported}
    {model : Model} (named : source.segments.name = "segments")
    (plain : HasNoReferences source.segments)
    (built : source.build document imported = .ok model) :
    (Outline.ofNode model.root).parts = (Outline.ofElement (pruned source.segments)).parts ∧
      IsWellPlaced (pruned source.segments) := by
  unfold Document.build at built
  obtain ⟨name, -, built⟩ := bind_eq_ok_iff.mp built
  obtain ⟨content, inner, same⟩ := bind_eq_ok_iff.mp built
  cases same
  obtain ⟨names, segments⟩ := cases_buildGroupContent inner
  have whole : source.segments.name ≠ "sub-component" := by
    rw [named]
    decide
  have read := partsIn_pruned source.segments
  rw [if_neg whole, partsIn_of_segments names] at read
  have covered := covers_segmentsBuilt (hasNoReferences_iff.mp plain).2
    (fun part _ => covers_buildSegmentChild part) segments
  obtain ⟨outlines, placed⟩ := outlines_of_covers (List.forall₂_map_left_iff.mpr covered)
  constructor
  · rw [Outline.ofContainer_eq, Outline.ofElement_eq, Outline.parts, Outline.parts, read,
      List.nil_append, outlines]
  · rw [isWellPlaced_iff, read, name_pruned, named]
    refine ⟨?_, placed⟩
    rw [List.forall_mem_map]
    intro part among
    obtain ⟨-, isSegment⟩ := List.mem_filter.mp among
    simpa [allowedIn] using isSegment

/-- What a builder makes of a document without references.  Of everything that is not in a
sub-component one node is made, under the same name, in the same nesting and order, and
everything is allowed where it stands.  The tree has the outline of the whole document, and
the whole document is well placed, exactly when there is nothing in sub-components. -/
theorem outline_of_build {source : Document} {document : String} {imported : Imported}
    {model : Model} (named : source.segments.name = "segments")
    (plain : HasNoReferences source.segments)
    (built : source.build document imported = .ok model) :
    ((Outline.ofNode model.root).parts = (Outline.ofElement (pruned source.segments)).parts ∧
      IsWellPlaced (pruned source.segments)) ∧
    ((Outline.ofNode model.root).parts = (Outline.ofElement source.segments).parts ↔
      HasBareSubComponents source.segments) ∧
    (IsWellPlaced source.segments ↔ HasBareSubComponents source.segments) := by
  obtain ⟨outline, placed⟩ := covers_build named plain built
  refine ⟨⟨outline, placed⟩, ?_, ?_⟩
  · rw [outline]
    exact parts_pruned_eq_iff source.segments
  · constructor
    · exact IsWellPlaced.hasBareSubComponents
    · exact isWellPlaced_of_pruned source.segments placed

/-- A document with an address of a street, in whose sub-component `inside` stands. -/
def streetDocument (inside : List Element) : Document where
  description := ⟨"address", "1"⟩
  delimiters := .edifact
  imports := []
  interchange := none
  segments := .mk "segments" [("xmltag", "Addresses")]
    [.mk "segment" [("segcode", "NAD"), ("xmltag", "party")]
      [.mk "field" [("xmltag", "address")]
        [.mk "documentation" [] [] "Where it is.",
          .mk "component" [("xmltag", "place")]
            [.mk "sub-component" [("xmltag", "street")] inside ""] ""] ""] ""] ""

/-- The tree of an address has the outline of its document. -/
theorem outline_of_street :
    ∃ model, (streetDocument []).build "address" [] = .ok model ∧
      (Outline.ofNode model.root).parts =
        (Outline.ofElement (streetDocument []).segments).parts ∧
      IsWellPlaced (streetDocument []).segments := by
  have runs : ((streetDocument []).build "address" []).isOk = true := by decide +kernel
  obtain ⟨model, built⟩ := isOk_iff_exists.mp runs
  have plain : HasNoReferences (streetDocument []).segments := by
    unfold HasNoReferences
    decide
  have bare : HasBareSubComponents (streetDocument []).segments := by
    unfold HasBareSubComponents
    decide
  obtain ⟨-, outline, placed⟩ := outline_of_build rfl plain built
  exact ⟨model, built, outline.mpr bare, placed.mpr bare⟩

/-- An element that is not allowed anywhere is passed over in a sub-component. -/
theorem stranger_in_street_is_ignored :
    ∃ model, (streetDocument [.mk "bogus" [] [] ""]).build "address" [] = .ok model ∧
      HasNoReferences (streetDocument [.mk "bogus" [] [] ""]).segments ∧
      ¬IsWellPlaced (streetDocument [.mk "bogus" [] [] ""]).segments ∧
      (Outline.ofNode model.root).parts ≠
        (Outline.ofElement (streetDocument [.mk "bogus" [] [] ""]).segments).parts := by
  have runs : ((streetDocument [.mk "bogus" [] [] ""]).build "address" []).isOk = true := by
    decide +kernel
  obtain ⟨model, built⟩ := isOk_iff_exists.mp runs
  have plain : HasNoReferences (streetDocument [.mk "bogus" [] [] ""]).segments := by
    unfold HasNoReferences
    decide
  have filled : ¬HasBareSubComponents (streetDocument [.mk "bogus" [] [] ""]).segments := by
    unfold HasBareSubComponents
    decide
  refine ⟨model, built, plain, fun placed => filled placed.hasBareSubComponents, ?_⟩
  rw [(covers_build rfl plain built).1]
  exact fun same => filled ((parts_pruned_eq_iff _).mp same)

end FlatMessage.Schema
