import FlatMessage.Proofs.Pieces

/-!
# Readings of sound schemas

A part that was read by a sound container stands where its container may stand:
composites in slots of the next coarser kind and without nested segments, segments
and groups among nested segments.

The pieces of such a part spell its text under every delimiter table.
-/

namespace FlatMessage.Reading

open Codec (Piece)
open Delimiter (Level)
open Schema (Child ChildrenSound Container ContainerKind Node SegmentsSound)

namespace Part

/-! ## Where parts stand -/

/-- A part may stand in a slot of a container of a kind. -/
inductive FitsSlot : ContainerKind → Part → Prop
  | empty (kind : ContainerKind) : FitsSlot kind .empty
  | value (kind : ContainerKind) (rendered : Rendered) : FitsSlot kind (.value rendered)
  | composite {kind : ContainerKind} {head : Head} {slots : List Part}
      (level : kind.childLevel? = some head.kind.level)
      (fit : ∀ slot ∈ slots, FitsSlot head.kind slot) :
      FitsSlot kind (.container head slots [])

/-- A part may stand among nested segments. -/
inductive IsSegment : Part → Prop
  | segment {head : Head} {slots nested : List Part}
      (level : head.kind.level = .segment)
      (unused : head.hasFields = false → slots = [])
      (fit : ∀ slot ∈ slots, FitsSlot head.kind slot)
      (inner : ∀ part ∈ nested, IsSegment part) :
      IsSegment (.container head slots nested)

/-- The kind of a composite in a slot. -/
theorem composite_kind {kind inner : ContainerKind}
    (level : kind.childLevel? = some inner.level) :
    (kind = .segment ∧ inner = .field) ∨ (kind = .field ∧ inner = .component) := by
  cases kind <;> cases inner <;>
    simp_all [ContainerKind.childLevel?, ContainerKind.level]

/-- A composite has no code. -/
theorem isCoded_of_composite {kind : ContainerKind} {head : Head}
    (level : kind.childLevel? = some head.kind.level) : head.isCoded = false := by
  rcases composite_kind level with ⟨-, composite⟩ | ⟨-, composite⟩ <;>
    simp [Head.isCoded, composite]

theorem FitsSlot.trim {kind : ContainerKind} {part : Part} (fits : FitsSlot kind part) :
    FitsSlot kind part.trim := by
  induction fits with
  | empty kind => exact .empty kind
  | value kind rendered => exact .value kind rendered
  | @composite kind head slots level fit ih =>
      have fitKept : ∀ part ∈ kept head (trimAll slots), FitsSlot head.kind part := by
        intro part member
        obtain ⟨slot, inSlots, rfl⟩ := exists_of_mem_kept member
        exact ih slot inSlots
      exact .composite level fitKept

theorem IsSegment.trim {part : Part} (stands : IsSegment part) : IsSegment part.trim := by
  induction stands with
  | @segment head slots nested level unused fit inner ih =>
      have unusedKept : head.hasFields = false → kept head (trimAll slots) = [] := by
        intro without
        rw [unused without]
        exact List.prefix_nil.mp (kept_isPrefix _ [])
      have fitKept : ∀ part ∈ kept head (trimAll slots), FitsSlot head.kind part := by
        intro part member
        obtain ⟨slot, inSlots, rfl⟩ := exists_of_mem_kept member
        exact (fit slot inSlots).trim
      have innerTrimmed : ∀ part ∈ trimAll nested, IsSegment part := by
        intro part member
        rw [trimAll_eq_map, List.mem_map] at member
        obtain ⟨segment, inNested, rfl⟩ := member
        exact ih segment inNested
      exact .segment level unusedKept fitKept innerTrimmed

end Part

/-! ## What is read stands where it may -/

mutual

/-- A sound container is read into slots and segments that stand where they may. -/
theorem stand_of_readContainer (container : Container) (sound : container.Sound)
    {bean : Bean} {part : Part} (read : readContainer container bean = .ok part) :
    ∃ slots nested, part = .container (headOf container) slots nested ∧
      (container.hasFields = false → slots = []) ∧
      (∀ slot ∈ slots, Part.FitsSlot container.kind slot) ∧
      (∀ segment ∈ nested, Part.IsSegment segment) ∧
      (container.segments = [] → nested = []) := by
  match container with
  | ⟨id, kind, name, code, truncatable, documentation, children, segments⟩ =>
      obtain ⟨slots, nested, slotsRun, nestedRun, rfl⟩ := readContainer_eq_ok_iff.mp read
      rw [Container.Sound] at sound
      obtain ⟨-, childrenSound, segmentsSound⟩ := sound
      have unused : (!children.isEmpty) = false → slots = [] := by
        intro without
        rw [Bool.not_eq_false', List.isEmpty_iff] at without
        subst without
        unfold slotsRead at slotsRun
        split at slotsRun <;> cases slotsRun <;> rfl
      have fit : ∀ slot ∈ slots, Part.FitsSlot kind slot := by
        unfold slotsRead at slotsRun
        split at slotsRun
        · exact fit_of_readChildren kind children childrenSound slotsRun
        · cases slotsRun
          simp
      have flat : segments = [] → nested = [] := by
        rintro rfl
        cases nestedRun
        rfl
      exact ⟨slots, nested, rfl, unused, fit,
        segments_of_readSegments segments segmentsSound nestedRun, flat⟩

theorem fit_of_readChildren (kind : ContainerKind) (children : List Child)
    (sound : ChildrenSound kind children) {scope : Naming.Scope} {bean : Bean}
    {parts : List Part} (read : readChildren scope children bean = .ok parts) :
    ∀ part ∈ parts, Part.FitsSlot kind part := by
  match children with
  | [] =>
      cases read
      simp
  | ⟨occurs, node⟩ :: rest =>
      rw [ChildrenSound] at sound
      obtain ⟨-, level, nodeSound, restSound⟩ := sound
      obtain ⟨items, slots, others, -, slotsRead, othersRead, rfl⟩ :=
        readChildren_cons_eq_ok_iff.mp read
      intro part member
      rcases List.mem_append.mp member with inSlots | inOthers
      · rcases eq_empty_or_exists_of_mem_slots slotsRead inSlots with rfl | ⟨value, read⟩
        · exact .empty kind
        · exact (stands_of_readNode node nodeSound read).1 kind level
      · exact fit_of_readChildren kind rest restSound othersRead part inOthers

theorem segments_of_readSegments (segments : List Child) (sound : SegmentsSound segments)
    {scope : Naming.Scope} {bean : Bean} {parts : List Part}
    (read : readSegments scope segments bean = .ok parts) :
    ∀ part ∈ parts, Part.IsSegment part := by
  match segments with
  | [] =>
      cases read
      simp
  | ⟨occurs, node⟩ :: rest =>
      rw [SegmentsSound] at sound
      obtain ⟨-, segmentLike, nodeSound, restSound⟩ := sound
      obtain ⟨items, first, others, -, firstRead, othersRead, rfl⟩ :=
        readSegments_cons_eq_ok_iff.mp read
      intro part member
      rcases List.mem_append.mp member with inFirst | inOthers
      · obtain ⟨value, -, read⟩ := exists_of_mem_mapM firstRead inFirst
        exact (stands_of_readNode node nodeSound read).2 segmentLike
      · exact segments_of_readSegments rest restSound othersRead part inOthers

/-- What a sound node is read into stands where the node stands. -/
theorem stands_of_readNode (node : Node) (sound : node.Sound) {name : String}
    {value : Value} {part : Part} (read : readNode node name value = .ok part) :
    (∀ kind : ContainerKind, kind.childLevel? = some node.level →
      Part.FitsSlot kind part) ∧ (node.isSegmentLike = true → Part.IsSegment part) := by
  match node with
  | .value content =>
      rw [readNode] at read
      obtain ⟨rendered, rfl⟩ := exists_of_readScalar read
      constructor
      · intro kind _
        exact .value kind rendered
      · intro segmentLike
        cases segmentLike
  | .container content =>
      obtain ⟨properties, -, read⟩ := exists_of_readNode_container read
      rw [Node.Sound] at sound
      obtain ⟨slots, nested, rfl, unused, fit, inner, flat⟩ :=
        stand_of_readContainer content sound read
      constructor
      · intro kind level
        have composite : content.segments = [] := by
          obtain ⟨id, inner, name, code, truncatable, documentation, children, segments⟩ :=
            content
          rw [Container.Sound] at sound
          rcases Part.composite_kind level with ⟨-, same⟩ | ⟨-, same⟩ <;>
            dsimp only at same <;> subst same <;> exact sound.1.2
        rw [flat composite]
        exact .composite level fit
      · intro segmentLike
        have level : content.kind.level = .segment := by
          cases kind : content.kind <;> simp_all [Node.isSegmentLike, ContainerKind.level]
        exact .segment level unused fit inner

end

/-- What the root of a model is read into stands as a segment. -/
theorem isSegment_of_readContainer {root : Container} (sound : root.Sound)
    (group : root.kind = .segmentGroup) {bean : Bean} {part : Part}
    (read : readContainer root bean = .ok part) : part.IsSegment := by
  have nodeSound : (Node.container root).Sound := by rwa [Node.Sound]
  have nodeRead : readNode (.container root) "" (.bean bean) = .ok part := read
  apply (stands_of_readNode _ nodeSound nodeRead).2
  simp [Node.isSegmentLike, group]

/-! ## Pieces spell the text -/

theorem textOf_flatten (table : Delimiter.Table) (parts : List (List Piece)) :
    Piece.textOf table parts.flatten = String.join (parts.map (Piece.textOf table)) := by
  induction parts with
  | nil => rfl
  | cons part rest ih =>
      rw [List.flatten_cons, Piece.textOf_append, ih, List.map_cons, String.join_cons]

/-- The first of several texts is joined without a separator before it. -/
theorem join_cons (separator text : String) (rest : List String) :
    Text.join separator (text :: rest) =
      text ++ String.join (rest.map (separator ++ ·)) := by
  induction rest generalizing text with
  | nil => simp [String.join_nil]
  | cons next others ih =>
      calc
        Text.join separator (text :: next :: others) =
            text ++ separator ++ Text.join separator (next :: others) := rfl
        _ = text ++ String.join ((next :: others).map (separator ++ ·)) := by
            rw [ih, List.map_cons, String.join_cons]
            simp only [String.append_assoc]

theorem textOf_between_some (table : Delimiter.Table) (level : Level)
    (slots : List (List Piece)) :
    Piece.textOf table (between (some level) level slots) =
      String.join ((slots.map (Piece.textOf table)).map (table.get level ++ ·)) := by
  induction slots with
  | nil => rfl
  | cons slot rest ih =>
      simp [between, Piece.textOf, Piece.text, ih, String.join_cons, String.append_assoc]

theorem textOf_between_none (table : Delimiter.Table) (level : Level)
    (slots : List (List Piece)) :
    Piece.textOf table (between none level slots) =
      Text.join (table.get level) (slots.map (Piece.textOf table)) := by
  cases slots with
  | nil => rfl
  | cons slot rest =>
      rw [between, Piece.textOf_append, textOf_between_some, List.map_cons, join_cons]
      rfl

namespace Part

theorem map_textOf_pieces {table : Delimiter.Table} {parts : List Part}
    (spelled : ∀ part ∈ parts, Piece.textOf table part.pieces = part.text table) :
    (piecesOf parts).map (Piece.textOf table) = texts table parts := by
  rw [piecesOf_eq_map, texts_eq_map, List.map_map]
  exact List.map_congr_left spelled

/-- The pieces of what stands in a slot spell its text. -/
theorem FitsSlot.textOf_pieces {kind : ContainerKind} {part : Part}
    (fits : FitsSlot kind part) (table : Delimiter.Table) :
    Piece.textOf table part.pieces = part.text table := by
  induction fits with
  | empty kind => rfl
  | value kind rendered => simp [pieces, text, Piece.textOf, Piece.text]
  | @composite kind head slots level fit ih =>
      have plain : head.isCoded = false := isCoded_of_composite level
      have spelled := map_textOf_pieces ih
      rcases composite_kind level with ⟨-, composite⟩ | ⟨-, composite⟩ <;>
        simp [pieces, text, piecesOf, Head.opening, Head.closing, Head.run, Head.leading,
          plain, composite, ContainerKind.childLevel?, textOf_between_none, spelled,
          Delimiter.Table.get]

/-- The pieces of a segment spell its text. -/
theorem IsSegment.textOf_pieces {part : Part} (stands : IsSegment part)
    (table : Delimiter.Table) : Piece.textOf table part.pieces = part.text table := by
  induction stands with
  | @segment head slots nested level unused fit inner ih =>
      have slotsSpelled := map_textOf_pieces fun slot member =>
        (fit slot member).textOf_pieces table
      have nestedSpelled := map_textOf_pieces ih
      cases kind : head.kind with
      | segmentGroup =>
          simp [pieces, text, Head.opening, Head.closing, Head.run, Head.isCoded, kind,
            ContainerKind.childLevel?, textOf_flatten, nestedSpelled]
      | segment =>
          cases fields : head.hasFields with
          | false =>
              simp [pieces, text, Head.opening, Head.closing, Head.run, Head.isCoded, kind,
                fields, unused fields, piecesOf, ContainerKind.childLevel?, textOf_flatten,
                nestedSpelled]
          | true =>
              cases code : head.code <;>
                simp [pieces, text, Head.opening, Head.closing, Head.run, Head.leading,
                  Head.isCoded, kind, fields, code, ContainerKind.childLevel?,
                  textOf_flatten, textOf_between_some, slotsSpelled, nestedSpelled,
                  Piece.textOf, Piece.text, Delimiter.Table.get, String.append_assoc]
      | field => simp [kind, ContainerKind.level] at level
      | component => simp [kind, ContainerKind.level] at level

end Part

end FlatMessage.Reading
