import FlatMessage.Proofs.Compilation
import FlatMessage.Proofs.Unambiguous.Grid
import FlatMessage.Proofs.Unambiguous.Released
import FlatMessage.Proofs.Unambiguous.Shape

/-!
# Decoding messages

Under a table of single characters a message is decoded without its schema: it is cut at
the marks of each level that are not released, from the coarsest level to the finest,
and the escapes are taken out of what is left.  This gives back the grids of the bean
that was written, whatever its values are.
-/

namespace FlatMessage

namespace Reading

open Delimiter (Closed Marks cut unescape)
open Schema (ContainerKind)

variable {table : Delimiter.Table} (marks : Marks table)

/-! ## Decoding -/

/-- The cell of a segment whose fields have been cut. -/
def decodeCell (fields : List (List Char)) (slot component subComponent : Nat) : String :=
  let components := cut marks.escape marks.component (fields.getD slot [])
  let subComponents := cut marks.escape marks.subComponent (components.getD component [])
  String.ofList (unescape marks.escape (subComponents.getD subComponent []))

/-- The grid of a segment that has been cut off. -/
def decodeSegment (segment : List Char) : Grid :=
  let fields := cut marks.escape marks.field segment
  { code := String.ofList (unescape marks.escape (fields.headD []))
    cell := decodeCell marks fields.tail }

/-- The grids of a message. -/
def decode (text : String) : List Grid :=
  (cut marks.escape marks.segment text.toList).dropLast.map (decodeSegment marks)

/-! ## Slots -/

/-- The marks that are not released in the slots of a kind. -/
def finerMarks : ContainerKind → List Char
  | .segmentGroup => []
  | .segment => [marks.component, marks.subComponent]
  | .field => [marks.subComponent]
  | .component => []

/-- The mark between the slots of what stands in a slot of a kind. -/
def slotMark : ContainerKind → Char
  | .segment => marks.component
  | _ => marks.subComponent

namespace Part

/-- A composite joins its slots by the mark of its place. -/
theorem text_composite {kind : ContainerKind} {head : Head}
    (level : kind.childLevel? = some head.kind.level) (slots nested : List Part) :
    (container head slots nested).text table =
      Text.join (String.singleton (slotMark marks kind)) (texts table slots) := by
  rcases composite_kind level with ⟨rfl, composite⟩ | ⟨rfl, composite⟩
  · rw [text, composite, slotMark, ← marks.component_eq]
  · rw [text, composite, slotMark, ← marks.subComponent_eq]
    intro coarse
    cases coarse

/-- The slots of a composite have all marks of its place but the one that joins them. -/
theorem finerMarks_composite {kind : ContainerKind} {head : Head}
    (level : kind.childLevel? = some head.kind.level) :
    finerMarks marks kind = slotMark marks kind :: finerMarks marks head.kind := by
  rcases composite_kind level with ⟨rfl, composite⟩ | ⟨rfl, composite⟩ <;>
    rw [composite] <;> rfl

theorem slotMark_ne_escape (kind : ContainerKind) : slotMark marks kind ≠ marks.escape := by
  have apart := marks.nodup_separators
  cases kind <;> simp_all [slotMark]

theorem slotMark_mem_all (kind : ContainerKind) : slotMark marks kind ∈ marks.all := by
  cases kind <;> simp [slotMark, Marks.all]

/-- The text of a slot has only the marks of finer levels. -/
theorem FitsSlot.closed {kind : ContainerKind} {part : Part} (fits : FitsSlot kind part) :
    Closed marks.escape (marks.Within (finerMarks marks kind)) (part.text table).toList := by
  induction fits with
  | empty kind => exact .nil
  | value kind rendered =>
      rw [text, marks.toList_escapeText]
      apply (marks.closed_flatMap_release _).mono
      rintro c (bare | none)
      · exact .inl bare
      · cases none
  | @composite kind head slots level fit ih =>
      rw [text_composite marks level, finerMarks_composite marks level]
      apply Delimiter.closed_join (slotMark_ne_escape marks kind) (.inr List.mem_cons_self)
      intro slotText member
      rw [texts_eq_map] at member
      obtain ⟨slot, inSlots, rfl⟩ := List.mem_map.mp member
      apply (ih slot inSlots).mono
      rintro c (bare | inner)
      · exact .inl bare
      · exact .inr (List.mem_cons_of_mem _ inner)

/-- The mark of a level does not stand unreleased in the slots of that level. -/
theorem FitsSlot.closed_ne {kind : ContainerKind} {part : Part} (fits : FitsSlot kind part)
    {mark : Char} (isMark : mark ∈ marks.all) (coarser : mark ∉ finerMarks marks kind) :
    Closed marks.escape (· ≠ mark) (part.text table).toList := by
  apply (fits.closed marks).mono
  rintro c (bare | finer) rfl
  · exact bare isMark
  · exact coarser finer

/-- Cutting the text of a part at the mark of its slots gives their texts. -/
theorem FitsSlot.getD_cut_text {kind : ContainerKind} {part : Part}
    (fits : FitsSlot kind part)
    (closed : ∀ index, Closed marks.escape (· ≠ slotMark marks kind)
      ((part.sub index).text table).toList) (index : Nat) :
    (cut marks.escape (slotMark marks kind) (part.text table).toList).getD index [] =
      ((part.sub index).text table).toList := by
  cases fits with
  | empty => cases index <;> rfl
  | value _ rendered =>
      have uncut : cut marks.escape (slotMark marks kind)
          ((Part.value rendered).text table).toList =
            [((Part.value rendered).text table).toList] := (closed 0).cut_eq
      rw [uncut]
      cases index <;> rfl
  | @composite _ head slots level fit =>
      rw [text_composite marks level, texts_eq_map]
      by_cases filled : slots = []
      · subst filled
        cases index <;> rfl
      · have each : ∀ slotText ∈ slots.map (text table),
            Closed marks.escape (· ≠ slotMark marks kind) slotText.toList := by
          intro slotText member
          obtain ⟨slot, inSlots, rfl⟩ := List.mem_map.mp member
          obtain ⟨number, found⟩ := List.mem_iff_getElem?.mp inSlots
          have inSlot := closed number
          rwa [Part.sub, List.getD_eq_getElem?_getD, found] at inSlot
        have texts : slots.map (text table) ≠ [] := by simpa using filled
        rw [Delimiter.cut_join (slotMark_ne_escape marks kind) texts each, Part.sub,
          List.map_map, List.getD_eq_getElem?_getD, List.getD_eq_getElem?_getD,
          List.getElem?_map]
        cases slots[index]? <;> rfl

/-- What stands in a part is of the next finer kind. -/
theorem FitsSlot.sub {kind inner : ContainerKind} {part : Part} (fits : FitsSlot kind part)
    (only : ∀ other : ContainerKind, kind.childLevel? = some other.level → other = inner)
    (index : Nat) : FitsSlot inner (part.sub index) := by
  cases fits with
  | empty => by_cases first : index = 0 <;> simp [Part.sub, first, FitsSlot.empty]
  | value rendered =>
      by_cases first : index = 0 <;> simp [Part.sub, first, FitsSlot.empty, FitsSlot.value]
  | @composite _ head slots level fit =>
      rw [only _ level] at fit
      rw [Part.sub, List.getD_eq_getElem?_getD]
      cases found : slots[index]? with
      | none => exact .empty inner
      | some slot => exact fit slot (List.mem_of_getElem? found)

theorem FitsSlot.sub_segment {part : Part} (fits : FitsSlot .segment part) (index : Nat) :
    FitsSlot .field (part.sub index) := by
  apply fits.sub
  intro other level
  rcases composite_kind level with ⟨-, composite⟩ | ⟨apart, -⟩
  · exact composite
  · cases apart

theorem FitsSlot.sub_field {part : Part} (fits : FitsSlot .field part) (index : Nat) :
    FitsSlot .component (part.sub index) := by
  apply fits.sub
  intro other level
  rcases composite_kind level with ⟨apart, -⟩ | ⟨-, composite⟩
  · cases apart
  · exact composite

/-- What stands in a component is an escaped leaf. -/
theorem FitsSlot.toList_text_component {part : Part} (fits : FitsSlot .component part) :
    (part.text table).toList = (part.leaf table).toList.flatMap marks.release := by
  cases fits with
  | empty => rfl
  | value _ rendered => exact marks.toList_escapeText (rendered.text table)
  | composite level =>
      rcases composite_kind level with ⟨apart, -⟩ | ⟨apart, -⟩ <;> cases apart

/-- The cells of a segment are the texts of its leaves. -/
theorem decodeCell_eq {slots : List Part} (fit : ∀ slot ∈ slots, FitsSlot .segment slot)
    (slot component subComponent : Nat) :
    decodeCell marks (slots.map fun part => (part.text table).toList) slot component
        subComponent =
      (((slots.getD slot .empty).sub component).sub subComponent).leaf table := by
  have apart := marks.nodup_separators
  have field : (slots.map fun part => (part.text table).toList).getD slot [] =
      ((slots.getD slot .empty).text table).toList := by
    rw [List.getD_eq_getElem?_getD, List.getD_eq_getElem?_getD, List.getElem?_map]
    cases slots[slot]? <;> rfl
  have fits : FitsSlot .segment (slots.getD slot .empty) := by
    rw [List.getD_eq_getElem?_getD]
    cases found : slots[slot]? with
    | none => exact .empty _
    | some part => exact fit part (List.mem_of_getElem? found)
  generalize slots.getD slot .empty = part at field fits
  have inField := fits.sub_segment component
  have components := fits.getD_cut_text marks (fun index =>
    (fits.sub_segment index).closed_ne marks (slotMark_mem_all marks .segment)
      (by simp_all [finerMarks, slotMark])) component
  have subComponents := inField.getD_cut_text marks (fun index =>
    (inField.sub_field index).closed_ne marks (slotMark_mem_all marks .field)
      (by simp [finerMarks])) subComponent
  have leaf := (inField.sub_field subComponent).toList_text_component marks
  dsimp only [slotMark] at components subComponents
  simp only [decodeCell]
  rw [field, components, subComponents, leaf, marks.unescape_flatMap_release,
    String.ofList_toList]

/-! ## Segments -/

theorem join_append (first second : List String) :
    String.join (first ++ second) = String.join first ++ String.join second := by
  induction first with
  | nil => simp [String.join_nil]
  | cons text rest ih =>
      rw [List.cons_append, String.join_cons, String.join_cons, ih, String.append_assoc]

theorem join_flatMap {α : Type} (texts : α → List String) (parts : List α) :
    String.join (parts.flatMap texts) = String.join (parts.map fun part =>
      String.join (texts part)) := by
  induction parts with
  | nil => rfl
  | cons part rest ih =>
      rw [List.flatMap_cons, join_append, ih, List.map_cons, String.join_cons]

/-- The text of a coded occurrence up to its terminator. -/
def segmentText (table : Delimiter.Table) (occurrence : Head × List Part) : String :=
  Text.join table.field (occurrence.1.code.getD "" :: texts table occurrence.2)

/-- The text of a segment is that of its coded occurrences, each with its terminator. -/
theorem IsSegment.text_eq {part : Part} (stands : part.IsSegment)
    (table : Delimiter.Table) :
    part.text table =
      String.join (part.coded.map fun occurrence =>
        segmentText table occurrence ++ table.segment) := by
  induction stands with
  | @segment head slots nested level unused fit inner ih =>
      have nestedText : String.join (texts table nested) =
          String.join ((nested.flatMap coded).map fun occurrence =>
            segmentText table occurrence ++ table.segment) := by
        rw [texts_eq_map, List.map_congr_left ih, List.map_flatMap, join_flatMap]
      rw [coded_container fit, List.map_append, join_append, ← nestedText]
      cases isCoded : head.isCoded with
      | true =>
          obtain ⟨kind, fields⟩ := head.isCoded_iff.mp isCoded
          rw [text, kind, fields]
          simp [segmentText, join_cons, texts_eq_map, String.join_cons, String.join_nil,
            String.append_assoc]
      | false =>
          rw [text]
          cases kind : head.kind with
          | segmentGroup => simp [String.join_nil]
          | segment =>
              have without : head.hasFields = false := by simpa [Head.isCoded, kind] using isCoded
              simp [without, String.join_nil]
          | field => simp [kind, ContainerKind.level] at level
          | component => simp [kind, ContainerKind.level] at level

/-- A coded occurrence is a segment, and its slots stand where they may. -/
theorem IsSegment.fit_of_mem_coded {part : Part} (stands : part.IsSegment)
    {occurrence : Head × List Part} (member : occurrence ∈ part.coded) :
    ∀ slot ∈ occurrence.2, FitsSlot .segment slot := by
  induction stands with
  | @segment head slots nested level unused fit inner ih =>
      rw [coded_container fit, List.mem_append, List.mem_flatMap] at member
      rcases member with own | ⟨segment, inNested, member⟩
      · cases isCoded : head.isCoded with
        | false =>
            rw [isCoded] at own
            cases own
        | true =>
            rw [isCoded, if_pos rfl, List.mem_singleton] at own
            subst own
            rwa [(head.isCoded_iff.mp isCoded).1] at fit
      · exact ih segment inNested member

section

variable {occurrence : Head × List Part}

/-- The code and the slots of a segment do not have the coarser marks. -/
theorem closed_of_mem_fields (fit : ∀ slot ∈ occurrence.2, FitsSlot .segment slot)
    (plain : ∀ c ∈ (occurrence.1.code.getD "").toList, c ∉ marks.all) {mark : Char}
    (isMark : mark ∈ marks.all) (coarser : mark ∉ finerMarks marks .segment) :
    ∀ field ∈ occurrence.1.code.getD "" :: texts table occurrence.2,
      Closed marks.escape (· ≠ mark) field.toList := by
  rw [texts_eq_map, List.forall_mem_cons]
  constructor
  · apply Closed.of_forall
    intro c member
    constructor
    · rintro rfl
      exact plain c member isMark
    · rintro rfl
      exact plain _ member marks.escape_mem_all
  · intro field member
    obtain ⟨slot, inSlots, rfl⟩ := List.mem_map.mp member
    exact (fit slot inSlots).closed_ne marks isMark coarser

/-- A segment that has been cut off is decoded to its grid. -/
theorem decodeSegment_segmentText (fit : ∀ slot ∈ occurrence.2, FitsSlot .segment slot)
    (plain : ∀ c ∈ (occurrence.1.code.getD "").toList, c ∉ marks.all) :
    decodeSegment marks (segmentText table occurrence).toList = gridOf table occurrence := by
  have apart := marks.nodup_separators
  have escape : ∀ c ∈ (occurrence.1.code.getD "").toList, c ≠ marks.escape := by
    rintro c member rfl
    exact plain _ member marks.escape_mem_all
  have closed := closed_of_mem_fields marks fit plain
    (by simp [Marks.all] : marks.field ∈ marks.all) (by simp_all [finerMarks])
  have fields : cut marks.escape marks.field (segmentText table occurrence).toList =
      (occurrence.1.code.getD "").toList ::
        occurrence.2.map fun slot => (slot.text table).toList := by
    rw [segmentText, marks.field_eq,
      Delimiter.cut_join (by simp_all) (List.cons_ne_nil _ _) closed, texts_eq_map,
      List.map_cons, List.map_map]
    rfl
  apply Grid.ext
  · simp only [decodeSegment, fields, List.headD_cons, gridOf]
    rw [Delimiter.unescape_eq_self escape, String.ofList_toList]
  · funext slot component subComponent
    simp only [decodeSegment, fields, List.tail_cons, gridOf]
    exact decodeCell_eq marks fit slot component subComponent

end

/-- Cutting at the terminators gives the segments. -/
theorem cut_segments {occurrences : List (Head × List Part)}
    (fit : ∀ occurrence ∈ occurrences, ∀ slot ∈ occurrence.2, FitsSlot .segment slot)
    (plain : ∀ occurrence ∈ occurrences,
      ∀ c ∈ (occurrence.1.code.getD "").toList, c ∉ marks.all) :
    cut marks.escape marks.segment
        (String.join (occurrences.map fun occurrence =>
          segmentText table occurrence ++ table.segment)).toList =
      (occurrences.map fun occurrence => (segmentText table occurrence).toList) ++ [[]] := by
  have apart := marks.nodup_separators
  induction occurrences with
  | nil => rfl
  | cons occurrence rest ih =>
      rw [List.forall_mem_cons] at fit plain
      have closed : Closed marks.escape (· ≠ marks.segment)
          (segmentText table occurrence).toList := by
        rw [segmentText, marks.field_eq]
        exact Delimiter.closed_join (by simp_all) (by simp_all; tauto)
          (closed_of_mem_fields marks fit.1 plain.1 (by simp [Marks.all])
            (by simp_all [finerMarks]))
      rw [List.map_cons, String.join_cons, String.toList_append, String.toList_append,
        marks.segment_eq, String.toList_singleton, List.append_assoc, List.singleton_append,
        closed.cut_append_mark (by simp_all), ← marks.segment_eq, ih fit.2 plain.2]
      rfl

/-- The text of a segment is decoded to its grids. -/
theorem IsSegment.decode_text {part : Part} (stands : part.IsSegment)
    (plain : ∀ occurrence ∈ part.coded,
      ∀ c ∈ (occurrence.1.code.getD "").toList, c ∉ marks.all) :
    decode marks (part.text table) = part.grids table := by
  have fit := fun occurrence (member : occurrence ∈ part.coded) =>
    stands.fit_of_mem_coded member
  rw [decode, stands.text_eq, cut_segments marks fit plain, List.dropLast_concat,
    List.map_map]
  apply List.map_congr_left
  intro occurrence member
  exact decodeSegment_segmentText marks (fit occurrence member) (plain occurrence member)

end Part

end Reading

namespace Compiler

open Codec (CompiledType)
open Delimiter (Marks)
open Reading
open Schema (Container Model NodeId)

variable {table : Delimiter.Table}

/-- What a type writes for a container is decoded to what the container reads. -/
structure WritesDecodably (marks : Marks table) (root : Container) (type : CompiledType) :
    Prop where
  /-- The grids of a written bean are decoded, and the schema fixes their shape. -/
  decode_encode : ∀ bean text, type.encode table bean = .ok text →
    ∃ part, readContainer root bean = .ok part ∧ decode marks text = part.grids table ∧
      ∀ occurrence ∈ part.occurrences, ∃ origin ∈ root.containers,
        occurrence.1 = headOf origin ∧
          occurrence.2.length = Schema.declaredSlots origin.children
  /-- Beans with different grids are written differently. -/
  encode_ne : ∀ first second firstPart secondPart,
    readContainer root first = .ok firstPart → readContainer root second = .ok secondPart →
      firstPart.grids table ≠ secondPart.grids table →
        type.encode table first ≠ type.encode table second

/-- What is written for a reading is decoded to its grids. -/
theorem decode_text_of_reading (marks : Marks table) {root : Container}
    (group : root.kind = .segmentGroup) (sound : root.Sound)
    (plain : ∀ container ∈ root.containers, container.kind = .segment →
      ∀ c ∈ (container.code.getD "").toList, c ∉ marks.all)
    {bean : Bean} {part : Part} (read : readContainer root bean = .ok part) :
    decode marks (part.trim.text table) = part.grids table := by
  have stands := isSegment_of_readContainer sound group read
  have decoded : decode marks (part.trim.text table) = part.trim.grids table := by
    apply stands.trim.decode_text marks
    intro occurrence member
    have inGrids : gridOf table occurrence ∈ part.grids table := by
      rw [← stands.grids_trim]
      exact List.mem_map_of_mem member
    obtain ⟨other, inCoded, same⟩ := List.mem_map.mp inGrids
    have code : other.1.code.getD "" = occurrence.1.code.getD "" := congrArg Grid.code same
    obtain ⟨inPart, isCoded⟩ := List.mem_filter.mp inCoded
    obtain ⟨origin, inTree, head, -⟩ := occursIn_of_readContainer root read other inPart
    rw [head] at isCoded code
    rw [← code]
    exact plain origin inTree ((headOf origin).isCoded_iff.mp isCoded).1
  rw [decoded, stands.grids_trim]

/-- A table whose marks are all used. -/
def fullTable : Delimiter.Table where
  segment := "'"
  field := "+"
  fieldRepeat := "*"
  component := ":"
  subComponent := "&"
  decimalSeparator := "."
  escape := some "?"

/-- The marks of the table. -/
def fullMarks : Marks fullTable where
  segment := '\''
  field := '+'
  fieldRepeat := some '*'
  component := ':'
  subComponent := '&'
  escape := '?'
  segment_eq := rfl
  field_eq := rfl
  fieldRepeat_eq := rfl
  component_eq := rfl
  subComponent_eq := rfl
  escape_eq := rfl
  distinct := by decide

end Compiler

end FlatMessage
