import FlatMessage.Proofs.Standing

/-!
# Grids of leaf texts

A segment occurrence that writes its code fills a grid: the text of the leaf with a
number in the component with a number in the slot with a number.  Where there is no such
leaf, the grid reads as empty; a leaf that stands higher up is the only thing in its
slot or component.

Trimming a reading does not change its grids.
-/

namespace FlatMessage

/-- An empty value has no text under any table. -/
theorem Rendered.text_of_isEmpty {rendered : Rendered} (empty : rendered.isEmpty = true)
    (table : Delimiter.Table) : rendered.text table = "" := by
  cases rendered with
  | plain content =>
      obtain rfl : content = "" := by simpa [isEmpty] using empty
      rfl
  | numeral content =>
      obtain rfl : content = "" := by simpa [isEmpty] using empty
      rw [text]
      split <;> rfl

namespace Reading

open Schema (ContainerKind)

namespace Part

/-- What stands in a part at a number: a slot of an occurrence; a leaf is the only thing
in its place. -/
def sub (part : Part) (index : Nat) : Part :=
  match part with
  | .container _ slots _ => slots.getD index .empty
  | leaf => if index = 0 then leaf else .empty

/-- The text of a leaf; anything else reads as empty. -/
def leaf (table : Delimiter.Table) : Part → String
  | .value rendered => rendered.text table
  | _ => ""

/-- The occurrences in a part that write their codes, in the order of their codes. -/
def coded (part : Part) : List (Head × List Part) :=
  part.occurrences.filter (·.1.isCoded)

end Part

/-- What a segment occurrence is filled with. -/
@[ext]
structure Grid where
  code : String
  /-- The text by slot, component and sub-component. -/
  cell : Nat → Nat → Nat → String

/-- The grid of an occurrence under a table. -/
def gridOf (table : Delimiter.Table) (occurrence : Head × List Part) : Grid where
  code := occurrence.1.code.getD ""
  cell slot component subComponent :=
    (((occurrence.2.getD slot .empty).sub component).sub subComponent).leaf table

/-- The grids of the segment occurrences in a part. -/
def Part.grids (table : Delimiter.Table) (part : Part) : List Grid :=
  part.coded.map (gridOf table)

namespace Part

/-! ## Coded occurrences -/

/-- There are no codes in slots. -/
theorem FitsSlot.coded_eq_nil {kind : ContainerKind} {part : Part}
    (fits : FitsSlot kind part) : part.coded = [] := by
  induction fits with
  | empty kind => rfl
  | value kind rendered => rfl
  | composite level fit ih =>
      have plain := isCoded_of_composite level
      rw [coded, occurrences, occurrencesOf_eq_flatMap, List.filter_cons, plain,
        if_neg Bool.false_ne_true, List.filter_append, List.filter_flatMap]
      exact congrArg (· ++ _) (List.flatMap_eq_nil_iff.mpr ih)

/-- The codes of a segment come one after the other: its own, then the nested ones. -/
theorem coded_container {head : Head} {slots nested : List Part}
    (fit : ∀ slot ∈ slots, FitsSlot head.kind slot) :
    (container head slots nested).coded =
      (if head.isCoded then [(head, slots)] else []) ++ nested.flatMap coded := by
  have none : slots.flatMap coded = [] :=
    List.flatMap_eq_nil_iff.mpr fun slot member => (fit slot member).coded_eq_nil
  have inSlots : (slots.flatMap occurrences).filter (·.1.isCoded) = slots.flatMap coded :=
    List.filter_flatMap
  have inNested : (nested.flatMap occurrences).filter (·.1.isCoded) = nested.flatMap coded :=
    List.filter_flatMap
  rw [coded, occurrences, occurrencesOf_eq_flatMap, occurrencesOf_eq_flatMap,
    List.filter_cons, List.filter_append, inSlots, inNested, none, List.nil_append]
  cases head.isCoded <;> rfl

/-! ## Trimmed grids -/

/-- A part reads like another: it is the other one trimmed, or both read as empty. -/
def ReadsLike (part origin : Part) : Prop :=
  part = origin.trim ∨ (part = .empty ∧ origin.holds = false)

/-- Where no slot holds anything, nothing is found at a number. -/
theorem holds_getD {slots : List Part} (blank : ∀ slot ∈ slots, slot.holds = false)
    (index : Nat) : (slots.getD index .empty).holds = false := by
  rw [List.getD_eq_getElem?_getD]
  cases found : slots[index]? with
  | none => rfl
  | some slot => exact blank slot (List.mem_of_getElem? found)

theorem readsLike_getD_kept (head : Head) (slots : List Part) (index : Nat) :
    ReadsLike (((kept head slots).map trim).getD index .empty) (slots.getD index .empty) := by
  obtain ⟨dropped, all, blank⟩ := exists_kept_append head slots
  rw [List.getD_eq_getElem?_getD, List.getD_eq_getElem?_getD, List.getElem?_map]
  by_cases within : index < (kept head slots).length
  · have same : slots[index]? = (kept head slots)[index]? := by
      conv_lhs => rw [all]
      exact List.getElem?_append_left within
    rw [same, List.getElem?_eq_getElem within]
    exact .inl rfl
  · have later : slots[index]? = dropped[index - (kept head slots).length]? := by
      conv_lhs => rw [all]
      exact List.getElem?_append_right (Nat.not_lt.mp within)
    rw [later, List.getElem?_eq_none (Nat.not_lt.mp within)]
    have empty := holds_getD blank (index - (kept head slots).length)
    rw [List.getD_eq_getElem?_getD] at empty
    exact .inr ⟨rfl, empty⟩

theorem holds_sub {part : Part} (none : part.holds = false) (index : Nat) :
    (part.sub index).holds = false := by
  cases part with
  | empty => by_cases first : index = 0 <;> simp [sub, first, holds]
  | value rendered =>
      by_cases first : index = 0
      · simpa [sub, first] using none
      · simp [sub, first, holds]
  | container head slots nested =>
      simp only [holds, anyHolds_eq_any, Bool.or_eq_false_iff, List.any_eq_false] at none
      apply holds_getD
      intro slot member
      exact Bool.eq_false_iff.mpr (none.1.2 slot member)

theorem ReadsLike.sub {part origin : Part} (like : ReadsLike part origin) (index : Nat) :
    ReadsLike (part.sub index) (origin.sub index) := by
  rcases like with rfl | ⟨rfl, none⟩
  · cases origin with
    | empty => by_cases first : index = 0 <;> simp [ReadsLike, Part.sub, first, trim]
    | value rendered =>
        by_cases first : index = 0 <;> simp [ReadsLike, Part.sub, first, trim]
    | container head slots nested =>
        rw [trim_container]
        exact readsLike_getD_kept head slots index
  · have empty : Part.empty.sub index = .empty := by
      by_cases first : index = 0 <;> simp [Part.sub, first]
    exact .inr ⟨empty, holds_sub none index⟩

theorem ReadsLike.leaf_eq {part origin : Part} (like : ReadsLike part origin)
    (table : Delimiter.Table) : part.leaf table = origin.leaf table := by
  rcases like with rfl | ⟨rfl, none⟩
  · cases origin <;> rfl
  · cases origin with
    | empty => rfl
    | value rendered =>
        have empty : rendered.isEmpty = true := by simpa [holds] using none
        exact (Rendered.text_of_isEmpty empty table).symm
    | container head slots nested => rfl

/-- An occurrence that keeps fewer slots has the same grid. -/
theorem gridOf_kept (table : Delimiter.Table) (head : Head) (slots : List Part) :
    gridOf table (head, (kept head slots).map trim) = gridOf table (head, slots) := by
  apply Grid.ext
  · rfl
  · funext slot component subComponent
    have like := readsLike_getD_kept head slots slot
    exact ((like.sub component).sub subComponent).leaf_eq table

/-- The grids of a segment are its own, if it has a code, and those of nested segments. -/
theorem grids_container (table : Delimiter.Table) {head : Head} {slots nested : List Part}
    (fit : ∀ slot ∈ slots, FitsSlot head.kind slot) :
    (container head slots nested).grids table =
      (if head.isCoded then [gridOf table (head, slots)] else []) ++
        nested.flatMap (grids table) := by
  rw [grids, coded_container fit, List.map_append, List.map_flatMap]
  cases head.isCoded <;> rfl

/-- Trimming does not change what the grids of a segment are filled with. -/
theorem IsSegment.grids_trim {part : Part} (stands : part.IsSegment)
    (table : Delimiter.Table) : part.trim.grids table = part.grids table := by
  induction stands with
  | @segment head slots nested level unused fit inner ih =>
      have fitTrimmed : ∀ slot ∈ (kept head slots).map Part.trim,
          FitsSlot head.kind slot := by
        intro part member
        obtain ⟨slot, inKept, rfl⟩ := List.mem_map.mp member
        exact (fit slot ((kept_isPrefix head slots).subset inKept)).trim
      rw [trim_container, grids_container table fitTrimmed, grids_container table fit,
        gridOf_kept, List.flatMap_map]
      exact congrArg (_ ++ ·) (List.flatMap_congr ih)

end Part

end Reading

end FlatMessage
