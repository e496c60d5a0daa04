import FlatMessage.Proofs.Located
import FlatMessage.Proofs.Truncation.Cleared

/-!
# What truncation drops

Clearing the truncatable flag of chosen containers only puts pieces back.  A piece that
truncation drops trails: it lies in a slot of an occurrence of a chosen container, and
every value of that occurrence that is not empty lies in an earlier slot.  What is kept
keeps its path, so values keep their slots.
-/

namespace FlatMessage

open Schema (ContainerKind NodeId)

namespace Reading

open Codec (Piece)
open Delimiter (Level)

/-! ## Pieces that trail -/

/-- A piece comes after the last slot with a value of an occurrence of a chosen
container, anywhere in its slots if none of them has a value. -/
def Trails (chosen : NodeId → Bool) (whole : List Located) (located : Located) : Prop :=
  ∃ outer id index inner,
    located.path = outer ++ .slot id index :: inner ∧ chosen id = true ∧
      ∀ other ∈ whole, other.Holds → ∀ later rest,
        other.path = outer ++ .slot id later :: rest → later < index

/-- A place of the outermost occurrence is a slot that comes after all of its values. -/
def Beyond (chosen : NodeId → Bool) (whole : List Located) (place : Place) : Prop :=
  ∃ id index, place = .slot id index ∧ chosen id = true ∧
    ∀ other ∈ whole, other.Holds → ∀ later rest,
      other.path = .slot id later :: rest → later < index

variable {chosen : NodeId → Bool}

/-- A piece of the outermost occurrence itself does not trail. -/
theorem not_trails_of_path_eq_nil (whole : List Located) {located : Located}
    (own : located.path = []) : ¬Trails chosen whole located := by
  rintro ⟨outer, id, index, inner, path, -⟩
  rw [own] at path
  cases outer <;> cases path

/-- A piece in a place trails if the place comes after all values, or if it trails in
what is in that place. -/
theorem trails_inside_iff {whole inside : List Located} {place : Place}
    (agree : ∀ other : Located, other.Holds →
      (other.inside place ∈ whole ↔ other ∈ inside)) (located : Located) :
    Trails chosen whole (located.inside place) ↔
      Beyond chosen whole place ∨ Trails chosen inside located := by
  constructor
  · rintro ⟨outer, id, index, inner, path, isChosen, earlier⟩
    cases outer with
    | nil =>
        rw [Located.path_inside, List.nil_append, List.cons.injEq] at path
        exact .inl ⟨id, index, path.1, isChosen, earlier⟩
    | cons first outer =>
        rw [Located.path_inside, List.cons_append, List.cons.injEq] at path
        obtain ⟨rfl, path⟩ := path
        right
        have before : ∀ other ∈ inside, other.Holds → ∀ later rest,
            other.path = outer ++ .slot id later :: rest → later < index := by
          intro other member holds later rest same
          apply earlier (other.inside place) ((agree other holds).mpr member) holds later rest
          rw [Located.path_inside, same, List.cons_append]
        exact ⟨outer, id, index, inner, path, isChosen, before⟩
  · rintro (⟨id, index, rfl, isChosen, earlier⟩ |
      ⟨outer, id, index, inner, path, isChosen, earlier⟩)
    · exact ⟨[], id, index, located.path, rfl, isChosen, earlier⟩
    · have before : ∀ other ∈ whole, other.Holds → ∀ later rest,
          other.path = (place :: outer) ++ .slot id later :: rest → later < index := by
        rintro ⟨path, piece⟩ member holds later rest same
        dsimp only at same
        subst same
        have there := (agree ⟨outer ++ .slot id later :: rest, piece⟩ holds).mp member
        exact earlier _ there holds later rest rfl
      have longer : (located.inside place).path = (place :: outer) ++ .slot id index :: inner := by
        rw [Located.path_inside, path, List.cons_append]
      exact ⟨place :: outer, id, index, inner, longer, isChosen, before⟩

theorem not_beyond_nested (whole : List Located) (id : NodeId) (index : Nat) :
    ¬Beyond chosen whole (.nested id index) := by
  rintro ⟨_, _, same, -⟩
  cases same

/-! ## Pieces that stand -/

open Classical in
/-- The pieces of a list that do not trail in it. -/
noncomputable def standing (chosen : NodeId → Bool) (whole : List Located) :
    List Located :=
  whole.filter fun located => ¬Trails chosen whole located

theorem mem_standing_iff {whole : List Located} {located : Located} :
    located ∈ standing chosen whole ↔ located ∈ whole ∧ ¬Trails chosen whole located := by
  simp [standing]

open Classical in
/-- The pieces of the outermost occurrence itself stand. -/
theorem filter_own (whole : List Located) {row : List Located}
    (own : ∀ located ∈ row, located.path = []) :
    row.filter (fun located => ¬Trails chosen whole located) = row := by
  rw [List.filter_eq_self]
  intro located member
  exact decide_eq_true (not_trails_of_path_eq_nil whole (own located member))

open Classical in
/-- In a place that is not beyond all values, what stands is what stands in there. -/
theorem filter_inside {whole inside : List Located} {place : Place}
    (notBeyond : ¬Beyond chosen whole place)
    (agree : ∀ other : Located, other.Holds → (other.inside place ∈ whole ↔ other ∈ inside))
    (row : List Located) :
    row.filter (fun inner => ¬Trails chosen whole (inner.inside place)) =
      row.filter (fun inner => ¬Trails chosen inside inner) := by
  apply List.filter_congr
  intro inner _
  rw [trails_inside_iff agree]
  simp only [notBeyond, false_or]

open Classical in
/-- Nothing stands in a place that is beyond all values. -/
theorem filter_inside_of_beyond {whole : List Located} {place : Place}
    (beyond : Beyond chosen whole place) (row : List Located) :
    row.filter (fun inner => ¬Trails chosen whole (inner.inside place)) = [] := by
  rw [List.filter_eq_nil_iff]
  intro inner _
  obtain ⟨id, index, rfl, isChosen, earlier⟩ := beyond
  have trails : Trails chosen whole (inner.inside (.slot id index)) :=
    ⟨[], id, index, inner.path, rfl, isChosen, earlier⟩
  simpa using trails

namespace Part

/-! ## Parts without truncation -/

/-- Clearing flags does not change what holds a value. -/
@[simp]
theorem holds_withoutTruncation (chosen : NodeId → Bool) (part : Part) :
    (part.withoutTruncation chosen).holds = part.holds := by
  induction part using Part.induction with
  | empty => rfl
  | value rendered => rfl
  | container head slots nested slotsHold nestedHold =>
      have same : ∀ parts : List Part,
          (∀ part ∈ parts, (part.withoutTruncation chosen).holds = part.holds) →
            (partsWithoutTruncation chosen parts).any holds = parts.any holds := by
        intro parts
        induction parts with
        | nil => intro _; rfl
        | cons first rest ih =>
            intro eachHolds
            rw [List.forall_mem_cons] at eachHolds
            rw [partsWithoutTruncation, List.any_cons, List.any_cons, eachHolds.1,
              ih eachHolds.2]
      simp only [withoutTruncation, holds, anyHolds_eq_any, same slots slotsHold,
        same nested nestedHold]
      rfl

theorem FitsSlot.withoutTruncation {kind : ContainerKind} {part : Part}
    (fits : FitsSlot kind part) : FitsSlot kind (part.withoutTruncation chosen) := by
  induction fits with
  | empty kind => exact .empty kind
  | value kind rendered => exact .value kind rendered
  | @composite kind head slots level fit ih =>
      have cleared : ∀ slot ∈ partsWithoutTruncation chosen slots,
          FitsSlot head.kind slot := by
        intro slot member
        rw [partsWithoutTruncation_eq_map, List.mem_map] at member
        obtain ⟨origin, inSlots, rfl⟩ := member
        exact ih origin inSlots
      exact .composite level cleared

theorem IsSegment.withoutTruncation {part : Part} (stands : part.IsSegment) :
    (part.withoutTruncation chosen).IsSegment := by
  induction stands with
  | @segment head slots nested level unused fit inner ih =>
      have unusedCleared : head.hasFields = false →
          partsWithoutTruncation chosen slots = [] := by
        intro without
        rw [unused without]
        rfl
      have fitCleared : ∀ slot ∈ partsWithoutTruncation chosen slots,
          FitsSlot head.kind slot := by
        intro slot member
        rw [partsWithoutTruncation_eq_map, List.mem_map] at member
        obtain ⟨origin, inSlots, rfl⟩ := member
        exact (fit origin inSlots).withoutTruncation
      have innerCleared : ∀ segment ∈ partsWithoutTruncation chosen nested,
          segment.IsSegment := by
        intro segment member
        rw [partsWithoutTruncation_eq_map, List.mem_map] at member
        obtain ⟨origin, inNested, rfl⟩ := member
        exact ih origin inNested
      exact .segment level unusedCleared fitCleared innerCleared

/-- A part without truncation at the chosen containers, trimmed. -/
def whole (chosen : NodeId → Bool) (part : Part) : Part :=
  (part.withoutTruncation chosen).trim

@[simp]
theorem holds_whole (chosen : NodeId → Bool) (part : Part) :
    (part.whole chosen).holds = part.holds := by
  rw [whole, holds_trim, holds_withoutTruncation]

theorem whole_container (head : Head) (slots nested : List Part) :
    (container head slots nested).whole chosen =
      .container (head.withoutTruncation chosen)
        ((kept (head.withoutTruncation chosen) slots).map (whole chosen))
        (nested.map (whole chosen)) := by
  rw [whole, withoutTruncation, trim_container, partsWithoutTruncation_eq_map,
    partsWithoutTruncation_eq_map, kept_map (holds_withoutTruncation chosen), List.map_map,
    List.map_map]
  rfl

/-- A container keeps no more slots than it would without truncation.  The others hold
nothing; there are some only if it is chosen, and then the last slot that it keeps holds
a value. -/
theorem kept_withoutTruncation {head : Head}
    (flag : chosen head.id = true → head.truncatable = true) (slots : List Part) :
    ∃ dropped, kept (head.withoutTruncation chosen) slots = kept head slots ++ dropped ∧
      (∀ slot ∈ dropped, slot.holds = false) ∧
      (dropped ≠ [] → chosen head.id = true) ∧
      (chosen head.id = true → ∀ last ∈ (kept head slots).getLast?, last.holds = true) := by
  cases isChosen : chosen head.id with
  | false =>
      have same : kept (head.withoutTruncation chosen) slots = kept head slots ++ [] := by
        simp [kept, Head.withoutTruncation, isChosen]
      exact ⟨[], same, List.forall_mem_nil _, fun filled => absurd rfl filled,
        fun never => absurd never Bool.false_ne_true⟩
  | true =>
      have all : kept (head.withoutTruncation chosen) slots = slots := by
        simp [kept, Head.withoutTruncation, isChosen]
      obtain ⟨dropped, parts, blank⟩ := exists_kept_append head slots
      exact ⟨dropped, all.trans parts, blank, fun _ => rfl,
        fun _ last member => holds_of_mem_getLast?_kept (flag isChosen) member⟩

/-! ## Dropping the pieces that trail -/

/-- Whether a slot holds a value shows in its pieces. -/
def Marked (part : Part) : Prop :=
  part.holds = true ↔ ∃ located ∈ part.located, located.Holds

section

variable {head : Head} {slots nested : List Part}

/-- The values in a slot of an occurrence. -/
theorem inside_slot_mem_iff {level : Level} (delimited : head.kind.childLevel? = some level)
    {index : Nat} {located : Located} (holds : located.Holds) :
    located.inside (.slot head.id index) ∈ (container head slots nested).located ↔
      ∃ slot, slots[index]? = some slot ∧ located ∈ slot.located := by
  have rows : (head.rows (slots.map Part.located))[index]? =
      slots[index]?.map fun slot =>
        (if index = 0 then head.leading else some level).toList.map (⟨[], .delimiter ·⟩) ++
          slot.located := by
    rw [Head.rows, delimited]
    dsimp only
    rw [getElem?_separated, List.getElem?_map, Option.map_map]
    rfl
  rw [inside_slot_mem_located_iff, rows]
  constructor
  · rintro ⟨row, found, member⟩
    obtain ⟨slot, inSlots, rfl⟩ := Option.map_eq_some_iff.mp found
    rcases List.mem_append.mp member with delimiter | member
    · obtain ⟨level, -, rfl⟩ := List.mem_map.mp delimiter
      exact absurd holds (Located.not_holds_delimiter [] level)
    · exact ⟨slot, inSlots, member⟩
  · rintro ⟨slot, found, member⟩
    exact ⟨_, Option.map_eq_some_iff.mpr ⟨slot, found, rfl⟩, List.mem_append_right _ member⟩

/-- A slot comes after all values if no slot from it on holds one. -/
theorem beyond_slot_iff {level : Level} (delimited : head.kind.childLevel? = some level)
    (marked : ∀ slot ∈ slots, Marked slot) (index : Nat) :
    Beyond chosen (container head slots nested).located (.slot head.id index) ↔
      chosen head.id = true ∧ ∀ (later : Nat) (slot : Part), slots[later]? = some slot →
        slot.holds = true → later < index := by
  constructor
  · rintro ⟨_, _, same, isChosen, earlier⟩
    cases same
    apply And.intro isChosen
    intro later slot found holds
    obtain ⟨other, member, otherHolds⟩ :=
      (marked slot (List.mem_of_getElem? found)).mp holds
    have there : other.inside (.slot head.id later) ∈ (container head slots nested).located :=
      (inside_slot_mem_iff delimited otherHolds).mpr ⟨slot, found, member⟩
    exact earlier _ there otherHolds later other.path rfl
  · rintro ⟨isChosen, earlier⟩
    have before : ∀ other ∈ (container head slots nested).located, other.Holds →
        ∀ later rest, other.path = .slot head.id later :: rest → later < index := by
      rintro ⟨path, piece⟩ member holds later rest same
      dsimp only at same
      subst same
      have inner : (⟨rest, piece⟩ : Located).Holds := holds
      obtain ⟨slot, found, member⟩ := (inside_slot_mem_iff delimited inner).mp member
      exact earlier later slot found
        ((marked slot (List.mem_of_getElem? found)).mpr ⟨_, member, inner⟩)
    exact ⟨head.id, index, rfl, isChosen, before⟩

open Classical in
/-- What stands in the nested segments of an occurrence. -/
theorem filter_nested {changed : List Part}
    (stand : ∀ segment ∈ nested, standing chosen (segment.whole chosen).located =
      segment.trim.located) :
    (indexed (.nested head.id) (locatedOf (nested.map (whole chosen)))).filter
        (fun located => ¬Trails chosen
          (container head changed (nested.map (whole chosen))).located located) =
      indexed (.nested head.id) (locatedOf (nested.map trim)) := by
  rw [locatedOf_eq_map, locatedOf_eq_map, List.map_map, List.map_map]
  apply filter_indexed
  · rw [List.length_map, List.length_map]
  · intro index row found
    rw [List.getElem?_map, Option.map_eq_some_iff] at found
    obtain ⟨segment, found, rfl⟩ := found
    rw [List.getElem?_map, found, filter_inside (not_beyond_nested _ head.id index)]
    · exact stand segment (List.mem_of_getElem? found)
    · intro other _
      rw [inside_nested_mem_located_iff, List.getElem?_map, found]
      simp

/-- Of the slots that there are without truncation, those that come after all values
are those that are not kept. -/
theorem beyond_iff_length_le {level : Level} (delimited : head.kind.childLevel? = some level)
    (flag : chosen head.id = true → head.truncatable = true)
    (marked : ∀ slot ∈ slots, Marked (slot.whole chosen)) (changed : List Part)
    {index : Nat} (there : index < (kept (head.withoutTruncation chosen) slots).length) :
    Beyond chosen (container (head.withoutTruncation chosen)
        ((kept (head.withoutTruncation chosen) slots).map (whole chosen)) changed).located
        (.slot head.id index) ↔
      (kept head slots).length ≤ index := by
  have marked' : ∀ part ∈ (kept (head.withoutTruncation chosen) slots).map (whole chosen),
      Marked part := by
    intro part member
    obtain ⟨slot, inKept, rfl⟩ := List.mem_map.mp member
    exact marked slot ((kept_isPrefix _ slots).subset inKept)
  obtain ⟨dropped, all, blank, onlyChosen, lastHolds⟩ := kept_withoutTruncation flag slots
  apply (beyond_slot_iff delimited marked' index).trans
  rw [all] at there ⊢
  rw [List.length_append] at there
  constructor
  · rintro ⟨isChosen, earlier⟩
    by_contra within
    rw [Nat.not_le] at within
    have last : (kept head slots)[(kept head slots).length - 1]? =
        (kept head slots).getLast? := List.getLast?_eq_getElem?.symm
    cases found : (kept head slots).getLast? with
    | none =>
        rw [List.getLast?_eq_none_iff] at found
        rw [found] at within
        exact absurd within (Nat.not_lt_zero index)
    | some slot =>
        have inRow : ((kept head slots ++ dropped).map (whole chosen))[
            (kept head slots).length - 1]? = some (slot.whole chosen) := by
          rw [List.getElem?_map, List.getElem?_append_left (by omega), last, found,
            Option.map_some]
        have holds := lastHolds isChosen slot found
        have before := earlier _ _ inRow (by rw [holds_whole, holds])
        omega
  · intro after
    constructor
    · apply onlyChosen
      rintro rfl
      rw [List.length_nil] at there
      omega
    · intro later part found holds
      by_contra late
      rw [List.getElem?_map, List.getElem?_append_right (by omega),
        Option.map_eq_some_iff] at found
      obtain ⟨slot, inDropped, rfl⟩ := found
      rw [holds_whole, blank slot (List.mem_of_getElem? inDropped)] at holds
      cases holds

open Classical in
/-- What stands in a slot that does not come after all values: the delimiter before it,
and what stands in its part. -/
theorem filter_slot {level : Level} (delimited : head.kind.childLevel? = some level)
    {index : Nat} {slot : Part}
    (notBeyond : ¬Beyond chosen (container head slots nested).located (.slot head.id index))
    (found : slots[index]? = some slot) :
    ((if index = 0 then head.leading else some level).toList.map
        (⟨[], .delimiter ·⟩ : Level → Located) ++ slot.located).filter (fun inner =>
          ¬Trails chosen (container head slots nested).located
            (inner.inside (.slot head.id index))) =
      (if index = 0 then head.leading else some level).toList.map (⟨[], .delimiter ·⟩) ++
        standing chosen slot.located := by
  have agree : ∀ other : Located, other.Holds →
      (other.inside (.slot head.id index) ∈ (container head slots nested).located ↔
        other ∈ slot.located) := by
    intro other holds
    rw [inside_slot_mem_iff delimited holds, found]
    simp
  have delimiters : ∀ located ∈ (if index = 0 then head.leading
      else some level).toList.map (⟨[], .delimiter ·⟩ : Level → Located),
      located.path = [] := by
    intro located member
    obtain ⟨level, -, rfl⟩ := List.mem_map.mp member
    rfl
  rw [filter_inside notBeyond agree, List.filter_append, filter_own _ delimiters]
  rfl

open Classical in
/-- What stands in the slots of an occurrence. -/
theorem filter_slots (flag : chosen head.id = true → head.truncatable = true)
    {changed : List Part} (marked : ∀ slot ∈ slots, Marked (slot.whole chosen))
    (stand : ∀ slot ∈ slots,
      standing chosen (slot.whole chosen).located = slot.trim.located) :
    (indexed (.slot head.id) (head.rows (locatedOf
        ((kept (head.withoutTruncation chosen) slots).map (whole chosen))))).filter
        (fun located => ¬Trails chosen
          (container (head.withoutTruncation chosen)
            ((kept (head.withoutTruncation chosen) slots).map (whole chosen))
            changed).located located) =
      indexed (.slot head.id) (head.rows (locatedOf ((kept head slots).map trim))) := by
  cases delimited : head.kind.childLevel? with
  | none =>
      simp only [Head.rows, delimited]
      rfl
  | some level =>
      have rows : ∀ parts : List Part, head.rows (locatedOf parts) =
          separated head.leading level (parts.map Part.located) := by
        intro parts
        rw [Head.rows, delimited, locatedOf_eq_map]
      obtain ⟨dropped, all, -⟩ := kept_withoutTruncation flag slots
      rw [rows, rows]
      apply filter_indexed
      · simp [all]
      · intro index row found
        rw [getElem?_separated, List.getElem?_map, List.getElem?_map, Option.map_map,
          Option.map_map, Option.map_eq_some_iff] at found
        obtain ⟨slot, found, rfl⟩ := found
        have beyond := beyond_iff_length_le delimited flag marked changed
          (List.getElem?_eq_some_iff.mp found).1
        rw [getElem?_separated, List.getElem?_map, List.getElem?_map]
        by_cases within : index < (kept head slots).length
        · have same : (kept head slots)[index]? = some slot := by
            rwa [all, List.getElem?_append_left within] at found
          have inSlots : slot ∈ slots :=
            (kept_isPrefix head slots).subset (List.mem_of_getElem? same)
          have there : ((kept (head.withoutTruncation chosen) slots).map (whole chosen))[index]? =
              some (slot.whole chosen) := by
            rw [List.getElem?_map, found, Option.map_some]
          have row := filter_slot delimited (mt beyond.mp (Nat.not_le.mpr within)) there
          rw [stand slot inSlots] at row
          rw [same]
          exact row
        · rw [filter_inside_of_beyond (beyond.mpr (Nat.not_lt.mp within)),
            List.getElem?_eq_none (Nat.not_lt.mp within)]
          rfl

/-- A container drops from its slots and its nested segments what trails there, and the
slots that come after all its values. -/
theorem standing_container (flag : chosen head.id = true → head.truncatable = true)
    (marked : ∀ slot ∈ slots, Marked (slot.whole chosen))
    (slotsStand : ∀ slot ∈ slots,
      standing chosen (slot.whole chosen).located = slot.trim.located)
    (nestedStand : ∀ segment ∈ nested,
      standing chosen (segment.whole chosen).located = segment.trim.located) :
    standing chosen ((container head slots nested).whole chosen).located =
      (container head slots nested).trim.located := by
  have own : ∀ pieces : List Piece, ∀ located ∈ pieces.map (Located.mk []),
      located.path = [] := by
    intro pieces located member
    obtain ⟨piece, -, rfl⟩ := List.mem_map.mp member
    rfl
  have parts : ∀ (test : Located → Bool) (inSlots inNested : List Part),
      (container (head.withoutTruncation chosen) inSlots inNested).located.filter test =
        (head.opening.map (Located.mk [])).filter test ++
          (indexed (.slot head.id) (head.rows (locatedOf inSlots))).filter test ++
          (head.closing.map (Located.mk [])).filter test ++
          (indexed (.nested head.id) (locatedOf inNested)).filter test := by
    intro test inSlots inNested
    rw [← List.filter_append, ← List.filter_append, ← List.filter_append]
    rfl
  rw [whole_container, trim_container, standing, parts, filter_own _ (own _),
    filter_own _ (own _), filter_slots flag marked slotsStand]
  exact congrArg (_ ++ ·) (filter_nested nestedStand)

end

end Part

end Reading

end FlatMessage
