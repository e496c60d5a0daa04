import FlatMessage.Proofs.Truncation.Trailing

/-!
# Truncation is local

Truncating at chosen containers loses no value and moves none.  The model with and the
model without truncation write every bean with the same outcome; what the one writes is
what the other writes without the pieces that trail, all of them delimiters or empty
values.
-/

namespace FlatMessage

open Schema (Container ContainerKind Model Node NodeId)

namespace Reading

open Codec (Piece)

variable {chosen : NodeId → Bool}

namespace Part

/-! ## Readings that stand where they may -/

/-- The slots of a composite have delimiters. -/
theorem childLevel?_of_composite {kind : ContainerKind} {head : Head}
    (level : kind.childLevel? = some head.kind.level) :
    ∃ inner, head.kind.childLevel? = some inner := by
  rcases composite_kind level with ⟨-, composite⟩ | ⟨-, composite⟩ <;>
    exact ⟨_, by rw [composite]; rfl⟩

/-- The pieces of a composite are those of its slots. -/
theorem located_composite {kind : ContainerKind} {head : Head}
    (level : kind.childLevel? = some head.kind.level) (slots : List Part) :
    (container head slots []).located =
      indexed (.slot head.id) (head.rows (slots.map Part.located)) := by
  have plain : head.isCoded = false := isCoded_of_composite level
  simp [located, locatedOf_eq_map, locatedOf, Head.opening, Head.closing, plain]

/-- What holds a value in a slot has a piece that is a value. -/
theorem FitsSlot.marked {kind : ContainerKind} {part : Part} (fits : FitsSlot kind part) :
    Marked part := by
  induction fits with
  | empty kind => simp [Marked, holds, located]
  | value kind rendered => simp [Marked, holds, located, Located.Holds]
  | @composite kind head slots level fit ih =>
      obtain ⟨inner, delimited⟩ := childLevel?_of_composite level
      have plain : head.isCoded = false := isCoded_of_composite level
      have any : (container head slots []).holds = slots.any holds := by
        simp [holds, anyHolds_eq_any, plain, anyHolds]
      rw [Marked, any, List.any_eq_true]
      constructor
      · rintro ⟨slot, inSlots, holds⟩
        obtain ⟨index, found⟩ := List.mem_iff_getElem?.mp inSlots
        obtain ⟨located, member, locatedHolds⟩ := (ih slot inSlots).mp holds
        exact ⟨located.inside (.slot head.id index),
          (inside_slot_mem_iff delimited locatedHolds).mpr ⟨slot, found, member⟩, locatedHolds⟩
      · rintro ⟨located, member, holds⟩
        have inRows := member
        rw [located_composite level, mem_indexed] at inRows
        obtain ⟨index, row, -, other, -, rfl⟩ := inRows
        rw [Located.holds_inside] at holds
        obtain ⟨slot, found, inSlot⟩ := (inside_slot_mem_iff delimited holds).mp member
        have inSlots := List.mem_of_getElem? found
        exact ⟨slot, inSlots, (ih slot inSlots).mpr ⟨other, inSlot, holds⟩⟩

/-- Every occurrence of a chosen container in a part is truncatable. -/
def Flagged (chosen : NodeId → Bool) (part : Part) : Prop :=
  ∀ occurrence ∈ part.occurrences,
    chosen occurrence.1.id = true → occurrence.1.truncatable = true

theorem flagged_container_iff {head : Head} {slots nested : List Part} :
    (container head slots nested).Flagged chosen ↔
      (chosen head.id = true → head.truncatable = true) ∧
        (∀ slot ∈ slots, slot.Flagged chosen) ∧ ∀ segment ∈ nested, segment.Flagged chosen := by
  exact forall_mem_occurrences_iff

theorem FitsSlot.standing {kind : ContainerKind} {part : Part} (fits : FitsSlot kind part)
    (flagged : part.Flagged chosen) :
    standing chosen (part.whole chosen).located = part.trim.located := by
  induction fits with
  | empty kind => rfl
  | value kind rendered =>
      apply filter_own
      intro located member
      rw [List.mem_singleton.mp member]
  | composite level fit ih =>
      obtain ⟨flag, slotsFlagged, -⟩ := flagged_container_iff.mp flagged
      apply standing_container flag
      · intro slot member
        exact (fit slot member).withoutTruncation.trim.marked
      · intro slot member
        exact ih slot member (slotsFlagged slot member)
      · intro segment none
        cases none

/-- What is written with truncation is what stands of what is written without. -/
theorem IsSegment.standing {part : Part} (stands : part.IsSegment)
    (flagged : part.Flagged chosen) :
    standing chosen (part.whole chosen).located = part.trim.located := by
  induction stands with
  | segment level unused fit inner ih =>
      obtain ⟨flag, slotsFlagged, nestedFlagged⟩ := flagged_container_iff.mp flagged
      apply standing_container flag
      · intro slot member
        exact (fit slot member).withoutTruncation.trim.marked
      · intro slot member
        exact (fit slot member).standing (slotsFlagged slot member)
      · intro segment member
        exact ih segment member (nestedFlagged segment member)

/-! ## Only blank pieces trail -/

/-- A part in a slot has no codes. -/
theorem FitsSlot.delimiter_or_value {kind : ContainerKind} {part : Part}
    (fits : FitsSlot kind part) {piece : Located} (member : piece ∈ part.located) :
    (∃ level, piece.piece = .delimiter level) ∨
      ∃ rendered, piece.piece = .value rendered := by
  induction fits generalizing piece with
  | empty kind => cases member
  | value kind rendered =>
      rw [List.mem_singleton.mp member]
      exact .inr ⟨rendered, rfl⟩
  | composite level fit ih =>
      rw [located_composite level] at member
      obtain ⟨index, inner, rfl, ⟨level, rfl⟩ | ⟨slot, inSlots, member⟩⟩ :=
        exists_of_mem_slots member
      · exact .inl ⟨level, rfl⟩
      · rw [Located.piece_inside]
        exact ih slot inSlots member

/-- What lies in a slot of a segment is a delimiter or a value. -/
theorem IsSegment.delimiter_or_value {part : Part} (stands : part.IsSegment)
    {piece : Located} (member : piece ∈ part.located) {id : NodeId} {index : Nat}
    (inSlot : Place.slot id index ∈ piece.path) :
    (∃ level, piece.piece = .delimiter level) ∨
      ∃ rendered, piece.piece = .value rendered := by
  induction stands generalizing piece with
  | @segment head slots nested level unused fit inner ih =>
      rw [located, locatedOf_eq_map, locatedOf_eq_map, List.mem_append, List.mem_append,
        List.mem_append] at member
      rcases member with ((opening | member) | closing) | member
      · obtain ⟨code, -, rfl⟩ := List.mem_map.mp opening
        cases inSlot
      · obtain ⟨number, inner, rfl, ⟨level, rfl⟩ | ⟨slot, inSlots, member⟩⟩ :=
          exists_of_mem_slots member
        · exact .inl ⟨level, rfl⟩
        · rw [Located.piece_inside]
          exact (fit slot inSlots).delimiter_or_value member
      · obtain ⟨delimiter, -, rfl⟩ := List.mem_map.mp closing
        cases inSlot
      · obtain ⟨number, row, found, inner, member, rfl⟩ := mem_indexed.mp member
        rw [List.getElem?_map, Option.map_eq_some_iff] at found
        obtain ⟨segment, found, rfl⟩ := found
        rw [Located.path_inside, List.mem_cons] at inSlot
        rcases inSlot with same | inSlot
        · cases same
        · rw [Located.piece_inside]
          exact ih segment (List.mem_of_getElem? found) member inSlot

end Part

/-- A piece without a value: a delimiter or an empty value. -/
def Located.IsBlank (located : Located) : Prop :=
  (∃ level, located.piece = .delimiter level) ∨
    ∃ rendered, located.piece = .value rendered ∧ rendered.isEmpty = true

/-- A value that is not empty does not trail in the list that it stands in. -/
theorem not_trails_of_holds {whole : List Located} {located : Located}
    (member : located ∈ whole) (holds : located.Holds) : ¬Trails chosen whole located := by
  rintro ⟨outer, id, index, inner, path, -, earlier⟩
  exact Nat.lt_irrefl index (earlier located member holds index inner path)

/-- Whatever trails in a segment is blank. -/
theorem isBlank_of_trails {part : Part} (stands : part.IsSegment) {located : Located}
    (member : located ∈ part.located) (trails : Trails chosen part.located located) :
    located.IsBlank := by
  obtain ⟨outer, id, index, inner, path, -⟩ := id trails
  have inSlot : Place.slot id index ∈ located.path := by
    rw [path]
    exact List.mem_append_right _ List.mem_cons_self
  rcases stands.delimiter_or_value member inSlot with delimiter | ⟨rendered, value⟩
  · exact .inl delimiter
  · have empty : rendered.isEmpty = true := by
      by_contra filled
      rw [Bool.not_eq_true] at filled
      exact not_trails_of_holds member ⟨rendered, value, filled⟩ trails
    exact .inr ⟨rendered, value, empty⟩

namespace Part

/-! ## Occurrences that are full to their last slot -/

/-- The last slot of every occurrence of a chosen container holds a value. -/
def Full (chosen : NodeId → Bool) (part : Part) : Prop :=
  ∀ occurrence ∈ part.occurrences, chosen occurrence.1.id = true →
    ∀ last ∈ occurrence.2.getLast?, last.holds = true

theorem full_container_iff {head : Head} {slots nested : List Part} :
    (container head slots nested).Full chosen ↔
      (chosen head.id = true → ∀ last ∈ slots.getLast?, last.holds = true) ∧
        (∀ slot ∈ slots, slot.Full chosen) ∧ ∀ segment ∈ nested, segment.Full chosen := by
  exact forall_mem_occurrences_iff

/-- Where the last slots hold values, nothing is dropped. -/
theorem withoutTruncation_trim_eq_whole {part : Part} (flagged : part.Flagged chosen)
    (full : (part.whole chosen).Full chosen) :
    part.trim.withoutTruncation chosen = part.whole chosen := by
  induction part using Part.induction with
  | empty => rfl
  | value rendered => rfl
  | container head slots nested slotsSame nestedSame =>
      obtain ⟨flag, slotsFlagged, nestedFlagged⟩ := flagged_container_iff.mp flagged
      rw [whole_container, full_container_iff] at full
      obtain ⟨lastHolds, slotsFull, nestedFull⟩ := full
      obtain ⟨dropped, all, blank, onlyChosen, -⟩ := kept_withoutTruncation flag slots
      have none : dropped = [] := by
        by_contra filled
        obtain ⟨last, isLast⟩ := Option.isSome_iff_exists.mp
          (List.getLast?_isSome.mpr filled)
        have holds := lastHolds (onlyChosen filled) (last.whole chosen) (by
          rw [List.getLast?_map, all, List.getLast?_append, isLast]
          rfl)
        rw [holds_whole, blank last (List.mem_of_getLast? isLast)] at holds
        cases holds
      rw [none, List.append_nil] at all
      rw [all] at slotsFull
      have among := (kept_isPrefix head slots).subset
      rw [trim_container, withoutTruncation, whole_container, all,
        partsWithoutTruncation_eq_map, partsWithoutTruncation_eq_map, List.map_map,
        List.map_map]
      congr 1
      · apply List.map_congr_left
        intro slot member
        exact slotsSame slot (among member) (slotsFlagged slot (among member))
          (slotsFull _ (List.mem_map_of_mem member))
      · apply List.map_congr_left
        intro segment member
        exact nestedSame segment member (nestedFlagged segment member)
          (nestedFull _ (List.mem_map_of_mem member))

/-- The flags do not show in the pieces. -/
theorem pieces_withoutTruncation (part : Part) :
    (part.withoutTruncation chosen).pieces = part.pieces := by
  induction part using Part.induction with
  | empty => rfl
  | value rendered => rfl
  | container head slots nested slotsSame nestedSame =>
      have same : ∀ parts : List Part,
          (∀ part ∈ parts, (part.withoutTruncation chosen).pieces = part.pieces) →
            piecesOf (partsWithoutTruncation chosen parts) = piecesOf parts := by
        intro parts each
        rw [partsWithoutTruncation_eq_map, piecesOf_eq_map, piecesOf_eq_map, List.map_map]
        exact List.map_congr_left each
      rw [withoutTruncation, pieces, pieces, same slots slotsSame, same nested nestedSame]
      rfl

end Part

/-- `kept` is what truncation at the chosen containers leaves of `whole`. -/
structure IsTruncation (chosen : NodeId → Bool) (whole kept : List Located) : Prop where
  /-- The pieces that trail are dropped; the others keep their order and their paths. -/
  kept_eq : kept = standing chosen whole
  /-- Only delimiters and empty values trail. -/
  isBlank : ∀ located ∈ whole, Trails chosen whole located → located.IsBlank
  /-- Every value that is not empty keeps its slot in each container around it. -/
  mem_of_holds : ∀ located ∈ whole, located.Holds → located ∈ kept

/-- The reading of a segment with truncation is a truncation of that without. -/
theorem isTruncation_of_isSegment {part : Part} (stands : part.IsSegment)
    (flagged : part.Flagged chosen) :
    IsTruncation chosen (part.whole chosen).located part.trim.located where
  kept_eq := (stands.standing flagged).symm
  isBlank := by
    intro located member trails
    exact isBlank_of_trails stands.withoutTruncation.trim member trails
  mem_of_holds := by
    intro located member holds
    rw [← stands.standing flagged, mem_standing_iff]
    exact ⟨member, not_trails_of_holds member holds⟩

end Reading

namespace Compiler

open Codec (CompiledType Piece)
open Reading

/-- A bean of a type is written as pieces in their places, under every table. -/
def Writes (type : CompiledType) (bean : Bean) (pieces : List Located) : Prop :=
  (type.write bean).pieces.filter (· ≠ .flush) = pieces.map Located.piece ∧
    ∀ table,
      type.encode table bean = .ok (Piece.textOf table (pieces.map Located.piece))

/-- A type writes the trimmed reading of the container that yields it. -/
theorem writes_of_yields {container : Container} {type : CompiledType}
    (yields : Yields container type) {bean : Bean} {part : Part}
    (read : readContainer container bean = .ok part) :
    Writes type bean part.trim.located := by
  rw [Writes, Part.map_piece_located]
  have written := written_of_yields container yields bean
  rw [read] at written
  constructor
  · unfold Codec.Emission.written at written
    cases outcome : (type.write bean).outcome with
    | error error =>
        rw [outcome] at written
        cases written
    | ok result =>
        rw [outcome] at written
        exact congrArg Prod.snd (Except.ok.inj written)
  · intro table
    rw [encode_of_yields yields, read]
    rfl

/-- A model that is compiled is also compiled without truncation. -/
theorem compile_withoutTruncation {store : NodeId → Option Container} {registry : Registry}
    (sound : SoundRegistry store registry) {target : Target} {model : Model}
    (stored : model.root.StoredIn store) {compiled : CompiledModel}
    (success : (compile target model registry).1 = .ok compiled) (chosen : NodeId → Bool) :
    ∃ root cleared, model.root = .container root ∧ Yields root compiled.root ∧
      (compile target (model.withoutTruncation chosen) []).1 = .ok cleared ∧
      Yields (root.withoutTruncation chosen) cleared.root := by
  have valid := checkNamespace_of_compile success
  have fresh := soundRegistry_empty fun id => (store id).map (Container.withoutTruncation chosen)
  have storedCleared : (model.withoutTruncation chosen).root.StoredIn _ :=
    stored.withoutTruncation chosen
  obtain ⟨root, tree, yields⟩ := yields_of_compile sound stored success
  obtain ⟨other, same, legal⟩ := (compile_ok_iff sound stored valid).mp ⟨compiled, success⟩
  have treeCleared : (model.withoutTruncation chosen).root =
      .container (root.withoutTruncation chosen) := by
    rw [Model.withoutTruncation, tree, Node.withoutTruncation]
  obtain rfl : root = other := by
    rw [tree] at same
    exact Node.container.inj same
  obtain ⟨cleared, successCleared⟩ := (compile_ok_iff fresh storedCleared valid).mpr
    ⟨_, treeCleared, (legal_withoutTruncation chosen root).mpr legal⟩
  obtain ⟨_, sameCleared, yieldsCleared⟩ :=
    yields_of_compile fresh storedCleared successCleared
  rw [treeCleared] at sameCleared
  cases sameCleared
  exact ⟨root, cleared, tree, yields, successCleared, yieldsCleared⟩

/-- Two types, the one with and the other without truncation at the chosen containers of
`root`, fail alike, or the one writes a truncation of what the other writes. -/
def DifferByTruncation (chosen : NodeId → Bool) (root : Container)
    (truncated cleared : CompiledType) : Prop :=
  ∀ bean,
    (∃ error, ∀ table,
      truncated.encode table bean = .error error ∧ cleared.encode table bean = .error error) ∨
    ∃ part whole : Part,
      readContainer root bean = .ok part ∧
      readContainer (root.withoutTruncation chosen) bean = .ok whole ∧
      Writes truncated bean part.trim.located ∧
      Writes cleared bean whole.trim.located ∧
      IsTruncation chosen whole.trim.located part.trim.located ∧
      (whole.trim.Full chosen →
        ∀ table, truncated.encode table bean = cleared.encode table bean)

/-- Clearing the truncatable flag of chosen containers does not change whether a bean is
written.  With the flag, the pieces that trail without it are dropped, and nothing else
changes; where the last slot of every occurrence of a chosen container holds a value,
the text is the same. -/
theorem truncation_is_local {store : NodeId → Option Container} {registry : Registry}
    (reached : Reached store registry) {target : Target} {model : Model}
    (stored : model.root.StoredIn store) (valid : model.validate = .ok ())
    {compiled : CompiledModel} (success : (compile target model registry).1 = .ok compiled)
    {chosen : NodeId → Bool}
    (truncatable : ∀ container ∈ model.root.containers,
      chosen container.id = true → container.truncatable = true) :
    ∃ root cleared,
      model.root = .container root ∧
      (compile target (model.withoutTruncation chosen) []).1 = .ok cleared ∧
      DifferByTruncation chosen root compiled.root cleared.root := by
  obtain ⟨root, cleared, tree, yields, successCleared, yieldsCleared⟩ :=
    compile_withoutTruncation reached.sound stored success chosen
  obtain ⟨_, same, group, sound⟩ := Model.sound_of_validate valid
  rw [tree] at same
  cases same
  exists root, cleared
  apply And.intro tree
  apply And.intro successCleared
  intro bean
  have readCleared := readContainer_withoutTruncation chosen root bean
  cases read : readContainer root bean with
  | error error =>
      rw [read] at readCleared
      left
      exists error
      intro table
      rw [encode_of_yields yields, encode_of_yields yieldsCleared, read, readCleared]
      exact ⟨rfl, rfl⟩
  | ok part =>
      rw [read] at readCleared
      have stands := isSegment_of_readContainer sound group read
      have flagged : part.Flagged chosen := by
        intro occurrence member isChosen
        obtain ⟨origin, inTree, head, -⟩ :=
          occursIn_of_readContainer root read occurrence member
        rw [head] at isChosen ⊢
        rw [tree] at truncatable
        exact truncatable origin inTree isChosen
      have same : (part.whole chosen).Full chosen → ∀ table,
          compiled.root.encode table bean = cleared.root.encode table bean := by
        intro full table
        have pieces : part.trim.pieces = (part.withoutTruncation chosen).trim.pieces := by
          rw [← Part.pieces_withoutTruncation part.trim,
            Part.withoutTruncation_trim_eq_whole flagged full, Part.whole]
        rw [encode_of_yields yields, encode_of_yields yieldsCleared, read, readCleared]
        simp only [Except.map, pieces]
      right
      exact ⟨part, part.withoutTruncation chosen, rfl, readCleared,
        writes_of_yields yields read, writes_of_yields yieldsCleared readCleared,
        isTruncation_of_isSegment stands flagged, same⟩

/-- Truncation of the notes and their authors in a notice is local. -/
theorem truncation_of_notes_is_local :
    ∃ compiled, (compile ⟨"com.acme", .standalone⟩ Schema.notice []).1 = .ok compiled ∧
      ∃ root cleared,
        Schema.notice.root = .container root ∧
        (compile ⟨"com.acme", .standalone⟩
          (Schema.notice.withoutTruncation (· ≠ ⟨"notice", []⟩)) []).1 = .ok cleared ∧
        DifferByTruncation (· ≠ ⟨"notice", []⟩) root compiled.root cleared.root := by
  have success : (compile ⟨"com.acme", .standalone⟩ Schema.notice []).1 = .ok _ := rfl
  have truncatable : ∀ container ∈ Schema.notice.root.containers,
      decide (container.id ≠ ⟨"notice", []⟩) = true → container.truncatable = true := by
    intro container member
    rcases Schema.mem_containers_notice member with root | rfl | rfl
    · cases root
      decide
    · exact fun _ => rfl
    · exact fun _ => rfl
  exact ⟨_, success,
    truncation_is_local .empty Schema.notice_storedIn rfl success truncatable⟩

end Compiler

end FlatMessage
