import FlatMessage.Proofs.Standing

/-!
# Places in a message

Every piece of a message lies in slots of containers, or in nested segments, or in
neither.  Its path names the places that lead to it, from the outermost occurrence
inwards: the container, and the number of the slot or of the nested segment.  A code
and a closing delimiter lie in no place of their own occurrence; the delimiter before a
slot lies in that slot.
-/

namespace FlatMessage.Reading

open Codec (Piece)
open Delimiter (Level)
open Schema (NodeId)

/-! ## Paths -/

/-- A place in an occurrence of a container. -/
inductive Place
  | slot (id : NodeId) (index : Nat)
  | nested (id : NodeId) (index : Nat)
  deriving DecidableEq, Repr

/-- A piece with the places that lead to it. -/
structure Located where
  path : List Place
  piece : Piece
  deriving DecidableEq, Repr

namespace Located

/-- A piece seen from outside of a place. -/
def inside (place : Place) (located : Located) : Located :=
  ⟨place :: located.path, located.piece⟩

@[simp]
theorem path_inside (place : Place) (located : Located) :
    (located.inside place).path = place :: located.path :=
  rfl

@[simp]
theorem piece_inside (place : Place) (located : Located) :
    (located.inside place).piece = located.piece :=
  rfl

theorem inside_inj {first second : Place} {located other : Located}
    (same : located.inside first = other.inside second) :
    first = second ∧ located = other := by
  obtain ⟨path, piece⟩ := located
  obtain ⟨otherPath, otherPiece⟩ := other
  simpa [inside, and_assoc] using same

/-- A piece is a value that is not empty. -/
def Holds (located : Located) : Prop :=
  ∃ rendered, located.piece = .value rendered ∧ rendered.isEmpty = false

@[simp]
theorem holds_inside (place : Place) (located : Located) :
    (located.inside place).Holds ↔ located.Holds :=
  Iff.rfl

@[simp]
theorem not_holds_delimiter (path : List Place) (level : Level) :
    ¬(⟨path, .delimiter level⟩ : Located).Holds := by
  rintro ⟨rendered, same, -⟩
  cases same

end Located

/-! ## Rows -/

/-- Rows of pieces one after the other, each inside its place. -/
def indexed (place : Nat → Place) (rows : List (List Located)) : List Located :=
  (rows.mapIdx fun index row => row.map (Located.inside (place index))).flatten

@[simp]
theorem indexed_nil (place : Nat → Place) : indexed place [] = [] :=
  rfl

theorem indexed_cons (place : Nat → Place) (row : List Located)
    (rest : List (List Located)) :
    indexed place (row :: rest) =
      row.map (Located.inside (place 0)) ++ indexed (fun index => place (index + 1)) rest := by
  rw [indexed, List.mapIdx_cons, List.flatten_cons]
  rfl

theorem mem_indexed {place : Nat → Place} {rows : List (List Located)} {located : Located} :
    located ∈ indexed place rows ↔
      ∃ (index : Nat) (row : List Located), rows[index]? = some row ∧
        ∃ inner ∈ row, located = inner.inside (place index) := by
  induction rows generalizing place with
  | nil => simp
  | cons row rest ih =>
      rw [indexed_cons, List.mem_append, List.mem_map, ih]
      constructor
      · rintro (⟨inner, member, rfl⟩ | ⟨index, row, found, inner, member, rfl⟩)
        · exact ⟨0, row, rfl, inner, member, rfl⟩
        · exact ⟨index + 1, row, found, inner, member, rfl⟩
      · rintro ⟨index, other, found, inner, member, rfl⟩
        cases index with
        | zero =>
            obtain rfl : row = other := Option.some.inj found
            exact .inl ⟨inner, member, rfl⟩
        | succ index => exact .inr ⟨index, other, found, inner, member, rfl⟩

theorem inside_mem_indexed_iff {place : Nat → Place} (apart : Function.Injective place)
    {rows : List (List Located)} {index : Nat} {located : Located} :
    located.inside (place index) ∈ indexed place rows ↔
      ∃ row : List Located, rows[index]? = some row ∧ located ∈ row := by
  rw [mem_indexed]
  constructor
  · rintro ⟨other, row, found, inner, member, same⟩
    obtain ⟨samePlace, rfl⟩ := Located.inside_inj same
    obtain rfl := apart samePlace
    exact ⟨row, found, member⟩
  · rintro ⟨row, found, member⟩
    exact ⟨index, row, found, located, member, rfl⟩

theorem inside_not_mem_indexed {place : Nat → Place} {other : Place}
    (apart : ∀ index, other ≠ place index) (rows : List (List Located))
    (located : Located) : located.inside other ∉ indexed place rows := by
  rw [mem_indexed]
  rintro ⟨index, row, -, inner, -, same⟩
  exact apart index (Located.inside_inj same).1

/-- What is left of rows when pieces are dropped: `left` has what is left of the first
rows, and nothing is left of the others. -/
theorem filter_indexed (test : Located → Bool) {place : Nat → Place}
    {rows left : List (List Located)} (fewer : left.length ≤ rows.length)
    (row_left : ∀ (index : Nat) (row : List Located), rows[index]? = some row →
      row.filter (fun inner => test (inner.inside (place index))) =
        left[index]?.getD []) :
    (indexed place rows).filter test = indexed place left := by
  induction rows generalizing place left with
  | nil =>
      obtain rfl : left = [] := List.eq_nil_of_length_eq_zero (Nat.le_zero.mp fewer)
      rfl
  | cons row rest ih =>
      have here := row_left 0 row rfl
      have later := fun index other (found : rest[index]? = some other) =>
        row_left (index + 1) other found
      have mapped : (row.map (Located.inside (place 0))).filter test =
          (left[0]?.getD []).map (Located.inside (place 0)) := by
        rw [← here, List.filter_map]
        rfl
      rw [indexed_cons, List.filter_append, mapped]
      cases left with
      | nil =>
          have gone : (indexed (fun index => place (index + 1)) rest).filter test =
              indexed (fun index => place (index + 1)) [] := ih (Nat.zero_le _) later
          rw [gone]
          rfl
      | cons first others =>
          rw [ih (Nat.le_of_succ_le_succ fewer) later, indexed_cons]
          rfl

/-- Rows with their delimiters: that of `before` comes before the first of them, that
of `level` before every other. -/
def separated (before : Option Level) (level : Level) :
    List (List Located) → List (List Located)
  | [] => []
  | row :: rest =>
      (before.toList.map (⟨[], .delimiter ·⟩) ++ row) :: separated (some level) level rest

@[simp]
theorem length_separated (before : Option Level) (level : Level)
    (rows : List (List Located)) : (separated before level rows).length = rows.length := by
  induction rows generalizing before with
  | nil => rfl
  | cons row rest ih => rw [separated, List.length_cons, ih, List.length_cons]

/-- The delimiters before a row depend only on its number. -/
theorem getElem?_separated (before : Option Level) (level : Level)
    (rows : List (List Located)) (index : Nat) :
    (separated before level rows)[index]? =
      rows[index]?.map
        ((if index = 0 then before else some level).toList.map (⟨[], .delimiter ·⟩) ++ ·) := by
  induction rows generalizing before index with
  | nil => rfl
  | cons row rest ih =>
      cases index with
      | zero => rfl
      | succ index =>
          rw [separated, List.getElem?_cons_succ, ih, List.getElem?_cons_succ,
            if_neg (Nat.succ_ne_zero index)]
          cases index <;> rfl

/-- The slots of an occurrence with their delimiters. -/
def Head.rows (head : Head) (slots : List (List Located)) : List (List Located) :=
  match head.kind.childLevel? with
  | some level => separated head.leading level slots
  | none => []

namespace Part

/-! ## The pieces of a part in their places -/

mutual

/-- The pieces of a part with their paths. -/
def located : Part → List Located
  | .empty => []
  | .value rendered => [⟨[], .value rendered⟩]
  | .container head slots nested =>
      head.opening.map (Located.mk []) ++
        indexed (.slot head.id) (head.rows (locatedOf slots)) ++
        head.closing.map (Located.mk []) ++
        indexed (.nested head.id) (locatedOf nested)

/-- The pieces of each of several parts, with their paths. -/
def locatedOf : List Part → List (List Located)
  | [] => []
  | part :: rest => part.located :: locatedOf rest

end

theorem locatedOf_eq_map (parts : List Part) : locatedOf parts = parts.map located := by
  induction parts with
  | nil => rfl
  | cons part rest ih => rw [locatedOf, ih, List.map_cons]

theorem map_piece_indexed (place : Nat → Place) (rows : List (List Located)) :
    (indexed place rows).map Located.piece =
      (rows.map (List.map Located.piece)).flatten := by
  induction rows generalizing place with
  | nil => rfl
  | cons row rest ih =>
      rw [indexed_cons, List.map_append, ih, List.map_map, List.map_cons, List.flatten_cons]
      rfl

theorem flatten_map_piece_separated (before : Option Level) (level : Level)
    (rows : List (List Located)) :
    ((separated before level rows).map (List.map Located.piece)).flatten =
      between before level (rows.map (List.map Located.piece)) := by
  induction rows generalizing before with
  | nil => rfl
  | cons row rest ih =>
      rw [separated, List.map_cons, List.flatten_cons, ih, List.map_cons, between]
      simp [Function.comp_def]

/-- A piece in the slots of an occurrence is a delimiter or comes from a slot. -/
theorem exists_of_mem_slots {head : Head} {slots : List Part} {piece : Located}
    (member : piece ∈ indexed (.slot head.id) (head.rows (slots.map Part.located))) :
    ∃ index inner, piece = inner.inside (.slot head.id index) ∧
      ((∃ level, inner = ⟨[], .delimiter level⟩) ∨ ∃ slot ∈ slots, inner ∈ slot.located) := by
  obtain ⟨index, row, found, inner, member, rfl⟩ := mem_indexed.mp member
  exists index, inner
  apply And.intro rfl
  unfold Head.rows at found
  split at found
  · rw [getElem?_separated, List.getElem?_map, Option.map_map,
      Option.map_eq_some_iff] at found
    obtain ⟨slot, found, rfl⟩ := found
    rcases List.mem_append.mp member with delimiter | member
    · obtain ⟨level, -, rfl⟩ := List.mem_map.mp delimiter
      exact .inl ⟨level, rfl⟩
    · exact .inr ⟨slot, List.mem_of_getElem? found, member⟩
  · cases found

theorem inside_not_mem_own (place : Place) (located : Located) (pieces : List Piece) :
    located.inside place ∉ pieces.map (Located.mk []) := by
  rw [List.mem_map]
  rintro ⟨piece, -, same⟩
  cases same

/-- What lies in a slot of an occurrence. -/
theorem inside_slot_mem_located_iff {head : Head} {slots nested : List Part} {index : Nat}
    {located : Located} :
    located.inside (.slot head.id index) ∈ (container head slots nested).located ↔
      ∃ row : List Located,
        (head.rows (slots.map Part.located))[index]? = some row ∧ located ∈ row := by
  have elsewhere := inside_not_mem_indexed
    (fun other => (nofun : Place.slot head.id index ≠ .nested head.id other))
    (nested.map Part.located) located
  rw [Part.located, locatedOf_eq_map, locatedOf_eq_map, List.mem_append, List.mem_append,
    List.mem_append, inside_mem_indexed_iff fun _ _ same => (Place.slot.inj same).2]
  simp only [inside_not_mem_own, elsewhere, false_or, or_false]

/-- What lies in a nested segment of an occurrence. -/
theorem inside_nested_mem_located_iff {head : Head} {slots nested : List Part}
    {index : Nat} {located : Located} :
    located.inside (.nested head.id index) ∈ (container head slots nested).located ↔
      ∃ segment, nested[index]? = some segment ∧ located ∈ segment.located := by
  have elsewhere := inside_not_mem_indexed
    (fun other => (nofun : Place.nested head.id index ≠ .slot head.id other))
    (head.rows (slots.map Part.located)) located
  rw [Part.located, locatedOf_eq_map, locatedOf_eq_map, List.mem_append, List.mem_append,
    List.mem_append, inside_mem_indexed_iff fun _ _ same => (Place.nested.inj same).2]
  simp only [inside_not_mem_own, elsewhere, false_or, List.getElem?_map,
    Option.map_eq_some_iff]
  constructor
  · rintro ⟨_, ⟨segment, found, rfl⟩, member⟩
    exact ⟨segment, found, member⟩
  · rintro ⟨segment, found, member⟩
    exact ⟨segment.located, ⟨segment, found, rfl⟩, member⟩

/-- Without their paths, the pieces of a part are its pieces. -/
theorem map_piece_located (part : Part) : part.located.map Located.piece = part.pieces := by
  induction part using Part.induction with
  | empty => rfl
  | value rendered => rfl
  | container head slots nested slotsMap nestedMap =>
      have own : ∀ pieces : List Piece,
          (pieces.map (Located.mk [])).map Located.piece = pieces := by
        intro pieces
        rw [List.map_map]
        exact List.map_id pieces
      have rows : ∀ parts : List Part, (∀ part ∈ parts, part.located.map Located.piece =
          part.pieces) → (locatedOf parts).map (List.map Located.piece) = piecesOf parts := by
        intro parts same
        rw [locatedOf_eq_map, piecesOf_eq_map, List.map_map]
        exact List.map_congr_left same
      rw [located, pieces, List.map_append, List.map_append, List.map_append, own, own,
        map_piece_indexed, map_piece_indexed, rows nested nestedMap, Head.rows, Head.run]
      cases head.kind.childLevel? with
      | none => rfl
      | some level => rw [flatten_map_piece_separated, rows slots slotsMap]

end Part

end FlatMessage.Reading
