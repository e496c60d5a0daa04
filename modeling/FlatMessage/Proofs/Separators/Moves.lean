import FlatMessage.Proofs.Yields

/-!
# Moving a text to the next slot

In a reading, a part that holds a value may move from its slot into the empty one after
it.  The texts of the reading before and after the move differ at one place only: there
the part changes sides with the separator of its level, or the separator is new where
the slot that it left was the last one.
-/

namespace FlatMessage.Reading

open Codec (Piece)
open Delimiter (Level)

/-- The characters of pieces under a table. -/
def charsOf (table : Delimiter.Table) (pieces : List Piece) : List Char :=
  (Piece.textOf table pieces).toList

@[simp]
theorem charsOf_append (table : Delimiter.Table) (first second : List Piece) :
    charsOf table (first ++ second) = charsOf table first ++ charsOf table second := by
  simp [charsOf]

@[simp]
theorem charsOf_delimiter_cons (table : Delimiter.Table) (level : Level) (rest : List Piece) :
    charsOf table (.delimiter level :: rest) = (table.get level).toList ++ charsOf table rest := by
  simp [charsOf, Piece.textOf, Piece.text]

namespace Part

/-- A part moves from a slot of some occurrence into the empty slot after it.  `level` is
that of the slots. -/
inductive Moves (level : Level) (filled : Part) : Part → Part → Prop
  | here {head : Head} {before after nested : List Part}
      (delimited : head.kind.childLevel? = some level) :
      Moves level filled (.container head (before ++ filled :: .empty :: after) nested)
        (.container head (before ++ .empty :: filled :: after) nested)
  | slot {head : Head} {outer : Level} {before after nested : List Part} {part moved : Part}
      (delimited : head.kind.childLevel? = some outer)
      (inner : Moves level filled part moved) :
      Moves level filled (.container head (before ++ part :: after) nested)
        (.container head (before ++ moved :: after) nested)
  | segment {head : Head} {slots before after : List Part} {part moved : Part}
      (inner : Moves level filled part moved) :
      Moves level filled (.container head slots (before ++ part :: after))
        (.container head slots (before ++ moved :: after))

section

variable {level : Level} {filled part moved : Part}

/-- A part in which a value moves holds a value, before and after. -/
theorem Moves.holds (holds : filled.holds = true) (moves : Moves level filled part moved) :
    part.holds = true ∧ moved.holds = true := by
  induction moves with
  | here delimited => simp [Part.holds, anyHolds_eq_any, holds]
  | slot delimited inner ih => simp [Part.holds, anyHolds_eq_any, ih]
  | segment inner ih => simp [Part.holds, anyHolds_eq_any, ih]

end

/-! ## Slots that are kept -/

/-- A slot that holds a value is kept, with those before it. -/
theorem kept_append_cons {part : Part} (holds : part.holds = true) (head : Head)
    (before after : List Part) :
    kept head (before ++ part :: after) = before ++ part :: kept head after := by
  unfold kept
  split
  · have stays : (part :: before.reverse).dropWhile (!·.holds) = part :: before.reverse := by
      rw [List.dropWhile_cons_of_neg]
      simp [holds]
    rw [List.rdropWhile, List.rdropWhile, List.reverse_append, List.reverse_cons,
      List.append_assoc, List.singleton_append, List.dropWhile_append, stays]
    split
    · next none =>
        rw [List.isEmpty_iff.mp none]
        simp
    · simp
  · rfl

/-- An empty slot is kept, unless nothing is kept from there on. -/
theorem kept_empty_cons (head : Head) (after : List Part) :
    kept head (.empty :: after) = .empty :: kept head after ∨
      kept head (.empty :: after) = [] ∧ kept head after = [] := by
  unfold kept
  split
  · rw [List.rdropWhile, List.rdropWhile, List.reverse_cons, List.dropWhile_append]
    split
    · next none =>
        rw [List.isEmpty_iff.mp none]
        exact .inr ⟨rfl, rfl⟩
    · left
      simp
  · exact .inl rfl

end Part

/-! ## Texts around a slot -/

/-- In a row, a slot stands between what is before it and what is after it. -/
theorem exists_between_append_cons (before : Option Level) (level : Level)
    (first : List (List Piece)) :
    ∃ earlier, ∀ slot later, between before level (first ++ slot :: later) =
      earlier ++ slot ++ between (some level) level later := by
  induction first generalizing before with
  | nil => exact ⟨before.toList.map .delimiter, fun slot later => rfl⟩
  | cons next rest ih =>
      obtain ⟨earlier, around⟩ := ih (some level)
      exists before.toList.map .delimiter ++ next ++ earlier
      intro slot later
      rw [List.cons_append, between, around]
      simp only [List.append_assoc]

namespace Part

section

variable {level : Level} {filled part moved : Part}

/-- The pieces of a container with slots, trimmed. -/
theorem pieces_trim_container {head : Head} {level : Level}
    (delimited : head.kind.childLevel? = some level) (slots nested : List Part) :
    (container head slots nested).trim.pieces =
      head.opening ++ between head.leading level ((kept head slots).map (·.trim.pieces)) ++
        head.closing ++ (nested.map (·.trim.pieces)).flatten := by
  rw [trim_container, pieces, piecesOf_eq_map, piecesOf_eq_map, List.map_map, List.map_map,
    Head.run, delimited]
  rfl

/-- What a move changes in a text: the moved part changes sides with a separator, or
gets one before it. -/
def Shifts (table : Delimiter.Table) (level : Level) (filled part moved : Part) : Prop :=
  let separator := (table.get level).toList
  let text := charsOf table filled.trim.pieces
  ∃ first last middle,
    charsOf table part.trim.pieces = first ++ middle ++ last ∧
      charsOf table moved.trim.pieces = first ++ (separator ++ text) ++ last ∧
      (middle = text ++ separator ∨ middle = text)

theorem Shifts.of_around {table : Delimiter.Table} {outer movedOuter : Part}
    {first last : List Char}
    (around : charsOf table outer.trim.pieces = first ++ charsOf table part.trim.pieces ++ last)
    (aroundMoved : charsOf table movedOuter.trim.pieces =
      first ++ charsOf table moved.trim.pieces ++ last)
    (shifts : Shifts table level filled part moved) :
    Shifts table level filled outer movedOuter := by
  obtain ⟨before, after, middle, text, textMoved, changes⟩ := shifts
  refine ⟨first ++ before, after ++ last, middle, ?_, ?_, changes⟩
  · rw [around, text]
    simp only [List.append_assoc]
  · rw [aroundMoved, textMoved]
    simp only [List.append_assoc]

/-- The text of a container around the text of a slot that holds a value. -/
theorem exists_around_slot {head : Head} {outer : Level}
    (delimited : head.kind.childLevel? = some outer) (table : Delimiter.Table)
    (before after nested : List Part) :
    ∃ first last, ∀ slot : Part, slot.holds = true →
      charsOf table (container head (before ++ slot :: after) nested).trim.pieces =
        first ++ charsOf table slot.trim.pieces ++ last := by
  obtain ⟨earlier, around⟩ := exists_between_append_cons head.leading outer
    (before.map (·.trim.pieces))
  refine ⟨charsOf table (head.opening ++ earlier),
    charsOf table (between (some outer) outer ((kept head after).map (·.trim.pieces)) ++
      head.closing ++ (nested.map (·.trim.pieces)).flatten), ?_⟩
  intro slot holds
  rw [pieces_trim_container delimited, kept_append_cons holds, List.map_append,
    List.map_cons, around]
  simp

/-- The text of a container around the text of a nested segment. -/
theorem exists_around_segment (head : Head) (table : Delimiter.Table)
    (slots before after : List Part) :
    ∃ first last, ∀ segment : Part,
      charsOf table (container head slots (before ++ segment :: after)).trim.pieces =
        first ++ charsOf table segment.trim.pieces ++ last := by
  refine ⟨charsOf table (head.opening ++ head.run (piecesOf ((kept head slots).map trim)) ++
      head.closing ++ (before.map (·.trim.pieces)).flatten),
    charsOf table (after.map (·.trim.pieces)).flatten, ?_⟩
  intro segment
  rw [trim_container, pieces, piecesOf_eq_map (List.map trim (before ++ segment :: after)),
    List.map_map]
  simp [Function.comp_def]

/-- A move into the slot after a value shifts a text. -/
theorem shifts_here (holds : filled.holds = true) {head : Head}
    (delimited : head.kind.childLevel? = some level) (table : Delimiter.Table)
    (before after nested : List Part) :
    Shifts table level filled (container head (before ++ filled :: .empty :: after) nested)
      (container head (before ++ .empty :: filled :: after) nested) := by
  obtain ⟨earlier, around⟩ := exists_between_append_cons head.leading level
    (before.map (·.trim.pieces))
  have keptMoved : kept head (before ++ .empty :: filled :: after) =
      before ++ .empty :: filled :: kept head after := by
    have joined : before ++ .empty :: filled :: after =
        (before ++ [.empty]) ++ filled :: after := by simp
    rw [joined, kept_append_cons holds]
    simp
  have emptyPieces : (Part.empty.trim).pieces = [] := rfl
  rw [Shifts, pieces_trim_container delimited, pieces_trim_container delimited,
    kept_append_cons holds, keptMoved]
  simp only [List.map_append, List.map_cons, around, emptyPieces, List.append_nil]
  rcases kept_empty_cons head after with both | ⟨cut, none⟩
  · rw [both]
    refine ⟨charsOf table (head.opening ++ earlier),
      charsOf table (between (some level) level ((kept head after).map (·.trim.pieces)) ++
        head.closing ++ (nested.map (·.trim.pieces)).flatten),
      charsOf table filled.trim.pieces ++ (table.get level).toList, ?_, ?_, .inl rfl⟩
    · simp [between, emptyPieces]
    · simp [between]
  · rw [cut, none]
    refine ⟨charsOf table (head.opening ++ earlier),
      charsOf table (head.closing ++ (nested.map (·.trim.pieces)).flatten),
      charsOf table filled.trim.pieces, ?_, ?_, .inr rfl⟩
    · simp
    · simp [between]

/-- Every move shifts a text. -/
theorem Moves.shifts (holds : filled.holds = true) (moves : Moves level filled part moved)
    (table : Delimiter.Table) : Shifts table level filled part moved := by
  induction moves with
  | here delimited => exact shifts_here holds delimited table _ _ _
  | @slot head outer before after nested part moved delimited inner ih =>
      obtain ⟨partHolds, movedHolds⟩ := inner.holds holds
      obtain ⟨first, last, around⟩ := exists_around_slot delimited table before after nested
      exact ih.of_around (around part partHolds) (around moved movedHolds)
  | @segment head slots before after part moved inner ih =>
      obtain ⟨first, last, around⟩ := exists_around_segment head table slots before after
      exact ih.of_around (around part) (around moved)

end

end Part

end FlatMessage.Reading
