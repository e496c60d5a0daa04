import FlatMessage.Proofs.Flushing.Setting
import FlatMessage.Proofs.Yields

/-!
# Flush marks in what is written

Marking an emission takes out its flush marks and, if the flush option is set, puts one
after every segment delimiter.  Marking goes through sequences, and a withheld emission
does not see it.

A type with the flush option set writes what the type writes, marked.  This depends on what
a container may hold: the delimiters between slots are none of segments, and nothing in a
truncated body ends a segment, so that no mark is lost where marks are withheld.
-/

namespace FlatMessage

namespace Codec

open Delimiter (Level)

/-! ## Marking pieces -/

namespace Piece

/-- A piece that is neither a flush mark nor the end of a segment. -/
def IsPlain (piece : Piece) : Prop :=
  piece ≠ .flush ∧ piece ≠ .delimiter .segment

/-- A piece with the mark after it that the flush option asks for. -/
def mark (flag : Bool) : Piece → List Piece
  | .flush => []
  | .delimiter .segment => .delimiter .segment :: if flag then [.flush] else []
  | piece => [piece]

/-- Pieces with the marks that the flush option asks for in place of their own. -/
def marking (flag : Bool) (pieces : List Piece) : List Piece :=
  pieces.flatMap (mark flag)

variable (flag : Bool)

theorem mark_of_isPlain {piece : Piece} (plain : piece.IsPlain) :
    piece.mark flag = [piece] := by
  obtain ⟨noFlush, noEnd⟩ := plain
  cases piece with
  | flush => contradiction
  | delimiter level => cases level <;> first | contradiction | rfl
  | code text => rfl
  | value rendered => rfl

@[simp]
theorem marking_append (first second : List Piece) :
    marking flag (first ++ second) = marking flag first ++ marking flag second :=
  List.flatMap_append

theorem marking_eq_self {pieces : List Piece} (plain : ∀ piece ∈ pieces, piece.IsPlain) :
    marking flag pieces = pieces := by
  rw [marking, List.flatMap_congr fun piece member => mark_of_isPlain flag (plain piece member)]
  exact List.flatMap_singleton' pieces

theorem marking_cons (piece : Piece) (rest : List Piece) :
    marking flag (piece :: rest) = piece.mark flag ++ marking flag rest :=
  List.flatMap_cons

/-- The marks that were there do not matter. -/
theorem marking_filter (pieces : List Piece) :
    marking flag (pieces.filter (· ≠ .flush)) = marking flag pieces := by
  induction pieces with
  | nil => rfl
  | cons piece rest ih =>
      by_cases same : piece = .flush
      · rw [List.filter_cons_of_neg (by simpa using same), ih, same]
        rfl
      · rw [List.filter_cons_of_pos (by simpa using same), marking_cons, marking_cons, ih]

theorem filter_mark (piece : Piece) :
    (piece.mark flag).filter (· ≠ .flush) = [piece].filter (· ≠ .flush) := by
  rcases piece with _ | level | _ | _
  case delimiter => cases level <;> cases flag <;> rfl
  all_goals rfl

/-- Apart from marks the pieces stay what they are. -/
theorem filter_marking (pieces : List Piece) :
    (marking flag pieces).filter (· ≠ .flush) = pieces.filter (· ≠ .flush) := by
  induction pieces with
  | nil => rfl
  | cons piece rest ih =>
      rw [marking_cons, List.filter_append, ih, filter_mark, ← List.filter_append,
        List.singleton_append]

/-- Without the option there are no marks. -/
theorem marking_false (pieces : List Piece) :
    marking false pieces = pieces.filter (· ≠ .flush) := by
  have plain : .flush ∉ marking false pieces := by
    rw [marking, List.mem_flatMap]
    rintro ⟨piece, -, member⟩
    rcases piece with _ | level | _ | _
    case delimiter => cases level <;> cases member <;> contradiction
    all_goals simp [mark] at member
  rw [← filter_marking false, List.filter_eq_self.mpr]
  intro piece member
  have visible : piece ≠ .flush := by
    rintro rfl
    exact plain member
  simpa using visible

end Piece

/-! ## Marking emissions -/

namespace Emission

variable {α β : Type}

/-- An emission with the marks that the flush option asks for. -/
def marked (flag : Bool) (emission : Emission α) : Emission α :=
  ⟨Piece.marking flag emission.pieces, emission.outcome⟩

variable (flag : Bool)

@[simp]
theorem marked_done (result : α) : (done result).marked flag = done result :=
  rfl

@[simp]
theorem marked_fail (error : WriteError) :
    (fail error : Emission α).marked flag = fail error :=
  rfl

@[simp]
theorem marked_ofExcept (result : Except WriteError α) :
    (ofExcept result).marked flag = ofExcept result := by
  cases result <;> rfl

/-- Sequences are marked part by part. -/
@[simp]
theorem marked_bind (first : Emission α) (next : α → Emission β) :
    (first >>= next).marked flag =
      first.marked flag >>= fun result => (next result).marked flag := by
  obtain ⟨pieces, outcome⟩ := first
  cases outcome with
  | error error => rfl
  | ok result =>
      change (andThen _ next).marked flag = andThen _ fun result => (next result).marked flag
      simp [andThen, marked]

/-- A sequence of marked parts is a marked sequence. -/
theorem bind_eq_marked {flag : Bool} {first first' : Emission α} {next next' : α → Emission β}
    (before : first' = first.marked flag)
    (after : ∀ result, next' result = (next result).marked flag) :
    first' >>= next' = (first >>= next).marked flag := by
  rw [marked_bind, before, funext after]

@[simp]
theorem marked_map (change : α → β) (emission : Emission α) :
    (change <$> emission).marked flag = change <$> emission.marked flag :=
  rfl

/-- The delimiters between slots get no mark. -/
theorem marked_delimiter? {level : Option Level} (inner : level ≠ some .segment) :
    (delimiter? level).marked flag = delimiter? level := by
  rcases level with _ | _ | _ | _ | _ | _ | _ <;> first | contradiction | rfl

/-- Withheld pieces have no marks to lose. -/
theorem withheld_marked (emission : Emission α) :
    (emission.marked flag).withheld = emission.withheld := by
  obtain ⟨pieces, outcome⟩ := emission
  cases outcome with
  | error error => rfl
  | ok result =>
      have kept := Piece.filter_marking flag pieces
      simp only [marked, withheld, kept]

theorem marked_withheld (emission : Emission α) :
    emission.withheld.marked flag = emission.withheld := by
  obtain ⟨pieces, outcome⟩ := emission
  cases outcome <;> rfl

/-- A sequence is decided by how it goes on from the result that is there. -/
theorem bind_congr_of_ok {first : Emission α} {next next' : α → Emission β}
    (same : ∀ result, first.outcome = .ok result → next result = next' result) :
    first >>= next = first >>= next' := by
  obtain ⟨pieces, outcome⟩ := first
  cases outcome with
  | error error => rfl
  | ok result =>
      change andThen _ next = andThen _ next'
      simp only [andThen, same result rfl]

end Emission

/-! ## Steps -/

/-- A scalar is written without marks. -/
theorem marked_writeScalar (flag : Bool) (name : String) (binding : ScalarBinding)
    (value : Value) :
    (writeScalar name binding value).marked flag = writeScalar name binding value := by
  cases value with
  | bean properties => rfl
  | list items => rfl
  | scalar content =>
      rw [writeScalar]
      cases Encoder.render binding.encoder content with
      | ok rendered => rfl
      | error error => cases error <;> rfl

/-- `write'` writes an item as `write` does, marked. -/
def WritesMarked (flag : Bool) (write write' : Value → Emission Bool) : Prop :=
  ∀ value, write' value = (write value).marked flag

namespace WritesMarked

variable {flag : Bool} {write write' : Value → Emission Bool}

theorem slots (same : WritesMarked flag write write') {before level : Option Level}
    (first : before ≠ some .segment) (inner : level ≠ some .segment)
    (slots : List (Option Value)) :
    writeSlots write' before level slots =
      (writeSlots write before level slots).marked flag := by
  induction slots generalizing before with
  | nil => rfl
  | cons slot rest ih =>
      have item : slot.elim (.done false) write' =
          (slot.elim (.done false) write).marked flag := by
        cases slot with
        | none => rfl
        | some value => exact same value
      simp only [writeSlots, Emission.marked_bind, Emission.marked_map,
        Emission.marked_delimiter? flag first, item, ih inner]

theorem items (same : WritesMarked flag write write') (items : List Value) :
    writeItems write' items = (writeItems write items).marked flag := by
  induction items with
  | nil => rfl
  | cons item rest ih =>
      simp only [writeItems, Emission.marked_bind, Emission.marked_map, same item, ih]

theorem step (same : WritesMarked flag write write') (property : Property)
    {leading level : Option Level} (first : leading ≠ some .segment)
    (inner : level ≠ some .segment) (bean : Bean) :
    writeStep write' property leading level bean =
      (writeStep write property leading level bean).marked flag := by
  unfold writeStep
  dsimp only
  split
  · apply Emission.bind_eq_marked (Emission.marked_ofExcept flag _).symm
    intro items
    cases level with
    | none => exact same.items items
    | some level => exact same.slots first inner (property.slots items)
  · apply Emission.bind_eq_marked (Emission.marked_delimiter? flag first).symm
    intro _
    cases bean.get? property.name with
    | none => rfl
    | some value => exact Emission.bind_eq_marked (Emission.marked_ofExcept flag _).symm same

/-- Rendered slots have no marks. -/
theorem renderSlots (same : WritesMarked flag write write') (slots : List (Option Value)) :
    renderSlots write' slots = (renderSlots write slots).marked flag := by
  induction slots with
  | nil => rfl
  | cons slot rest ih =>
      cases slot with
      | none => simp only [Codec.renderSlots, Emission.marked_map, ih]
      | some item =>
          simp only [Codec.renderSlots, Emission.marked_bind, Emission.marked_map, same item,
            Emission.withheld_marked, Emission.marked_withheld, ih]

theorem renderStep (same : WritesMarked flag write write') (property : Property)
    (bean : Bean) :
    renderStep write' property bean = (renderStep write property bean).marked flag := by
  unfold Codec.renderStep
  dsimp only
  split
  · apply Emission.bind_eq_marked (Emission.marked_ofExcept flag _).symm
    intro items
    exact same.renderSlots (property.slots items)
  · cases bean.get? property.name with
    | none => rfl
    | some value =>
        apply Emission.bind_eq_marked (Emission.marked_ofExcept flag _).symm
        intro item
        exact same.renderSlots [some item]

end WritesMarked

/-- A step writes its items marked when the flush option is set, and its delimiters are none
of segments. -/
structure Step.IsMarked (flag : Bool) (step : Step) : Prop where
  item : WritesMarked flag (step.property.binding.write step.property.name)
    ((step.property.binding.flushing flag).write step.property.name)
  leading : step.leading ≠ some .segment
  level : step.level ≠ some .segment

variable {flag : Bool} {steps : List Step}

theorem writeSteps_flushing (all : ∀ step ∈ steps, step.IsMarked flag) (bean : Bean) :
    writeSteps (steps.map (Step.flushing flag)) bean =
      (writeSteps steps bean).marked flag := by
  induction steps with
  | nil => rfl
  | cons step rest ih =>
      rw [List.forall_mem_cons] at all
      obtain ⟨⟨item, leads, inner⟩, others⟩ := all
      obtain ⟨⟨name, nodeName, occurs, binding⟩, leading, level⟩ := step
      have first := item.step ⟨name, nodeName, occurs, binding⟩ leads inner bean
      simp only [List.map_cons, Step.flushing, Property.flushing, writeSteps,
        Emission.marked_bind, Emission.marked_map, ← ih others, ← first]
      rfl

theorem renderSteps_flushing (all : ∀ step ∈ steps, step.IsMarked flag) (bean : Bean) :
    renderSteps (steps.map (Step.flushing flag)) bean =
      (renderSteps steps bean).marked flag := by
  induction steps with
  | nil => rfl
  | cons step rest ih =>
      rw [List.forall_mem_cons] at all
      obtain ⟨⟨item, leads, inner⟩, others⟩ := all
      obtain ⟨⟨name, nodeName, occurs, binding⟩, leading, level⟩ := step
      have first := item.renderStep ⟨name, nodeName, occurs, binding⟩ bean
      simp only [List.map_cons, Step.flushing, Property.flushing, renderSteps,
        Emission.marked_bind, Emission.marked_map, ← ih others, ← first]
      rfl

end Codec

end FlatMessage
