import FlatMessage.Proofs.Flushing.Types
import FlatMessage.Proofs.Streaming.Prefixes
import FlatMessage.Proofs.Unambiguous.Decoding

/-!
# Flushes after segments

What is written for a bean is the sequence of its segments, each with its terminator.  With
the flush option a flush comes after every one of them, and nowhere else: before the
segments nested in it, and never in the middle of a segment.
-/

namespace FlatMessage

/-- Where every member of a row ends with a mark that it has nowhere else, what comes up to a
mark is the row up to one of its members. -/
theorem exists_of_flatMap_eq_append_mark {α β : Type} {mark : β} {body : α → List β}
    {row : List α} (inside : ∀ member ∈ row, mark ∉ body member) {before after : List β}
    (split : (row.flatMap fun member => body member ++ [mark]) = before ++ mark :: after) :
    ∃ earlier last later, row = earlier ++ last :: later ∧
      before ++ [mark] = (earlier ++ [last]).flatMap fun member => body member ++ [mark] := by
  induction row generalizing before with
  | nil => simp at split
  | cons first rest ih =>
      rw [List.forall_mem_cons] at inside
      rw [List.flatMap_cons, List.append_assoc, List.singleton_append] at split
      rcases List.append_eq_append_iff.mp split with
        ⟨more, begins, others⟩ | ⟨more, whole, others⟩
      · cases more with
        | nil => exact ⟨[], first, rest, rfl, by simp [begins]⟩
        | cons piece more =>
            rw [List.cons_append, List.cons.injEq] at others
            obtain ⟨rfl, others⟩ := others
            obtain ⟨earlier, last, later, rfl, same⟩ := ih inside.2 others
            refine ⟨first :: earlier, last, later, rfl, ?_⟩
            rw [List.cons_append, List.flatMap_cons, ← same, begins]
            simp
      · cases more with
        | nil =>
            rw [List.append_nil] at whole
            exact ⟨[], first, rest, rfl, by simp [whole]⟩
        | cons piece more =>
            rw [List.cons_append, List.cons.injEq] at others
            rw [whole, ← others.1] at inside
            exact absurd (by simp) inside.1

namespace Streaming

open Codec (Piece WriteError deliverPieces)

/-- A destination with room for everything is flushed at every mark. -/
theorem flushes_deliverPieces_unlimited (table : Delimiter.Table)
    (outcome : Except WriteError Unit) (pieces : List Piece) :
    (deliverPieces table outcome none pieces).flushes = pieces.count .flush := by
  induction pieces with
  | nil => rfl
  | cons piece rest ih =>
      by_cases same : piece = .flush
      · rw [same, deliverPieces_flush, List.count_cons_self, ← ih]
      · rw [deliverPieces_cons table outcome none same, List.count_cons_of_ne same, ← ih]
        rfl

/-- Without its marks a sequence of pieces arrives as it does with them, unflushed. -/
theorem deliverPieces_filter (table : Delimiter.Table) (outcome : Except WriteError Unit)
    (room : Option Nat) (pieces : List Piece) :
    deliverPieces table outcome room (pieces.filter (· ≠ .flush)) =
      { deliverPieces table outcome room pieces with flushes := 0 } := by
  induction pieces generalizing room with
  | nil => rfl
  | cons piece rest ih =>
      by_cases same : piece = .flush
      · rw [List.filter_cons_of_neg (by simpa using same), ih, same, deliverPieces_flush]
      · rw [List.filter_cons_of_pos (by simpa using same),
          deliverPieces_cons table outcome room same,
          deliverPieces_cons table outcome room same]
        dsimp only
        rw [ih]
        split <;> rfl

end Streaming

namespace Reading

open Codec (Piece)

/-- A segment that writes no code has nothing between code and terminator. -/
theorem Head.run_eq_nil {head : Head} {slots : List Part} (level : head.kind.level = .segment)
    (uncoded : head.isCoded = false) (unused : head.hasFields = false → slots = []) :
    head.run (Part.piecesOf slots) = [] := by
  cases kind : head.kind with
  | segmentGroup => simp [run, kind, Schema.ContainerKind.childLevel?]
  | segment =>
      have without : head.hasFields = false := by simpa [isCoded, kind] using uncoded
      simp [run, kind, Schema.ContainerKind.childLevel?, unused without, Part.piecesOf]
  | field => simp [kind, Schema.ContainerKind.level] at level
  | component => simp [kind, Schema.ContainerKind.level] at level

namespace Part

/-! ## Pieces of segments -/

/-- The pieces of a coded occurrence up to its terminator. -/
def occurrencePieces (occurrence : Head × List Part) : List Piece :=
  occurrence.1.opening ++ occurrence.1.run (piecesOf occurrence.2)

/-- The pieces of a segment are those of its coded occurrences, each with its terminator. -/
theorem IsSegment.pieces_eq {part : Part} (stands : part.IsSegment) :
    part.pieces =
      part.coded.flatMap fun occurrence =>
        occurrencePieces occurrence ++ [.delimiter .segment] := by
  induction stands with
  | @segment head slots nested level unused fit inner ih =>
      have nestedPieces : (piecesOf nested).flatten =
          (nested.flatMap coded).flatMap fun occurrence =>
            occurrencePieces occurrence ++ [.delimiter .segment] := by
        rw [piecesOf_eq_map, List.map_congr_left ih, List.flatMap_assoc, List.flatMap_def]
      rw [pieces, coded_container fit, List.flatMap_append, ← nestedPieces]
      congr 1
      cases isCoded : head.isCoded with
      | true => simp [occurrencePieces, Head.closing, isCoded]
      | false =>
          have empty := Head.run_eq_nil level isCoded unused
          simp [Head.opening, Head.closing, isCoded, empty]

section

variable {part : Part} {occurrence : Head × List Part}

/-- A coded occurrence is the segment of its head. -/
theorem isCoded_of_mem_coded (member : occurrence ∈ part.coded) :
    occurrence.1.isCoded = true :=
  (List.mem_filter.mp member).2

/-- There is no mark and no terminator inside a segment. -/
theorem isPlain_of_mem_occurrencePieces
    (fit : ∀ slot ∈ occurrence.2, FitsSlot .segment slot) :
    ∀ piece ∈ occurrencePieces occurrence, piece.IsPlain := by
  have slots : ∀ pieces ∈ piecesOf occurrence.2, ∀ piece ∈ pieces, piece.IsPlain := by
    rw [piecesOf_eq_map, List.forall_mem_map]
    exact fun slot member => (fit slot member).isPlain_of_mem_pieces
  have opening : ∀ piece ∈ occurrence.1.opening, piece.IsPlain := by
    unfold Head.opening
    split
    · cases occurrence.1.code <;> simp [Piece.IsPlain]
    · exact List.forall_mem_nil _
  rw [occurrencePieces, List.forall_mem_append]
  exact ⟨opening, occurrence.1.isPlain_of_mem_run slots⟩

theorem flush_not_mem_occurrencePieces
    (fit : ∀ slot ∈ occurrence.2, FitsSlot .segment slot) :
    .flush ∉ occurrencePieces occurrence := by
  intro member
  exact (isPlain_of_mem_occurrencePieces fit _ member).1 rfl

/-- The pieces of an occurrence spell its text. -/
theorem textOf_occurrencePieces (isCoded : occurrence.1.isCoded = true)
    (fit : ∀ slot ∈ occurrence.2, FitsSlot .segment slot) (table : Delimiter.Table) :
    Piece.textOf table (occurrencePieces occurrence) = segmentText table occurrence := by
  obtain ⟨kind, fields⟩ := occurrence.1.isCoded_iff.mp isCoded
  have spelled : ∀ slot ∈ occurrence.2, Piece.textOf table slot.pieces = slot.text table :=
    fun slot member => (fit slot member).textOf_pieces table
  have opening : Piece.textOf table occurrence.1.opening = occurrence.1.code.getD "" := by
    rw [Head.opening, if_pos isCoded]
    cases occurrence.1.code <;> simp [Piece.textOf, Piece.text]
  have run : occurrence.1.run (piecesOf occurrence.2) =
      between (some .field) .field (piecesOf occurrence.2) := by
    rw [Head.run, Head.leading, if_pos isCoded, kind]
    rfl
  rw [occurrencePieces, Piece.textOf_append, segmentText, join_cons, opening, run,
    textOf_between_some, map_textOf_pieces spelled]
  rfl

end

/-! ## Flushes -/

/-- The text of segments, each with its terminator. -/
def segmentsText (table : Delimiter.Table) (segments : List (Head × List Part)) : String :=
  String.join (segments.map fun segment => segmentText table segment ++ table.segment)

/-- The pieces of a segment with its terminator and the mark that the flush option asks for. -/
def markedSegment (flag : Bool) (segment : Head × List Part) : List Piece :=
  occurrencePieces segment ++ Piece.mark flag (.delimiter .segment)

/-- Marking a segment puts a mark after the terminator of each of its coded occurrences. -/
theorem IsSegment.marking_pieces (flag : Bool) {part : Part} (stands : part.IsSegment) :
    Piece.marking flag part.pieces = part.coded.flatMap (markedSegment flag) := by
  rw [stands.pieces_eq, Piece.marking, List.flatMap_assoc]
  apply List.flatMap_congr
  intro segment member
  have plain := isPlain_of_mem_occurrencePieces (stands.fit_of_mem_coded member)
  rw [← Piece.marking, Piece.marking_append, Piece.marking_eq_self flag plain, Piece.marking,
    List.flatMap_singleton, markedSegment]

section

variable {segments : List (Head × List Part)}

/-- Occurrences that write their codes, and whose slots stand where they may. -/
def AreCoded (segments : List (Head × List Part)) : Prop :=
  ∀ segment ∈ segments, segment.1.isCoded = true ∧
    ∀ slot ∈ segment.2, FitsSlot .segment slot

theorem IsSegment.areCoded {part : Part} (stands : part.IsSegment) : AreCoded part.coded :=
  fun _ member => ⟨isCoded_of_mem_coded member, stands.fit_of_mem_coded member⟩

/-- There is a mark for every segment. -/
theorem count_flush_flatMap (coded : AreCoded segments) :
    (segments.flatMap (markedSegment true)).count .flush = segments.length := by
  induction segments with
  | nil => rfl
  | cons segment rest ih =>
      rw [AreCoded, List.forall_mem_cons] at coded
      have inside := flush_not_mem_occurrencePieces coded.1.2
      rw [List.flatMap_cons, List.count_append, ih coded.2, markedSegment, List.count_append,
        List.count_eq_zero_of_not_mem inside, List.length_cons, Nat.add_comm]
      rfl

/-- The text of segments is spelled by their pieces, marked or not. -/
theorem textOf_flatMap_markedSegment (coded : AreCoded segments) (flag : Bool)
    (table : Delimiter.Table) :
    Piece.textOf table (segments.flatMap (markedSegment flag)) =
      segmentsText table segments := by
  induction segments with
  | nil => rfl
  | cons segment rest ih =>
      rw [AreCoded, List.forall_mem_cons] at coded
      have own : Piece.textOf table (markedSegment flag segment) =
          segmentText table segment ++ table.segment := by
        rw [markedSegment, Piece.textOf_append,
          textOf_occurrencePieces coded.1.1 coded.1.2 table]
        cases flag <;> simp [Piece.mark, Piece.textOf, Piece.text, Delimiter.Table.get]
      rw [List.flatMap_cons, Piece.textOf_append, own, ih coded.2, segmentsText,
        segmentsText, List.map_cons, String.join_cons]

/-- What comes up to a mark is the segments up to one of them. -/
theorem exists_of_flatMap_eq_append_flush (coded : AreCoded segments)
    {before after : List Piece}
    (split : segments.flatMap (markedSegment true) = before ++ .flush :: after) :
    ∃ earlier last later, segments = earlier ++ last :: later ∧
      before ++ [.flush] = (earlier ++ [last]).flatMap (markedSegment true) := by
  have ends : markedSegment true = fun segment =>
      occurrencePieces segment ++ [.delimiter .segment] ++ [.flush] := by
    funext segment
    rw [markedSegment, List.append_assoc]
    rfl
  rw [ends] at split ⊢
  apply exists_of_flatMap_eq_append_mark _ split
  intro segment member
  rw [List.mem_append, List.mem_singleton, not_or]
  exact ⟨flush_not_mem_occurrencePieces (coded segment member).2, nofun⟩

end

end Part

end Reading

namespace Compiler

open Codec (CompiledType Emission Piece deliverPieces)
open Reading
open Schema (Container)
open Streaming

/-! ## Types with the flush option -/

/-- A bean of a type arrives segment by segment, with a flush after each of them. -/
structure FlushesAfter (type : CompiledType) (table : Delimiter.Table) (bean : Bean)
    (segments : List (Head × List Part)) : Prop where
  bytes : (type.deliver table none bean).bytes =
    Text.bytes (Part.segmentsText table segments)
  flushes : (type.deliver table none bean).flushes = segments.length
  /-- What has arrived at a flush ends with the terminator of a segment: the one with the
  number of the flush. -/
  complete : ∀ before after, (type.write bean).pieces = before ++ .flush :: after →
    ∃ earlier last later, segments = earlier ++ last :: later ∧
      (deliverPieces table (.ok ()) none before).flushes = earlier.length ∧
      (deliverPieces table (.ok ()) none before).bytes =
        Text.bytes (Part.segmentsText table (earlier ++ [last]))

variable {root : Container} {type : CompiledType} {table : Delimiter.Table} {bean : Bean}

/-- Pieces that are marked segments are flushed after each of them. -/
theorem flushesAfter_of_pieces {segments : List (Head × List Part)}
    (coded : Part.AreCoded segments)
    (pieces : (type.write bean).pieces = segments.flatMap (Part.markedSegment true)) :
    FlushesAfter type table bean segments where
  bytes := by
    rw [CompiledType.deliver, bytes_deliverPieces, pieces, bytesOf,
      Part.textOf_flatMap_markedSegment coded]
    rfl
  flushes := by
    rw [CompiledType.deliver, flushes_deliverPieces_unlimited, pieces,
      Part.count_flush_flatMap coded]
  complete := by
    intro before after split
    rw [pieces] at split
    obtain ⟨earlier, last, later, rfl, begins⟩ :=
      Part.exists_of_flatMap_eq_append_flush coded split
    have codedHere : Part.AreCoded (earlier ++ [last]) :=
      fun segment member => coded segment (by
        rw [List.mem_append, List.mem_singleton] at member
        rcases member with inEarlier | rfl <;> simp [*])
    refine ⟨earlier, last, later, rfl, ?_, ?_⟩
    · have counted := Part.count_flush_flatMap codedHere
      rw [← begins, List.count_append, List.length_append] at counted
      rw [flushes_deliverPieces_unlimited]
      exact Nat.add_right_cancel counted
    · have arrived : bytesOf table before = bytesOf table (before ++ [.flush]) := by
        rw [bytesOf_append, bytesOf_cons]
        simp [Piece.text]
      rw [bytes_deliverPieces, arrived, begins, bytesOf,
        Part.textOf_flatMap_markedSegment codedHere]
      rfl

/-- With the flush option set, a bean that is delivered is flushed after every segment of its
reading. -/
theorem exists_flushesAfter (sound : root.Sound) (group : root.kind = .segmentGroup)
    (yields : Yields root type) (flushed : type.flushing true = type)
    (success : (type.deliver table none bean).outcome = .ok ()) :
    ∃ reading, readContainer root bean = .ok reading ∧
      FlushesAfter type table bean reading.trim.coded := by
  have written := written_of_yields root yields bean
  have enough : fits none (bytesOf table (type.write bean).pieces).length = true := rfl
  rw [CompiledType.deliver, outcome_deliverPieces, if_pos enough] at success
  rw [Emission.written] at written
  cases outcome : (type.write bean).outcome with
  | error error =>
      rw [outcome] at success
      cases success
  | ok result =>
      rw [outcome] at written
      cases read : readContainer root bean with
      | error error =>
          rw [read] at written
          cases written
      | ok reading =>
          rw [read] at written
          have visible : (type.write bean).pieces.filter (· ≠ .flush) = reading.trim.pieces :=
            congrArg Prod.snd (Except.ok.inj written)
          have stands := (isSegment_of_readContainer sound group read).trim
          have pieces : (type.write bean).pieces =
              reading.trim.coded.flatMap (Part.markedSegment true) := by
            calc
              (type.write bean).pieces = ((type.flushing true).write bean).pieces := by
                rw [flushed]
              _ = Piece.marking true (type.write bean).pieces := by
                rw [write_flushing root sound yields]
                rfl
              _ = Piece.marking true reading.trim.pieces := by
                rw [← Piece.marking_filter, visible]
              _ = _ := stands.marking_pieces true
          exact ⟨reading, rfl, flushesAfter_of_pieces stands.areCoded pieces⟩

/-- Without the flush option everything arrives as it does with it, unflushed. -/
theorem deliver_flushing_false (sound : root.Sound) (yields : Yields root type)
    (table : Delimiter.Table) (room : Option Nat) (bean : Bean) :
    (type.flushing false).deliver table room bean =
      { type.deliver table room bean with flushes := 0 } := by
  rw [CompiledType.deliver, write_flushing root sound yields]
  dsimp only [Emission.marked]
  rw [Piece.marking_false, deliverPieces_filter]
  rfl

end Compiler

end FlatMessage
