import FlatMessage.Proofs.Streaming.Destination

/-!
# Performing an emission

A computation performs an emission when it does at every destination what delivering
the pieces of the emission does, with every byte inside the bodies around it.  The values
of the emission are those that encoders render.

Performing goes along with running one computation after the other, and with keeping
what is sent in a memory.
-/

namespace FlatMessage.Streaming

open Codec (Emission Piece Token WriteError deliverPieces destinationFull)

/-- The slots of a body are rendered without error, if the body is truncated. -/
def Body.IsRendered (body : Body) : Prop :=
  body.layout.truncates = true →
    ∃ tokens, (Codec.renderSteps body.layout.body body.bean).outcome = .ok tokens

/-- A byte belongs to some bodies; those that it belongs to within them are rendered. -/
def Sent.Within (bodies : List Body) (sent : Sent) : Prop :=
  ∃ inner, sent.bodies = inner ++ bodies ∧ ∀ body ∈ inner, body.IsRendered

/-- A destination after bytes were sent and flushes were made. -/
def Destination.after (destination : Destination) (sent : List Sent) (flushes : Nat) :
    Destination :=
  ⟨destination.received ++ sent, destination.flushes + flushes,
    left destination.room sent.length⟩

/-- A value is what an encoder renders of a scalar. -/
def IsRendered (piece : Piece) : Prop :=
  ∀ rendered, piece = .value rendered →
    ∃ encoder scalar, Encoder.render encoder scalar = .ok rendered

/-- A computation that sends does at every destination what delivering the pieces of an
emission does. -/
structure Performs {α : Type} (table : Delimiter.Table) (bodies : List Body)
    (sending : Sending α) (emission : Emission α) : Prop where
  rendered : ∀ piece ∈ emission.pieces, IsRendered piece
  run : ∀ destination : Destination, ∃ sent : List Sent,
    let delivery := deliverPieces table (.ok ()) destination.room emission.pieces
    sent.map Sent.byte = delivery.bytes ∧ (∀ byte ∈ sent, byte.Within bodies) ∧
      sending.run.run destination =
        (delivery.outcome.bind fun _ => emission.outcome,
          destination.after sent delivery.flushes)

/-! ## Bytes and the bodies around them -/

section

variable {bodies : List Body}

theorem within_sentText (text : String) : ∀ sent ∈ sentText bodies text, sent.Within bodies := by
  intro sent member
  obtain ⟨byte, -, rfl⟩ := List.mem_map.mp member
  exact ⟨[], rfl, by simp⟩

@[simp]
theorem map_byte_sentText (text : String) :
    (sentText bodies text).map Sent.byte = Text.bytes text := by
  simp [sentText, Function.comp_def]

/-- Bytes spell pieces without flush marks. -/
structure Spells (table : Delimiter.Table) (bodies : List Body) (sent : List Sent)
    (pieces : List Piece) : Prop where
  bytes : sent.map Sent.byte = bytesOf table pieces
  within : ∀ byte ∈ sent, byte.Within bodies
  rendered : ∀ piece ∈ pieces, IsRendered piece
  plain : .flush ∉ pieces

namespace Spells

variable {table : Delimiter.Table}

theorem nil : Spells table bodies [] [] :=
  ⟨by simp, by simp, by simp, by simp⟩

theorem append {first second : List Sent} {pieces others : List Piece}
    (before : Spells table bodies first pieces) (after : Spells table bodies second others) :
    Spells table bodies (first ++ second) (pieces ++ others) where
  bytes := by rw [List.map_append, before.bytes, after.bytes, bytesOf_append]
  within := by
    intro byte member
    exact (List.mem_append.mp member).elim (before.within byte) (after.within byte)
  rendered := by
    intro piece member
    exact (List.mem_append.mp member).elim (before.rendered piece) (after.rendered piece)
  plain := by
    rw [List.mem_append, not_or]
    exact ⟨before.plain, after.plain⟩

/-- The text of a piece spells it. -/
theorem text {piece : Piece} (isRendered : IsRendered piece) (visible : piece ≠ .flush) :
    Spells table bodies (sentText bodies (piece.text table)) [piece] where
  bytes := by simp [bytesOf, Piece.textOf]
  within := within_sentText _
  rendered := by simpa using isRendered
  plain := by simpa using Ne.symm visible

theorem code (code : String) : Spells table bodies (sentText bodies code) [.code code] := by
  have isRendered : IsRendered (.code code) := by simp [IsRendered]
  have visible : Piece.code code ≠ .flush := nofun
  exact text isRendered visible

theorem delimiter (level : Delimiter.Level) :
    Spells table bodies (sentText bodies (table.get level)) [.delimiter level] := by
  have isRendered : IsRendered (.delimiter level) := by simp [IsRendered]
  have visible : Piece.delimiter level ≠ .flush := nofun
  exact text isRendered visible

end Spells

/-- A byte within a rendered body belongs to whatever is around that body. -/
theorem Sent.Within.of_cons {body : Body} (rendered : body.IsRendered) {sent : Sent}
    (within : sent.Within (body :: bodies)) : sent.Within bodies := by
  obtain ⟨inner, belongs, each⟩ := within
  exists inner ++ [body]
  constructor
  · simpa using belongs
  · intro other member
    rcases List.mem_append.mp member with inside | last
    · exact each other inside
    · obtain rfl := List.mem_singleton.mp last
      exact rendered

end

/-! ## Sequences -/

theorem left_taken {α : Type} (room : Option Nat) (bytes : List α) :
    left room (taken room bytes).length = left room bytes.length := by
  cases room with
  | none => rfl
  | some room =>
      simp only [left, taken, Option.elim_some, Option.map_some, List.length_take,
        Option.some.injEq]
      omega

theorem map_taken {α β : Type} (change : α → β) (room : Option Nat) (bytes : List α) :
    (taken room bytes).map change = taken room (bytes.map change) := by
  cases room <;> simp [taken, List.map_take]

theorem mem_of_mem_taken {α : Type} {room : Option Nat} {bytes : List α} {byte : α}
    (member : byte ∈ taken room bytes) : byte ∈ bytes := by
  cases room with
  | none => exact member
  | some room => exact List.mem_of_mem_take member

/-- Sending takes a step at a destination. -/
theorem run_send (bytes : List Sent) (destination : Destination) :
    (send bytes).run.run destination =
      (if fits destination.room bytes.length then .ok () else .error destinationFull,
        destination.after (taken destination.room bytes) 0) := by
  rw [Destination.after, left_taken]
  have run : (send bytes).run.run destination =
      (if fits destination.room bytes.length then pure () else throw destinationFull :
        Sending Unit).run.run
          { destination with
            received := destination.received ++ taken destination.room bytes
            room := left destination.room bytes.length } :=
    rfl
  rw [run]
  cases fits destination.room bytes.length <;> rfl

namespace Performs

variable {α β : Type} {table : Delimiter.Table} {bodies : List Body}

theorem done (result : α) : Performs table bodies (pure result) (.done result) := by
  refine ⟨by simp [Emission.done], fun destination => ?_⟩
  refine ⟨[], rfl, by simp, ?_⟩
  obtain ⟨received, flushes, room⟩ := destination
  cases room <;> simp [Destination.after, left, deliverPieces, Emission.done] <;> rfl

theorem fail (error : WriteError) :
    Performs table bodies (throw error) (.fail error : Emission α) := by
  refine ⟨by simp [Emission.fail], fun destination => ?_⟩
  refine ⟨[], rfl, by simp, ?_⟩
  obtain ⟨received, flushes, room⟩ := destination
  cases room <;> simp [Destination.after, left, deliverPieces, Emission.fail] <;> rfl

/-- Computations are performed one after the other. -/
theorem bind {first : Sending α} {emission : Emission α} {next : α → Sending β}
    {further : α → Emission β} (before : Performs table bodies first emission)
    (after : ∀ result, Performs table bodies (next result) (further result)) :
    Performs table bodies (first >>= next) (emission >>= further) := by
  obtain ⟨pieces, outcome⟩ := emission
  cases outcome with
  | error error =>
      have whole : (⟨pieces, .error error⟩ >>= further : Emission β) = ⟨pieces, .error error⟩ :=
        rfl
      rw [whole]
      refine ⟨before.rendered, fun destination => ?_⟩
      obtain ⟨sent, bytes, within, run⟩ := before.run destination
      refine ⟨sent, bytes, within, ?_⟩
      rw [Compiler.run_bind, run]
      cases (deliverPieces table (.ok ()) destination.room pieces).outcome <;> rfl
  | ok result =>
      have whole : (⟨pieces, .ok result⟩ >>= further : Emission β) =
          ⟨pieces ++ (further result).pieces, (further result).outcome⟩ :=
        rfl
      rw [whole]
      refine ⟨?_, fun destination => ?_⟩
      · intro piece member
        exact (List.mem_append.mp member).elim (before.rendered piece)
          ((after result).rendered piece)
      · obtain ⟨sent, bytes, within, run⟩ := before.run destination
        rw [Compiler.run_bind, run]
        simp only [deliverPieces_append]
        generalize deliverPieces table (.ok ()) destination.room pieces = delivery at bytes ⊢
        obtain ⟨delivered, flushes, _ | _⟩ := delivery
        · exact ⟨sent, bytes, within, rfl⟩
        · have arrived : sent.map Sent.byte = delivered := bytes
          obtain ⟨later, laterBytes, laterWithin, laterRun⟩ :=
            (after result).run (destination.after sent flushes)
          have room : (destination.after sent flushes).room =
              left destination.room delivered.length := by
            rw [← arrived, List.length_map]
            rfl
          rw [room] at laterBytes laterRun
          refine ⟨sent ++ later, ?_, ?_, ?_⟩
          · rw [List.map_append, arrived, laterBytes]
          · intro byte member
            exact (List.mem_append.mp member).elim (within byte) (laterWithin byte)
          · refine laterRun.trans ?_
            simp [Destination.after, left_left, Nat.add_assoc]

/-- A result is changed without anything being sent. -/
theorem map (change : α → β) {sending : Sending α} {emission : Emission α}
    (performs : Performs table bodies sending emission) :
    Performs table bodies (change <$> sending) (change <$> emission) := by
  have same : (change <$> emission) = emission >>= fun result => .done (change result) :=
    Emission.mapResult_eq_andThen change emission
  rw [same, map_eq_pure_bind]
  exact performs.bind fun result => done (change result)

/-- Bytes that spell pieces are sent at once. -/
theorem send {sent : List Sent} {pieces : List Piece}
    (spells : Spells table bodies sent pieces) :
    Performs table bodies (send sent) ⟨pieces, .ok ()⟩ := by
  refine ⟨spells.rendered, fun destination => ?_⟩
  have length : sent.length = (bytesOf table pieces).length := by
    rw [← spells.bytes, List.length_map]
  refine ⟨taken destination.room sent, ?_, ?_, ?_⟩
  · rw [bytes_deliverPieces, map_taken, spells.bytes]
  · intro byte member
    exact spells.within byte (mem_of_mem_taken member)
  · rw [run_send, outcome_deliverPieces, flushes_deliverPieces _ _ _ spells.plain, length]
    cases fits destination.room (bytesOf table pieces).length <;> rfl

/-- The text of a piece is sent. -/
theorem text {piece : Piece} (isRendered : IsRendered piece) (visible : piece ≠ .flush) :
    Performs table bodies (Streaming.send (sentText bodies (piece.text table)))
      (Emission.piece piece) :=
  send (.text isRendered visible)

theorem code (code : String) :
    Performs table bodies (Streaming.send (sentText bodies code))
      (Emission.piece (.code code)) :=
  send (.code code)

theorem delimiter (level : Delimiter.Level) :
    Performs table bodies (Streaming.send (sentText bodies (table.get level)))
      (Emission.piece (.delimiter level)) :=
  send (.delimiter level)

/-- A flush mark flushes the destination. -/
theorem flush : Performs table bodies Streaming.flush (Emission.piece .flush) := by
  refine ⟨by simp [Emission.piece, IsRendered], fun destination => ?_⟩
  obtain ⟨received, flushes, room⟩ := destination
  refine ⟨[], rfl, by simp, ?_⟩
  cases room <;> simp [Destination.after, left, deliverPieces, Emission.piece] <;> rfl

/-- What is performed within a rendered body is performed. -/
theorem of_cons {body : Body} (rendered : body.IsRendered) {sending : Sending α}
    {emission : Emission α} (performs : Performs table (body :: bodies) sending emission) :
    Performs table bodies sending emission := by
  refine ⟨performs.rendered, fun destination => ?_⟩
  obtain ⟨sent, bytes, within, run⟩ := performs.run destination
  exact ⟨sent, bytes, fun byte member => (within byte member).of_cons rendered, run⟩

/-- A memory keeps the bytes of an emission that succeeds, and an error otherwise. -/
theorem inMemory {sending : Sending α} {emission : Emission α}
    (performs : Performs table bodies sending emission) :
    match emission.outcome with
    | .ok result =>
        ∃ sent, inMemory sending = .ok (result, sent) ∧
          Spells table bodies sent (emission.pieces.filter (· ≠ .flush))
    | .error error => inMemory sending = .error error := by
  obtain ⟨sent, bytes, within, run⟩ := performs.run (.empty none)
  have all : (deliverPieces table (.ok ()) (Destination.empty none).room
      emission.pieces).outcome = .ok () :=
    outcome_deliverPieces ..
  rw [all] at run
  rw [bytes_deliverPieces, ← bytesOf_filter] at bytes
  obtain ⟨pieces, _ | result⟩ := emission
  · rw [Streaming.inMemory, run]
    rfl
  · have rendered : ∀ piece ∈ pieces.filter (· ≠ .flush), IsRendered piece := by
      intro piece member
      exact performs.rendered piece (List.mem_of_mem_filter member)
    refine ⟨sent, ?_, bytes, within, rendered, by simp⟩
    rw [Streaming.inMemory, run]
    rfl

end Performs

end FlatMessage.Streaming
