import FlatMessage.Codec.Delivery
import FlatMessage.Text.Utf8
import FlatMessage.Proofs.Compilation

/-!
# Sending to a destination

A destination takes bytes until it has no more room, and then fails.  A computation
that sends may run against a destination or against a memory of its own, which takes
everything and is thrown away if the computation fails.

Every byte that is sent knows the bodies it belongs to, so that it can be said what had
happened before the byte arrived.

A computation performs an emission when, at every destination, it does what delivering
the pieces of the emission does.
-/

namespace FlatMessage

namespace Streaming

open Codec (Layout Piece WriteError deliverPieces destinationFull)

/-! ## What a destination takes -/

/-- Whether there is room for a number of bytes. -/
def fits (room : Option Nat) (count : Nat) : Bool :=
  room.all (count ≤ ·)

/-- What there is room for. -/
def taken {α : Type} (room : Option Nat) (bytes : List α) : List α :=
  room.elim bytes bytes.take

/-- The room that is left after some bytes. -/
def left (room : Option Nat) (count : Nat) : Option Nat :=
  room.map (· - count)

/-- The bytes of pieces under a table. -/
def bytesOf (table : Delimiter.Table) (pieces : List Piece) : List UInt8 :=
  Text.bytes (Piece.textOf table pieces)

section

variable {α : Type} {room : Option Nat}

theorem fits_add (room : Option Nat) (first second : Nat) :
    fits room (first + second) = (fits room first && fits (left room first) second) := by
  cases room with
  | none => rfl
  | some room =>
      rw [Bool.eq_iff_iff]
      simp only [fits, left, Option.all_some, Option.map_some, Bool.and_eq_true,
        decide_eq_true_eq]
      omega

theorem left_left (room : Option Nat) (first second : Nat) :
    left (left room first) second = left room (first + second) := by
  cases room <;> simp [left, Nat.sub_sub]

theorem taken_append_of_fits {first : List α} (enough : fits room first.length = true)
    (second : List α) :
    taken room (first ++ second) = first ++ taken (left room first.length) second := by
  cases room with
  | none => rfl
  | some room =>
      have inside : first.length ≤ room := by simpa [fits] using enough
      simp [taken, left, List.take_append, List.take_of_length_le inside]

theorem taken_append_of_not_fits {first : List α} (full : fits room first.length = false)
    (second : List α) : taken room (first ++ second) = taken room first := by
  cases room with
  | none => cases full
  | some room =>
      have beyond : room < first.length := by simpa [fits] using full
      exact List.take_append_of_le_length (Nat.le_of_lt beyond)

end

/-! ## Deliveries in closed form -/

section

variable (table : Delimiter.Table) (outcome : Except WriteError Unit) (room : Option Nat)

@[simp]
theorem bytesOf_nil : bytesOf table [] = [] := by
  simp [bytesOf]

@[simp]
theorem bytesOf_append (first second : List Piece) :
    bytesOf table (first ++ second) = bytesOf table first ++ bytesOf table second := by
  simp [bytesOf]

theorem bytesOf_cons (piece : Piece) (rest : List Piece) :
    bytesOf table (piece :: rest) = Text.bytes (piece.text table) ++ bytesOf table rest := by
  simp [bytesOf, Piece.textOf]

/-- Flush marks have no bytes. -/
theorem bytesOf_filter (pieces : List Piece) :
    bytesOf table (pieces.filter (· ≠ .flush)) = bytesOf table pieces := by
  induction pieces with
  | nil => rfl
  | cons piece rest ih =>
      by_cases same : piece = .flush
      · rw [List.filter_cons_of_neg (by simpa using same), ih, bytesOf_cons, same]
        simp [Piece.text]
      · rw [List.filter_cons_of_pos (by simpa using same), bytesOf_cons, bytesOf_cons, ih]

/-- A flush mark takes no room. -/
theorem deliverPieces_flush (rest : List Piece) :
    deliverPieces table outcome room (.flush :: rest) =
      { deliverPieces table outcome room rest with
        flushes := (deliverPieces table outcome room rest).flushes + 1 } := by
  simp only [deliverPieces]

/-- Any other piece is delivered if there is room for it. -/
theorem deliverPieces_cons {piece : Piece} (visible : piece ≠ .flush) (rest : List Piece) :
    deliverPieces table outcome room (piece :: rest) =
      let bytes := Text.bytes (piece.text table)
      if fits room bytes.length then
        { deliverPieces table outcome (left room bytes.length) rest with
          bytes := bytes ++
            (deliverPieces table outcome (left room bytes.length) rest).bytes }
      else ⟨taken room bytes, 0, .error destinationFull⟩ := by
  cases piece with
  | flush => contradiction
  | code text | delimiter level | value rendered =>
      cases room with
      | none => simp [deliverPieces, fits, left]
      | some room =>
          simp only [deliverPieces, ← Nat.not_le, ite_not]
          simp [fits, taken, left]

/-- What arrives is the beginning of what is sent for which there is room. -/
theorem bytes_deliverPieces (pieces : List Piece) :
    (deliverPieces table outcome room pieces).bytes = taken room (bytesOf table pieces) := by
  induction pieces generalizing room with
  | nil => cases room <;> simp [deliverPieces, taken]
  | cons piece rest ih =>
      by_cases same : piece = .flush
      · rw [same, deliverPieces_flush, bytesOf_cons]
        simpa [Piece.text] using ih room
      · rw [deliverPieces_cons table outcome room same, bytesOf_cons]
        cases enough : fits room (Text.bytes (piece.text table)).length with
        | true =>
            rw [taken_append_of_fits enough]
            simp [enough, ih]
        | false =>
            rw [taken_append_of_not_fits enough]
            simp [enough]

/-- Where there is no room for everything, the delivery fails. -/
theorem outcome_deliverPieces (pieces : List Piece) :
    (deliverPieces table outcome room pieces).outcome =
      if fits room (bytesOf table pieces).length then outcome else .error destinationFull := by
  induction pieces generalizing room with
  | nil => cases room <;> simp [deliverPieces, fits]
  | cons piece rest ih =>
      by_cases same : piece = .flush
      · rw [same, deliverPieces_flush, bytesOf_cons]
        simpa [Piece.text] using ih room
      · rw [deliverPieces_cons table outcome room same, bytesOf_cons, List.length_append,
          fits_add]
        cases enough : fits room (Text.bytes (piece.text table)).length with
        | true => simp [enough, ih]
        | false => simp [enough]

/-- Without flush marks nothing is flushed. -/
theorem flushes_deliverPieces {pieces : List Piece} (plain : .flush ∉ pieces) :
    (deliverPieces table outcome room pieces).flushes = 0 := by
  induction pieces generalizing room with
  | nil => rfl
  | cons piece rest ih =>
      rw [List.mem_cons, not_or] at plain
      rw [deliverPieces_cons table outcome room (Ne.symm plain.1)]
      cases enough : fits room (Text.bytes (piece.text table)).length with
      | true => simpa [enough] using ih _ plain.2
      | false => simp [enough]

/-- Where there is room for everything, the amount of room does not matter. -/
theorem deliverPieces_of_fits {pieces : List Piece}
    (enough : fits room (bytesOf table pieces).length = true) :
    deliverPieces table outcome room pieces = deliverPieces table outcome none pieces := by
  induction pieces generalizing room with
  | nil => rfl
  | cons piece rest ih =>
      rw [bytesOf_cons, List.length_append, fits_add, Bool.and_eq_true] at enough
      by_cases same : piece = .flush
      · have rest : fits room (bytesOf table rest).length = true := by
          have := enough.2
          rw [same] at this
          cases room <;> simpa [Piece.text, left] using this
        rw [same, deliverPieces_flush, deliverPieces_flush, ih room rest]
      · have unlimited : fits none (Text.bytes (piece.text table)).length = true := rfl
        rw [deliverPieces_cons table outcome room same,
          deliverPieces_cons table outcome none same]
        simp only [enough.1, unlimited, if_true]
        rw [ih _ enough.2]
        rfl

/-- Pieces are delivered one part after the other. -/
theorem deliverPieces_append (first second : List Piece) :
    deliverPieces table outcome room (first ++ second) =
      let before := deliverPieces table (.ok ()) room first
      match before.outcome with
      | .ok _ =>
          let after := deliverPieces table outcome (left room before.bytes.length) second
          ⟨before.bytes ++ after.bytes, before.flushes + after.flushes, after.outcome⟩
      | .error error => ⟨before.bytes, before.flushes, .error error⟩ := by
  induction first generalizing room with
  | nil => cases room <;> simp [deliverPieces, left]
  | cons piece rest ih =>
      rw [List.cons_append]
      by_cases same : piece = .flush
      · rw [same, deliverPieces_flush, deliverPieces_flush, ih]
        generalize deliverPieces table (.ok ()) room rest = before
        obtain ⟨bytes, flushes, _ | _⟩ := before <;> simp [Nat.add_right_comm]
      · rw [deliverPieces_cons table outcome room same,
          deliverPieces_cons table (.ok ()) room same]
        cases enough : fits room (Text.bytes (piece.text table)).length with
        | false => simp [enough]
        | true =>
            simp only [enough, if_true]
            rw [ih]
            generalize deliverPieces table (.ok ())
              (left room (Text.bytes (piece.text table)).length) rest = before
            obtain ⟨bytes, flushes, _ | _⟩ := before <;> simp [left_left]

end

/-! ## Computations that send -/

/-- A body that is being written for a bean. -/
structure Body where
  layout : Layout
  bean : Bean

/-- A byte that was sent, and the bodies it belongs to, the innermost first. -/
structure Sent where
  byte : UInt8
  bodies : List Body

/-- A destination and what has arrived there. -/
structure Destination where
  received : List Sent
  flushes : Nat
  /-- The number of bytes that it will still take; absent if it takes everything. -/
  room : Option Nat

/-- A destination where nothing has arrived. -/
def Destination.empty (room : Option Nat) : Destination :=
  ⟨[], 0, room⟩

/-- A computation that sends to a destination. -/
abbrev Sending :=
  ExceptT WriteError (StateM Destination)

/-- Send bytes.  The destination takes those for which it has room; if it does not take
all of them, it fails. -/
def send (bytes : List Sent) : Sending Unit := do
  let destination ← get
  set
    { destination with
      received := destination.received ++ taken destination.room bytes
      room := left destination.room bytes.length }
  if fits destination.room bytes.length then return else throw destinationFull

/-- The bytes of a text that belongs to some bodies. -/
def sentText (bodies : List Body) (text : String) : List Sent :=
  (Text.bytes text).map fun byte => ⟨byte, bodies⟩

/-- Flush the destination. -/
def flush : Sending Unit :=
  modify fun destination => { destination with flushes := destination.flushes + 1 }

/-- Run a computation against a memory of its own. -/
def inMemory {α : Type} (sending : Sending α) : Except WriteError (α × List Sent) :=
  match sending.run.run (.empty none) with
  | (.ok result, memory) => .ok (result, memory.received)
  | (.error error, _) => .error error

end Streaming

end FlatMessage
