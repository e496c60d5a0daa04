import FlatMessage.Delimiter.Escape
import FlatMessage.Encoder

/-!
# Pieces and emissions

Writing a bean yields a sequence of pieces that does not depend on a delimiter
table: segment codes, delimiters of a level, rendered values, and marks where the
destination is flushed.  A table turns the sequence into text.

An emission is such a sequence together with its outcome.  Emissions run one
after the other; the first error ends the whole, and the pieces before it stay
written.
-/

namespace FlatMessage.Codec

open Delimiter (Level)

/-- What a property's values were expected to be. -/
inductive Expectation
  | scalarValue
  | bean
  | singleOccurrence
  deriving DecidableEq, Repr

/-- The wording of an expectation. -/
def Expectation.phrase : Expectation → String
  | scalarValue => "a scalar value"
  | bean => "a bean"
  | singleOccurrence => "a single occurrence"

/-- Why a bean is not written. -/
inductive WriteError
  | value (dataType : Encoder.DataType) (found : Kind)
  | property (name : String) (expected : Expectation) (found : Kind)
  | tooMany (name : String) (max found : Nat)
  /-- The destination failed. -/
  | destination (reason : String)
  /-- A suitable value has no text under its encoder. -/
  | fault (fault : Encoder.Fault)
  deriving DecidableEq, Repr

/-- The report of an error.  A fault has no report of its own. -/
def WriteError.message : WriteError → String
  | value dataType found => Encoder.mismatchMessage dataType found
  | property name expected found =>
      s!"property '{name}' expects {expected.phrase}, found {found.name}"
  | tooMany name max found =>
      s!"property '{name}' has {Text.natural found} occurrences, " ++
        s!"maximum is {Text.natural max}"
  | destination reason => s!"IO error: {reason}"
  | fault _ => ""

/-- A part of a written message. -/
inductive Piece
  | code (text : String)
  | delimiter (level : Level)
  | value (rendered : Rendered)
  | flush
  deriving DecidableEq, Repr

namespace Piece

/-- The text of a piece under a delimiter table. -/
def text (table : Delimiter.Table) : Piece → String
  | code text => text
  | delimiter level => table.get level
  | value rendered => table.escapeText (rendered.text table)
  | flush => ""

/-- The text of a sequence of pieces. -/
def textOf (table : Delimiter.Table) : List Piece → String
  | [] => ""
  | piece :: rest => piece.text table ++ textOf table rest

@[simp]
theorem textOf_nil (table : Delimiter.Table) : textOf table [] = "" :=
  rfl

@[simp]
theorem textOf_append (table : Delimiter.Table) (first second : List Piece) :
    textOf table (first ++ second) =
      textOf table first ++ textOf table second := by
  induction first with
  | nil => simp [textOf]
  | cons piece rest ih => simp [textOf, ih, String.append_assoc]

end Piece

universe u v

/-- The pieces written, and a result or the error that ended the writing. -/
structure Emission (α : Type u) where
  pieces : List Piece
  outcome : Except WriteError α

namespace Emission

variable {α : Type u} {β : Type v}

/-- Write nothing. -/
def done (result : α) : Emission α :=
  ⟨[], .ok result⟩

/-- End the writing. -/
def fail (error : WriteError) : Emission α :=
  ⟨[], .error error⟩

/-- Write one piece. -/
def piece (piece : Piece) : Emission Unit :=
  ⟨[piece], .ok ()⟩

/-- Write the delimiter of a level, if there is one to write. -/
def delimiter? : Option Level → Emission Unit
  | some level => piece (.delimiter level)
  | none => done ()

/-- The result of a computation that writes nothing. -/
def ofExcept : Except WriteError α → Emission α
  | .ok result => done result
  | .error error => fail error

/-- Write what `first` writes and go on with its result. -/
def andThen (first : Emission α) (next : α → Emission β) : Emission β :=
  match first.outcome with
  | .ok result =>
      let second := next result
      ⟨first.pieces ++ second.pieces, second.outcome⟩
  | .error error => ⟨first.pieces, .error error⟩

/-- Change the result of an emission. -/
def mapResult (change : α → β) (emission : Emission α) : Emission β :=
  ⟨emission.pieces, emission.outcome.map change⟩

instance : Monad Emission where
  map := mapResult
  pure := done
  bind := andThen

/-- Changing the result is writing nothing more. -/
theorem mapResult_eq_andThen (change : α → β) (emission : Emission α) :
    emission.mapResult change = emission.andThen fun result => done (change result) := by
  obtain ⟨pieces, outcome⟩ := emission
  cases outcome <;> simp [mapResult, andThen, done, Except.map]

@[simp]
theorem done_andThen (result : α) (next : α → Emission β) :
    (done result).andThen next = next result := by
  simp [done, andThen]

@[simp]
theorem fail_andThen (error : WriteError) (next : α → Emission β) :
    (fail error).andThen next = fail error :=
  rfl

/-- Withhold the pieces of an emission and return them without flush marks, as
the content of a token.  Nothing is written if it fails. -/
def withheld (emission : Emission α) : Emission (α × List Piece) :=
  match emission.outcome with
  | .ok result => done (result, emission.pieces.filter (· ≠ .flush))
  | .error error => fail error

end Emission

end FlatMessage.Codec
