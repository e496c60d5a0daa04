import FlatMessage.Delimiter.Table
import FlatMessage.Encoder.Options
import FlatMessage.Value

/-!
# Value encoders

An encoder is a data type with its options read.  It turns a scalar into text
that does not depend on any delimiter table, except that the point of a decimal
number gives way to the table's decimal separator.

A scalar of an unsuitable kind is a mismatch.  Three combinations of accepted
options and suitable values have no text at all: these are faults.
-/

namespace FlatMessage

/-- A configured encoder. -/
inductive Encoder
  | string (trim : Bool)
  | integer (width : Option Nat)
  | decimal (scale : Option Nat)
  | date (pattern : Calendar.Pattern)
  | boolean (trueText falseText : String)
  deriving DecidableEq, Repr

namespace Encoder

/-- Why a suitable value has no text under the options of its encoder. -/
inductive Fault
  /-- The integer width is beyond 65535. -/
  | widthTooGreat
  /-- The decimal text without its sign is longer than 32 characters. -/
  | numeralTooLong
  /-- The date pattern asks for a field that the value lacks. -/
  | fieldMissing
  deriving DecidableEq, Repr

/-- Why a value is not rendered. -/
inductive RenderError
  | mismatch (dataType : DataType) (found : Kind)
  | fault (fault : Fault)
  deriving DecidableEq, Repr

/-- The data type of an encoder. -/
def dataType : Encoder → DataType
  | string _ => .string
  | integer _ => .integer
  | decimal _ => .decimal
  | date _ => .date
  | boolean .. => .boolean

/-! ## Building encoders -/

/-- Read the option `key` with `read?`; `fallback` stands for an absent one. -/
def option {α : Type} (dataType : DataType) (options : Options) (key : String)
    (fallback : α) (read? : String → Option α) : Except DeclarationError α :=
  match Keyed.get? key options with
  | none => .ok fallback
  | some value =>
      match read? value with
      | some setting => .ok setting
      | none => .error (.invalidOption dataType key value)

/-- The encoder of a data type under options that it knows. -/
def configure (dataType : DataType) (options : Options) :
    Except DeclarationError Encoder :=
  match dataType with
  | .string => string <$> option .string options "trim" false Text.boolean?
  | .integer =>
      integer <$> option .integer options "width" none fun value =>
        (Text.unsigned? (2 ^ 64 - 1) value).map some
  | .decimal =>
      decimal <$> option .decimal options "scale" none fun value =>
        (Text.unsigned? (2 ^ 32 - 1) value).map some
  | .date =>
      date <$> option .date options "format" Calendar.Pattern.basicDate
        Calendar.Pattern.ofText?
  | .boolean =>
      .ok <|
        boolean ((Keyed.get? "true" options).getD "true")
          ((Keyed.get? "false" options).getD "false")

/-- The encoder of a data type; the first unknown option is refused before any
value is looked at. -/
def build (dataType : DataType) (options : Options) :
    Except DeclarationError Encoder :=
  match options.find? fun option => !dataType.options.contains option.1 with
  | some (key, _) => .error (.unknownOption dataType key)
  | none => configure dataType options

/-! ## Rendering -/

/-- The text of a number under an integer encoder. -/
def integerText (width : Option Nat) (number : Int64) : Except RenderError String :=
  match width with
  | none => .ok (Text.integer number.toInt)
  | some width =>
      if width ≤ 65535 then
        .ok <| String.ofList <|
          Calendar.paddedNumber .zero width false number.toInt
      else .error (.fault .widthTooGreat)

/-- The text of a number under a decimal encoder. -/
def decimalText (scale : Option Nat) (number : Decimal) : Except RenderError String :=
  let rescaled := scale.elim number number.rescale
  if rescaled.unsignedChars.length ≤ 32 then .ok rescaled.text
  else .error (.fault .numeralTooLong)

/-- The text of a date or a moment under a date encoder. -/
def dateText (pattern : Calendar.Pattern) (date : Calendar.Date)
    (time : Option Calendar.Time) : Except RenderError String :=
  match pattern.write? date time with
  | some text => .ok text
  | none => .error (.fault .fieldMissing)

/-- The text of a scalar, with a point as decimal separator. -/
def text (encoder : Encoder) (scalar : Scalar) : Except RenderError String :=
  let mismatch := .error (.mismatch encoder.dataType scalar.kind)
  match encoder with
  | string trim =>
      match scalar with
      | .text content => .ok (if trim then Text.trim content else content)
      | _ => .ok scalar.plain
  | integer width =>
      match scalar with
      | .integer number => integerText width number
      | .text content =>
          match Text.signed64? (Text.trim content) with
          | some number => integerText width number
          | none => mismatch
      | _ => mismatch
  | decimal scale =>
      match scalar with
      | .decimal number => decimalText scale number
      | .integer number => decimalText scale (Decimal.ofInt64 number)
      | .text content =>
          match Decimal.ofText? (Text.trim content) with
          | some number => decimalText scale number
          | none => mismatch
      | _ => mismatch
  | date pattern =>
      match scalar with
      | .date day => dateText pattern day none
      | .dateTime moment => dateText pattern moment.date (some moment.time)
      | .text content => .ok content
      | _ => mismatch
  | boolean trueText falseText =>
      match scalar with
      | .boolean flag => .ok (if flag then trueText else falseText)
      | _ => mismatch

end Encoder

/-- The text of a value before a delimiter table is chosen. -/
inductive Rendered
  /-- A text that is the same under every table. -/
  | plain (text : String)
  /-- A decimal numeral, whose point stands for the decimal separator. -/
  | numeral (text : String)
  deriving DecidableEq, Repr

namespace Rendered

/-- The text under a delimiter table.  A table without a decimal separator
keeps the point. -/
def text (table : Delimiter.Table) : Rendered → String
  | plain text => text
  | numeral text =>
      if table.decimalSeparator = "" then text
      else Text.substitute '.' table.decimalSeparator text

/-- Whether nothing is written for a value. -/
def isEmpty : Rendered → Bool
  | plain text => text.isEmpty
  | numeral text => text.isEmpty

end Rendered

namespace Encoder

/-- Render a scalar; without an encoder its plain text is taken. -/
def render (encoder : Option Encoder) (scalar : Scalar) :
    Except RenderError Rendered :=
  match encoder with
  | none => .ok (.plain scalar.plain)
  | some encoder =>
      match encoder with
      | decimal _ => .numeral <$> encoder.text scalar
      | _ => .plain <$> encoder.text scalar

/-- Render a value of any kind; structure suits no encoder. -/
def renderValue (encoder : Encoder) (value : Value) :
    Except RenderError Rendered :=
  match value with
  | .scalar content => render (some encoder) content
  | _ => .error (.mismatch encoder.dataType value.kind)

/-- The report of a mismatch. -/
def mismatchMessage (dataType : DataType) (found : Kind) : String :=
  s!"{dataType.name} encoder cannot encode a {found.name} value"

end Encoder

end FlatMessage
