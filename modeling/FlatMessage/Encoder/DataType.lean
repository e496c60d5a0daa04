import FlatMessage.Delimiter.Level

/-!
# Data types and declaration errors

A value node may name a data type, which fixes how its values are written.
Each type has one canonical name, several accepted spellings and a fixed set of
options.

What a schema declares wrongly about levels, data types and options is a
declaration error.
-/

namespace FlatMessage.Encoder

/-- The data types of the schema vocabulary. -/
inductive DataType
  | string
  | integer
  | decimal
  | date
  | boolean
  deriving DecidableEq, Repr, Inhabited

namespace DataType

/-- The canonical name of a data type. -/
def name : DataType → String
  | string => "String"
  | integer => "Integer"
  | decimal => "Decimal"
  | date => "Date"
  | boolean => "Boolean"

/-- The accepted spellings of every data type. -/
def spellings : List (String × DataType) :=
  [("String", string), ("string", string),
    ("Integer", integer), ("Int", integer), ("Long", integer),
    ("integer", integer), ("int", integer), ("long", integer),
    ("Decimal", decimal), ("BigDecimal", decimal), ("DABigDecimal", decimal),
    ("Double", decimal), ("decimal", decimal),
    ("Date", date), ("DateTime", date), ("date", date),
    ("Boolean", boolean), ("Bool", boolean), ("boolean", boolean)]

/-- The data type with a given spelling. -/
def ofName? (text : String) : Option DataType :=
  spellings.lookup text

/-- A canonical name denotes its data type. -/
@[simp]
theorem ofName?_name (dataType : DataType) :
    ofName? dataType.name = some dataType := by
  cases dataType <;> decide

/-- The option keys that a data type accepts. -/
def options : DataType → List String
  | string => ["trim"]
  | integer => ["width"]
  | decimal => ["scale"]
  | date => ["format"]
  | boolean => ["true", "false"]

/-- Whether the values of a data type are written as numbers. -/
def isNumeric (dataType : DataType) : Bool :=
  dataType = integer || dataType = decimal

end DataType

/-- What is wrong with a declared level, data type or option. -/
inductive DeclarationError
  | unsupportedDelimiter (name : String)
  | unknownDataType (name : String)
  | unknownOption (dataType : DataType) (key : String)
  | invalidOption (dataType : DataType) (key value : String)
  | invalidEntry (entry : String)
  deriving DecidableEq, Repr

/-- The report of a declaration error. -/
def DeclarationError.message : DeclarationError → String
  | unsupportedDelimiter name => s!"unsupported delimiter type '{name}'"
  | unknownDataType name => s!"unknown data type '{name}'"
  | unknownOption dataType key =>
      s!"unknown option '{key}' for {dataType.name} encoder"
  | invalidOption dataType key value =>
      s!"invalid value '{value}' for option '{key}' of {dataType.name} encoder"
  | invalidEntry entry => s!"invalid property list entry '{entry}'"

/-- The level a text names. -/
def levelOf (text : String) : Except DeclarationError Delimiter.Level :=
  match Delimiter.Level.ofName? text with
  | some level => .ok level
  | none => .error (.unsupportedDelimiter text)

/-- The data type a text names. -/
def dataTypeOf (text : String) : Except DeclarationError DataType :=
  match DataType.ofName? text with
  | some dataType => .ok dataType
  | none => .error (.unknownDataType text)

end FlatMessage.Encoder
