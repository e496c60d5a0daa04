import FlatMessage.Calendar.Pattern
import FlatMessage.Json.Value
import FlatMessage.Number.Decimal

/-!
# Instance values

A message instance is a bean: a table from property names to values.  A value
is a scalar, a nested bean or a list of repeated occurrences.  A property that
is absent is simply not in the table.

Every scalar has a plain text, which is what is written where a schema names no
encoder.
-/

namespace FlatMessage

/-- A value without structure. -/
inductive Scalar
  | text (content : String)
  | integer (number : Int64)
  | decimal (number : Decimal)
  | date (day : Calendar.Date)
  | dateTime (moment : Calendar.DateTime)
  | boolean (flag : Bool)
  deriving DecidableEq, Repr

/-- An instance value. -/
inductive Value
  | scalar (content : Scalar)
  | bean (properties : List (String × Value))
  | list (items : List Value)
  deriving Inhabited

/-- A populated message or part of one, with its properties in name order. -/
abbrev Bean :=
  List (String × Value)

/-- The kinds of values that reports name. -/
inductive Kind
  | text
  | integer
  | decimal
  | date
  | dateTime
  | boolean
  | bean
  | list
  deriving DecidableEq, Repr

/-- The name of a kind in reports. -/
def Kind.name : Kind → String
  | text => "text"
  | integer => "integer"
  | decimal => "decimal"
  | date => "date"
  | dateTime => "date-time"
  | boolean => "boolean"
  | bean => "bean"
  | list => "list"

namespace Scalar

/-- The kind of a scalar. -/
def kind : Scalar → Kind
  | text _ => .text
  | integer _ => .integer
  | decimal _ => .decimal
  | date _ => .date
  | dateTime _ => .dateTime
  | boolean _ => .boolean

/-- The plain text of a scalar. -/
def plain : Scalar → String
  | text content => content
  | integer number => Text.integer number.toInt
  | decimal number => number.text
  | date day => day.text
  | dateTime moment => moment.text
  | boolean true => "true"
  | boolean false => "false"

/-- The scalar of a JSON number: an integer when it fits into 64 bits with
sign, otherwise a decimal, and its text when that does not fit either. -/
def ofNumber (number : Json.Number) : Scalar :=
  let exact : Scalar :=
    match Decimal.ofText? number.text with
    | some value => .decimal value
    | none => .text number.text
  match number with
  | .integer value =>
      if Int64.minValue.toInt ≤ value ∧ value ≤ Int64.maxValue.toInt then
        .integer (Int64.ofInt value)
      else exact
  | .real .. => exact

end Scalar

namespace Bean

/-- The bean without properties. -/
def empty : Bean :=
  []

/-- The value of a property, if it is present. -/
def get? (bean : Bean) (name : String) : Option Value :=
  Keyed.get? name bean

/-- Give a property a value. -/
def set (bean : Bean) (name : String) (value : Value) : Bean :=
  Keyed.insert name value bean

/-- Make a property absent. -/
def erase (bean : Bean) (name : String) : Bean :=
  Keyed.erase name bean

@[simp]
theorem get?_set_self (bean : Bean) (name : String) (value : Value) :
    (bean.set name value).get? name = some value :=
  Keyed.get?_insert_self name value bean

theorem get?_set_of_ne (bean : Bean) {name other : String}
    (different : other ≠ name) (value : Value) :
    (bean.set name value).get? other = bean.get? other :=
  Keyed.get?_insert_of_ne different value bean

end Bean

namespace Value

/-- The kind of a value. -/
def kind : Value → Kind
  | scalar content => content.kind
  | bean _ => .bean
  | list _ => .list

/-- Whether a value has no structure. -/
def isScalar : Value → Bool
  | scalar _ => true
  | _ => false

/-- The plain text of a value; structure is only summarised. -/
def plain : Value → String
  | scalar content => content.plain
  | bean properties => s!"<bean with {properties.length} properties>"
  | list items => s!"<list of {items.length}>"

/-- The content of a text value. -/
def text? : Value → Option String
  | scalar (.text content) => some content
  | _ => none

/-- The properties of a bean value. -/
def bean? : Value → Option Bean
  | bean properties => some properties
  | _ => none

/-- The items of a list value. -/
def items? : Value → Option (List Value)
  | list items => some items
  | _ => none

mutual

/-- The value of a JSON value; null is absent. -/
def ofJson? : Json → Option Value
  | .null => none
  | .boolean flag => some (scalar (.boolean flag))
  | .number number => some (scalar (Scalar.ofNumber number))
  | .string content => some (scalar (.text content))
  | .array items => some (list (ofItems items))
  | .object members => some (bean (ofMembers members))

/-- The values of array items, without the absent ones. -/
def ofItems : List Json → List Value
  | [] => []
  | item :: rest =>
      match ofJson? item with
      | some value => value :: ofItems rest
      | none => ofItems rest

/-- The properties of object members, without the absent ones. -/
def ofMembers : List (String × Json) → List (String × Value)
  | [] => []
  | (name, member) :: rest =>
      match ofJson? member with
      | some value => (name, value) :: ofMembers rest
      | none => ofMembers rest

end

end Value

/-- The bean of a JSON object; other JSON values have none. -/
def Bean.ofJson? : Json → Option Bean
  | .object members => some (Value.ofMembers members)
  | _ => none

end FlatMessage
