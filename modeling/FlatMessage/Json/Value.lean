import FlatMessage.Keyed
import FlatMessage.Number.Shortest

/-!
# JSON values

Instances arrive as JSON text and descriptors are written as JSON text.  A
number without fraction or exponent is an integer as long as it fits into 64
bits, with or without sign; every other number is a double.

The members of an object are kept in key order.
-/

namespace FlatMessage

namespace Json

/-- A JSON number. -/
inductive Number
  | integer (value : Int)
  | real (negative : Bool) (magnitude : Binary64)
  deriving DecidableEq, Repr

/-- The text of a number. -/
def Number.text : Number → String
  | .integer value => Text.integer value
  | .real negative magnitude =>
      (if negative then "-" else "") ++ magnitude.text

end Json

/-- A JSON value. -/
inductive Json
  | null
  | boolean (value : Bool)
  | number (value : Json.Number)
  | string (text : String)
  | array (items : List Json)
  | object (members : List (String × Json))
  deriving Inhabited

namespace Json

-- Where the namespace is opened for its reader and writer, the type has its name there too.
export FlatMessage (Json)

/-- A natural number as JSON. -/
def natural (value : Nat) : Json :=
  .number (.integer value)

/-- A text, or null when it is absent. -/
def optionalString : Option String → Json
  | some text => .string text
  | none => .null

/-- An object from its members, in any order; the last of equally named members
wins. -/
def objectOf (members : List (String × Json)) : Json :=
  .object (Keyed.ofList members)

end Json

end FlatMessage
