/-!
# TOML values

Manifests and configurations are TOML documents.  A table remembers how it came
about, because that decides whether later statements of a document may extend it.

No setting holds a number or a moment, so these are kept as they are written.
-/

namespace FlatMessage

/-- How a table came about. -/
inductive Toml.Origin
  /-- It is written as a value between braces. -/
  | inline
  /-- It has a header of its own, or is the document. -/
  | header
  /-- It lies on the way to the table of a header. -/
  | implied
  /-- It lies on the way of a dotted key. -/
  | dotted
  deriving DecidableEq, Repr

/-- A TOML value. -/
inductive Toml
  | string (text : String)
  | boolean (flag : Bool)
  /-- A number or a moment. -/
  | literal (text : String)
  | array (items : List Toml)
  /-- The tables of repeated double-bracket headers. -/
  | tables (items : List Toml)
  | table (origin : Toml.Origin) (members : List (String × Toml))
  deriving Inhabited

namespace Toml

/-- The content of a string. -/
def text? : Toml → Option String
  | string text => some text
  | _ => none

/-- The truth value of a boolean. -/
def flag? : Toml → Option Bool
  | boolean flag => some flag
  | _ => none

/-- The items of an array of either kind. -/
def items? : Toml → Option (List Toml)
  | array items => some items
  | tables items => some items
  | _ => none

/-- The fields of a record with the given names, in their order.  A table gives
them by name, and an array by position; a table of a closed record has no other
members. -/
def fields? (isClosed : Bool) (names : List String) :
    Toml → Option (List (Option Toml))
  | table _ members =>
      if isClosed && members.any fun member => !names.contains member.1 then none
      else some (names.map fun name => members.lookup name)
  | array items => some ((items.take names.length).map some)
  | tables items => some ((items.take names.length).map some)
  | _ => none

end Toml

end FlatMessage
