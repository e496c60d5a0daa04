import FlatMessage.Delimiter.Table
import FlatMessage.Json.Value

/-!
# Delimiter tables as JSON

A table is an object whose members are named for the levels, with the escape text
or null beside them.  A member that is left out stands for the customary EDIFACT
text; other members count for nothing.  The texts may also be listed in an array,
coarsest level first and the escape last.
-/

namespace FlatMessage.Delimiter

namespace Table

/-- The object of a table. -/
def toJson (table : Table) : Json :=
  .objectOf <|
    ("escape", .optionalString table.escape) ::
      Level.all.map fun level => (level.name, .string (table.get level))

/-- Put a JSON text at a level. -/
def setJson? (table : Table) (level : Level) : Json → Option Table
  | .string text => some (table.set level text)
  | _ => none

/-- Take a JSON text or null as the escape text. -/
def setEscapeJson? (table : Table) : Json → Option Table
  | .string text => some { table with escape := some text }
  | .null => some { table with escape := none }
  | _ => none

/-- Put the members that are named for levels into a table. -/
def setMembers? (members : List (String × Json)) (table : Table) :
    List Level → Option Table
  | [] => some table
  | level :: rest =>
      match Keyed.get? level.name members with
      | none => setMembers? members table rest
      | some member => do setMembers? members (← table.setJson? level member) rest

/-- Put the items of an array at the levels of a list, and the item after them as
the escape; there may not be more. -/
def setItems? (table : Table) : List Level → List Json → Option Table
  | _, [] => some table
  | level :: levels, item :: items => do
      setItems? (← table.setJson? level item) levels items
  | [], [item] => table.setEscapeJson? item
  | [], _ :: _ :: _ => none

/-- The table that a JSON value denotes. -/
def ofJson? : Json → Option Table
  | .object members => do
      let table ← setMembers? members edifact Level.all
      match Keyed.get? "escape" members with
      | none => some table
      | some member => table.setEscapeJson? member
  | .array items => setItems? edifact Level.all items
  | _ => none

end Table

end FlatMessage.Delimiter
