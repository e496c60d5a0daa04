import FlatMessage.Delimiter.Level

/-!
# Delimiter tables

A table gives the text written for every level and, optionally, the escape
text that releases delimiters inside values.  An empty text means that the
level is not used.

Tables are chosen when a message is written; nothing compiled from a schema
depends on one.
-/

namespace FlatMessage.Delimiter

/-- The text of every delimiter level, and the escape text. -/
structure Table where
  segment : String
  field : String
  fieldRepeat : String
  component : String
  subComponent : String
  decimalSeparator : String
  escape : Option String
  deriving DecidableEq, Repr, Inhabited

namespace Table

/-- The customary EDIFACT table, with a question mark as escape. -/
def edifact : Table where
  segment := "'"
  field := "+"
  fieldRepeat := "*"
  component := ":"
  subComponent := ""
  decimalSeparator := "."
  escape := some "?"

/-- A customary X12 table, without an escape. -/
def x12 : Table where
  segment := "~"
  field := "*"
  fieldRepeat := "^"
  component := ">"
  subComponent := ""
  decimalSeparator := "."
  escape := none

/-- A table in which no structural level is used. -/
def unset : Table where
  segment := ""
  field := ""
  fieldRepeat := ""
  component := ""
  subComponent := ""
  decimalSeparator := "."
  escape := none

/-- The text of a level. -/
def get (table : Table) : Level → String
  | .segment => table.segment
  | .field => table.field
  | .fieldRepeat => table.fieldRepeat
  | .component => table.component
  | .subComponent => table.subComponent
  | .decimalSeparator => table.decimalSeparator

/-- Replace the text of a level. -/
def set (table : Table) (level : Level) (text : String) : Table :=
  match level with
  | .segment => { table with segment := text }
  | .field => { table with field := text }
  | .fieldRepeat => { table with fieldRepeat := text }
  | .component => { table with component := text }
  | .subComponent => { table with subComponent := text }
  | .decimalSeparator => { table with decimalSeparator := text }

@[simp]
theorem get_set_self (table : Table) (level : Level) (text : String) :
    (table.set level text).get level = text := by
  cases level <;> rfl

theorem get_set_of_ne (table : Table) {level other : Level}
    (different : other ≠ level) (text : String) :
    (table.set level text).get other = table.get other := by
  cases level <;> cases other <;> simp_all [set, get]

/-- Replace the escape text; an empty text means that there is no escape. -/
def withEscape (table : Table) (escape : Option String) : Table :=
  { table with escape := escape.filter (· ≠ "") }

/-- The escape text if it can release anything. -/
def release? (table : Table) : Option String :=
  table.escape.filter (· ≠ "")

end Table

end FlatMessage.Delimiter
