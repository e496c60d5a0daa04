import FlatMessage.Encoder.DataType
import FlatMessage.Json.Value
import FlatMessage.Text.Blank
import FlatMessage.Text.Split

/-!
# Encoder options

The options of a value node are a table of texts.  A schema writes them as a
property list: `key=value` entries between semicolons or line feeds, with free
blank space around entries, keys and values.  Blank entries count for nothing,
and the last entry of a key wins.
-/

namespace FlatMessage.Encoder

/-- The options of an encoder, in key order. -/
abbrev Options :=
  List (String × String)

namespace Options

/-- Whether a character ends a property list entry. -/
def isEntryEnd (c : Char) : Bool :=
  c == ';' || c == '\n'

/-- Read one entry, which has no blank ends. -/
def readEntry (entry : String) : Except DeclarationError (String × String) :=
  match Text.cut? '=' entry with
  | some (key, value) =>
      if Text.trim key = "" then .error (.invalidEntry entry)
      else .ok (Text.trim key, Text.trim value)
  | none => .error (.invalidEntry entry)

/-- The entries of a property list that are not blank, without blank ends. -/
def entries (list : String) : List String :=
  ((Text.split isEntryEnd list).map Text.trim).filter (· ≠ "")

/-- Read a property list. -/
def parse (list : String) : Except DeclarationError Options :=
  ((entries list).mapM readEntry).map Keyed.ofList

/-! ## Options as JSON -/

/-- The object of a table of options. -/
def toJson (options : Options) : Json :=
  .object (options.map fun option => (option.1, .string option.2))

/-- The options of an object whose members are all texts. -/
def ofJson? : Json → Option Options
  | .object members =>
      members.mapM fun (name, member) =>
        match member with
        | .string text => some (name, text)
        | _ => none
  | _ => none

end Options

end FlatMessage.Encoder
