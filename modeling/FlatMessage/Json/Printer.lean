import FlatMessage.Json.Value

/-!
# Writing JSON text

Descriptors are written with one member or item a line, indented by two spaces for
every level of nesting, and end with a line feed.  Empty arrays and objects stay on
one line.

Strings hold every character as it is, except for the quote, the backslash and the
control characters below the space.
-/

namespace FlatMessage.Json

/-- A hexadecimal digit. -/
def hexDigit (number : Nat) : Char :=
  if number < 10 then Char.ofNat (48 + number) else Char.ofNat (87 + number)

/-- A character inside a string. -/
def escapedChar (c : Char) : List Char :=
  if c = '"' then ['\\', '"']
  else if c = '\\' then ['\\', '\\']
  else if c = '\x08' then ['\\', 'b']
  else if c = '\x0c' then ['\\', 'f']
  else if c = '\n' then ['\\', 'n']
  else if c = '\r' then ['\\', 'r']
  else if c = '\t' then ['\\', 't']
  else if c.toNat < 32 then
    ['\\', 'u', '0', '0', hexDigit (c.toNat / 16), hexDigit (c.toNat % 16)]
  else [c]

/-- A text between quotes. -/
def quoted (text : String) : String :=
  "\"" ++ String.ofList (text.toList.flatMap escapedChar) ++ "\""

/-- The beginning of a line. -/
def indentation (depth : Nat) : String :=
  String.ofList (List.replicate (2 * depth) ' ')

mutual

/-- A value whose lines are nested `depth` deep. -/
def lines (depth : Nat) : Json → String
  | .null => "null"
  | .boolean true => "true"
  | .boolean false => "false"
  | .number value => value.text
  | .string text => quoted text
  | .array [] => "[]"
  | .array (item :: rest) =>
      "[\n" ++ indentation (depth + 1) ++ item.lines (depth + 1) ++
        itemLines (depth + 1) rest ++ "\n" ++ indentation depth ++ "]"
  | .object [] => "\x7b\x7d"
  | .object ((name, member) :: rest) =>
      "\x7b\n" ++ indentation (depth + 1) ++ quoted name ++ ": " ++
        member.lines (depth + 1) ++ memberLines (depth + 1) rest ++ "\n" ++
        indentation depth ++ "\x7d"

/-- The items after the first one, each on a line of its own. -/
def itemLines (depth : Nat) : List Json → String
  | [] => ""
  | item :: rest =>
      ",\n" ++ indentation depth ++ item.lines depth ++ itemLines depth rest

/-- The members after the first one, each on a line of its own. -/
def memberLines (depth : Nat) : List (String × Json) → String
  | [] => ""
  | (name, member) :: rest =>
      ",\n" ++ indentation depth ++ quoted name ++ ": " ++ member.lines depth ++
        memberLines depth rest

end

/-- The document of a value. -/
def document (value : Json) : String :=
  value.lines 0 ++ "\n"

end FlatMessage.Json
