import FlatMessage.Delimiter.Table

/-!
# Escaping values

A value may contain the text of a structural delimiter or the escape text
itself.  Each such special text is written after the escape text, so that it is
not read as structure.  Where several special texts begin at one place the
longest is taken; of equally long ones, that of the coarser level.

A table without an escape text leaves values as they are.
-/

namespace FlatMessage.Delimiter

namespace Escape

/-- Order special texts by falling length in bytes, keeping the order of
equally long ones. -/
def longestFirst (specials : List String) : List String :=
  specials.mergeSort fun first second =>
    second.utf8ByteSize ≤ first.utf8ByteSize

/-- The texts that are released by a table with escape text `escape`: its used
structural delimiters and the escape text. -/
def specials (table : Table) (escape : String) : List String :=
  longestFirst <|
    (Level.structural.map table.get).filter (· ≠ "") ++ [escape]

/-- The first of the `specials` that begins `text`, with the rest of the text
after it. -/
def match? (specials : List (List Char)) (text : List Char) :
    Option (List Char × List Char) :=
  specials.findSome? fun special =>
    (special.isPrefixOf? text).map fun rest => (special, rest)

/-- Write `escape` before every special text.  `skip` counts the characters of
a special text that are already written. -/
def chars (escape : List Char) (specials : List (List Char)) (skip : Nat) :
    List Char → List Char
  | [] => []
  | c :: rest =>
      match skip with
      | n + 1 => chars escape specials n rest
      | 0 =>
          match match? specials (c :: rest) with
          | some (special, _) =>
              escape ++ special ++
                chars escape specials (special.length - 1) rest
          | none => c :: chars escape specials 0 rest

@[simp]
theorem chars_nil (escape : List Char) (specials : List (List Char))
    (skip : Nat) : chars escape specials skip [] = [] :=
  rfl

end Escape

/-- A value's text with the delimiters in it released. -/
def Table.escapeText (table : Table) (text : String) : String :=
  match table.release? with
  | none => text
  | some escape =>
      String.ofList <|
        Escape.chars escape.toList
          ((Escape.specials table escape).map String.toList) 0 text.toList

/-- Without an escape text, values are written as they are. -/
theorem Table.escapeText_of_release?_eq_none {table : Table}
    (absent : table.release? = none) (text : String) :
    table.escapeText text = text := by
  simp [Table.escapeText, absent]

end FlatMessage.Delimiter
