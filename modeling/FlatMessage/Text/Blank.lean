/-!
# Blank characters

A character is blank when it has Unicode's `White_Space` property.  Blank runs
are dropped from the ends of names, numbers and option values wherever the
schema vocabulary allows them to be laid out freely.

Trimming is stated on characters; the `String` form only wraps it.
-/

namespace FlatMessage.Text

/-- The code points with the `White_Space` property, as inclusive ranges. -/
def blankRanges : List (Nat × Nat) :=
  [(0x9, 0xD), (0x20, 0x20), (0x85, 0x85), (0xA0, 0xA0), (0x1680, 0x1680),
    (0x2000, 0x200A), (0x2028, 0x2029), (0x202F, 0x202F), (0x205F, 0x205F),
    (0x3000, 0x3000)]

/-- Whether a character has the `White_Space` property. -/
def isBlank (c : Char) : Bool :=
  blankRanges.any fun range => range.1 ≤ c.toNat && c.toNat ≤ range.2

/-- Drop the blank characters at both ends. -/
def trimChars (chars : List Char) : List Char :=
  ((chars.dropWhile isBlank).reverse.dropWhile isBlank).reverse

@[simp]
theorem trimChars_nil : trimChars [] = [] :=
  rfl

/-- The text without the blank characters at its ends. -/
def trim (text : String) : String :=
  String.ofList (trimChars text.toList)

@[simp]
theorem toList_trim (text : String) :
    (trim text).toList = trimChars text.toList := by
  simp [trim]

/-- Every character the core library calls white space is blank. -/
theorem isBlank_of_isWhitespace {c : Char} (white : c.isWhitespace = true) :
    isBlank c = true := by
  simp only [Char.isWhitespace, Bool.or_eq_true, decide_eq_true_eq] at white
  rcases white with ((rfl | rfl) | rfl) | rfl <;> decide

end FlatMessage.Text
