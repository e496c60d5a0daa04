import FlatMessage.Text.CaseData
import FlatMessage.Text.Numeral

/-!
# Upper and lower case

The case of a character and its mapping to the other case, after Unicode.  A
mapping can give several characters.  ASCII letters are decided without the
tables.
-/

namespace FlatMessage.Text

/-- Whether a character is an ASCII capital letter. -/
def isAsciiUpper (c : Char) : Bool :=
  'A' ≤ c && c ≤ 'Z'

/-- Whether a character is an ASCII small letter. -/
def isAsciiLower (c : Char) : Bool :=
  'a' ≤ c && c ≤ 'z'

/-- Whether a character is an ASCII letter. -/
def isAsciiLetter (c : Char) : Bool :=
  isAsciiLower c || isAsciiUpper c

/-- Whether a character is an ASCII letter or digit. -/
def isAsciiAlphanumeric (c : Char) : Bool :=
  isAsciiLetter c || isDigit c

/-- Whether a character is in lower case. -/
def isLowercase (c : Char) : Bool :=
  if c.toNat < 128 then isAsciiLower c
  else isIn lowercaseRuns c

/-- Whether a character is in upper case. -/
def isUppercase (c : Char) : Bool :=
  if c.toNat < 128 then isAsciiUpper c
  else isIn uppercaseRuns c

/-- A character in lower case. -/
def toLowercase (c : Char) : List Char :=
  if c.toNat < 128 then [if isAsciiUpper c then Char.ofNat (c.toNat + 32) else c]
  else mapped lowercaseSequences lowercaseShifts c

/-- A character in upper case. -/
def toUppercase (c : Char) : List Char :=
  if c.toNat < 128 then [if isAsciiLower c then Char.ofNat (c.toNat - 32) else c]
  else mapped uppercaseSequences uppercaseShifts c

end FlatMessage.Text
