import FlatMessage.Number.Binary64
import FlatMessage.Text.Numeral
import FlatMessage.Text.Split

/-!
# Strings, keys and literals of TOML

The readers take the characters before them and return what they read together with
the characters after it.  Control characters are only allowed where white space is.
-/

namespace FlatMessage.Toml

/-! ## White space and comments -/

/-- Whether a character is white space inside a line. -/
def isSpace (c : Char) : Bool :=
  c = ' ' || c = '\t'

/-- Drop white space inside a line. -/
def skipSpace (chars : List Char) : List Char :=
  chars.dropWhile isSpace

/-- Whether a character may stand in a comment. -/
def isCommentChar (c : Char) : Bool :=
  c = '\t' || (32 ≤ c.toNat && c ≠ '\x7f')

/-- Drop a comment, if there is one. -/
def skipComment : List Char → List Char
  | '#' :: rest => rest.dropWhile isCommentChar
  | chars => chars

/-- What follows a line end. -/
def afterLineEnd? : List Char → Option (List Char)
  | '\n' :: rest => some rest
  | '\r' :: '\n' :: rest => some rest
  | _ => none

/-- Drop white space, line ends and comments.  Every step drops a character, so the
number of characters bounds the steps. -/
def skipLines (chars : List Char) : Nat → List Char
  | 0 => chars
  | fuel + 1 =>
      let rest := skipComment (skipSpace chars)
      match afterLineEnd? rest with
      | some rest => skipLines rest fuel
      | none => rest

/-- Drop white space, line ends and comments. -/
def skipBlank (chars : List Char) : List Char :=
  skipLines chars (chars.length + 1)

/-! ## Strings -/

/-- The value of a hexadecimal digit. -/
def hexDigit? (c : Char) : Option Nat :=
  if Text.isDigit c then some (c.toNat - 48)
  else if 'a' ≤ c ∧ c ≤ 'f' then some (c.toNat - 87)
  else if 'A' ≤ c ∧ c ≤ 'F' then some (c.toNat - 55)
  else none

/-- The character whose code point is written with exactly `count` hexadecimal
digits, and what follows it. -/
def readCodePoint? (count : Nat) (chars : List Char) : Option (Char × List Char) := do
  let digits := chars.take count
  if digits.length ≠ count then none
  else do
    let values ← digits.mapM hexDigit?
    let code := values.foldl (fun total value => total * 16 + value) 0
    if Nat.isValidChar code then some (Char.ofNat code, chars.drop count) else none

/-- The character of an escape, without its backslash, and what follows it. -/
def readEscape? : List Char → Option (Char × List Char)
  | 'b' :: rest => some ('\x08', rest)
  | 't' :: rest => some ('\t', rest)
  | 'n' :: rest => some ('\n', rest)
  | 'f' :: rest => some ('\x0c', rest)
  | 'r' :: rest => some ('\r', rest)
  | '"' :: rest => some ('"', rest)
  | '\\' :: rest => some ('\\', rest)
  | 'u' :: rest => readCodePoint? 4 rest
  | 'U' :: rest => readCodePoint? 8 rest
  | _ => none

/-- Whether a character may stand in a string as it is. -/
def isStringChar (c : Char) : Bool :=
  isCommentChar c

/-- Read the rest of a basic string on one line.  Every step drops a character. -/
def readBasic (read : List Char) (chars : List Char) :
    Nat → Option (List Char × List Char)
  | 0 => none
  | fuel + 1 =>
      match chars with
      | '"' :: rest => some (read.reverse, rest)
      | '\\' :: rest => do
          let (c, rest) ← readEscape? rest
          readBasic (c :: read) rest fuel
      | c :: rest => if isStringChar c then readBasic (c :: read) rest fuel else none
      | [] => none

/-- Read the rest of a literal string on one line. -/
def readLiteral (read : List Char) : List Char → Option (List Char × List Char)
  | [] => none
  | c :: rest =>
      if c = '\'' then some (read.reverse, rest)
      else if isStringChar c then readLiteral (c :: read) rest
      else none

/-- Drop white space and line ends. -/
def skipSpaceLines : List Char → List Char
  | [] => []
  | c :: rest =>
      if isSpace c || c = '\n' then skipSpaceLines rest
      else
        match c, rest with
        | '\r', '\n' :: _ => skipSpaceLines rest
        | c, rest => c :: rest

/-- The number of quotes of a kind at the beginning. -/
def countQuotes (quote : Char) (chars : List Char) : Nat :=
  (chars.takeWhile (· = quote)).length

/-- Read the rest of a string over several lines.  Up to two quotes stand for
themselves, also before the three that end the string.  Every step drops a
character. -/
def readLines (quote : Char) (read : List Char) (chars : List Char) :
    Nat → Option (List Char × List Char)
  | 0 => none
  | fuel + 1 =>
      match afterLineEnd? chars with
      | some rest => readLines quote ('\n' :: read) rest fuel
      | none =>
          match chars with
          | [] => none
          | c :: rest =>
              if c = quote then
                let count := countQuotes quote chars
                let kept := if 3 ≤ count then min (count - 3) 2 else count
                let read := List.replicate kept quote ++ read
                if 3 ≤ count then some (read.reverse, chars.drop (kept + 3))
                else readLines quote read (chars.drop count) fuel
              else if c = '\\' ∧ quote = '"' then
                match afterLineEnd? (skipSpace rest) with
                | some rest => readLines quote read (skipSpaceLines rest) fuel
                | none => do
                    let (c, rest) ← readEscape? rest
                    readLines quote (c :: read) rest fuel
              else if isStringChar c then readLines quote (c :: read) rest fuel
              else none

/-- Read a string over several lines, whose opening quotes are read.  A line end
right after them does not count. -/
def readMultiline (quote : Char) (chars : List Char) :
    Option (List Char × List Char) :=
  readLines quote [] ((afterLineEnd? chars).getD chars) (chars.length + 1)

/-- Read a string of any kind; the outer option is empty when no string begins
here. -/
def readString? (chars : List Char) : Option (Option (List Char × List Char)) :=
  match chars with
  | '"' :: '"' :: '"' :: rest => some (readMultiline '"' rest)
  | '\'' :: '\'' :: '\'' :: rest => some (readMultiline '\'' rest)
  | '"' :: rest => some (readBasic [] rest (rest.length + 1))
  | '\'' :: rest => some (readLiteral [] rest)
  | _ => none

/-! ## Keys -/

/-- Whether a character may stand in a key without quotes. -/
def isKeyChar (c : Char) : Bool :=
  ('a' ≤ c && c ≤ 'z') || ('A' ≤ c && c ≤ 'Z') || Text.isDigit c || c = '_' || c = '-'

/-- Read a key without dots. -/
def readSimpleKey? (chars : List Char) : Option (String × List Char) :=
  match chars with
  | '"' :: rest => do
      let (key, rest) ← readBasic [] rest (rest.length + 1)
      some (String.ofList key, rest)
  | '\'' :: rest => do
      let (key, rest) ← readLiteral [] rest
      some (String.ofList key, rest)
  | chars =>
      match chars.takeWhile isKeyChar with
      | [] => none
      | key => some (String.ofList key, chars.dropWhile isKeyChar)

/-- The greatest number of parts of a key. -/
def keyLimit : Nat :=
  79

/-- Read a key with white space around its parts. -/
def readKeyParts (chars : List Char) : Nat → Option (List String × List Char)
  | 0 => none
  | fuel + 1 => do
      let (key, rest) ← readSimpleKey? (skipSpace chars)
      match skipSpace rest with
      | '.' :: rest => do
          let (keys, rest) ← readKeyParts rest fuel
          some (key :: keys, rest)
      | rest => some ([key], rest)

/-- Read a key, which has one part or more. -/
def readKey? (chars : List Char) : Option (List String × List Char) :=
  readKeyParts chars keyLimit

/-! ## Literals -/

/-- Whether digits of a base, with single underscores between them, make up all the
characters. -/
def isDigitRun (isDigit : Char → Bool) (chars : List Char) : Bool :=
  (Text.splitChars (· == '_') chars).all fun run => !run.isEmpty && run.all isDigit

/-- Drop a sign. -/
def dropSign : List Char → List Char
  | '+' :: rest => rest
  | '-' :: rest => rest
  | chars => chars

/-- Whether characters are a decimal number without leading zeros. -/
def isDecimalRun (chars : List Char) : Bool :=
  isDigitRun Text.isDigit chars && (chars.head? ≠ some '0' || chars.length = 1)

/-- The number that digits of a base denote. -/
def valueOf (base : Nat) (digits : List Char) : Nat :=
  (digits.filterMap hexDigit?).foldl (fun total value => total * base + value) 0

/-- Whether characters are an integer of 64 bits with sign. -/
def isInteger (chars : List Char) : Bool :=
  match chars with
  | '0' :: 'x' :: digits =>
      isDigitRun (fun c => (hexDigit? c).isSome) digits && valueOf 16 digits < 2 ^ 63
  | '0' :: 'o' :: digits =>
      isDigitRun (fun c => '0' ≤ c && c ≤ '7') digits && valueOf 8 digits < 2 ^ 63
  | '0' :: 'b' :: digits =>
      isDigitRun (fun c => c = '0' || c = '1') digits && valueOf 2 digits < 2 ^ 63
  | chars =>
      let limit := if chars.head? = some '-' then 2 ^ 63 else 2 ^ 63 - 1
      isDecimalRun (dropSign chars) && valueOf 10 (dropSign chars) ≤ limit

/-- Whether characters are the exponent of a number, without its letter. -/
def isExponent (chars : List Char) : Bool :=
  isDigitRun Text.isDigit (dropSign chars)

/-- Whether `significand` times ten to the power of `exponent` is a double or rounds to
one.  No double has more than 309 digits before its point. -/
def isInRange (significand : List Char) (exponent : Int) : Bool :=
  let number := valueOf 10 significand
  if number = 0 then true
  else if exponent < 0 then
    significand.length ≤ exponent.natAbs ||
      (Binary64.ofQuotient? number (10 ^ exponent.natAbs)).isSome
  else exponent ≤ 309 && (Binary64.ofNat? (number * 10 ^ exponent.toNat)).isSome

/-- Whether characters are a number with a fraction or an exponent, or one of the
special numbers.  Only a number without a minus sign has to be in the range of
doubles. -/
def isReal (chars : List Char) : Bool :=
  let unsigned := dropSign chars
  if unsigned = "inf".toList ∨ unsigned = "nan".toList then true
  else
    let isMark (c : Char) : Bool := c = 'e' || c = 'E'
    let significand := unsigned.takeWhile fun c => !isMark c
    let exponent := (unsigned.drop significand.length).drop 1
    let whole := significand.takeWhile (· ≠ '.')
    let fraction := (significand.drop whole.length).drop 1
    let power : Int := valueOf 10 exponent
    let shift := if exponent.head? = some '-' then -power else power
    isDecimalRun whole &&
      (significand.length = whole.length || isDigitRun Text.isDigit fraction) &&
      (unsigned.length = significand.length || isExponent exponent) &&
      whole.length < unsigned.length &&
      (chars.head? = some '-' ||
        isInRange (whole ++ fraction) (shift - (fraction.filter Text.isDigit).length))

end FlatMessage.Toml
