import FlatMessage.Json.Value

/-!
# Reading JSON text

The whole text must be one value with blank space around it.  Arrays and
objects may be nested at most 127 deep.  Strings may not hold control
characters or unpaired surrogate escapes.

A double is read from at most the digits that fit into 64 bits: the significand
is converted to the nearest double and then scaled by a power of ten, each step
rounding once.  Every step of the reader consumes a character, so the length of
the text bounds the recursion.
-/

namespace FlatMessage.Json

/-- The greatest nesting depth of arrays and objects. -/
def maxDepth : Nat :=
  127

/-- Whether a character may stand between tokens. -/
def isSpace (c : Char) : Bool :=
  c == ' ' || c == '\n' || c == '\t' || c == '\r'

/-- Drop the blank space before a token. -/
def skipSpace (chars : List Char) : List Char :=
  chars.dropWhile isSpace

/-! ## Strings -/

/-- The value of a hexadecimal digit. -/
def hexDigit? (c : Char) : Option Nat :=
  if '0' ≤ c ∧ c ≤ '9' then some (c.toNat - 48)
  else if 'a' ≤ c ∧ c ≤ 'f' then some (c.toNat - 87)
  else if 'A' ≤ c ∧ c ≤ 'F' then some (c.toNat - 55)
  else none

/-- The number that four hexadecimal digits denote. -/
def hexQuad? (a b c d : Char) : Option Nat := do
  pure <|
    (((← hexDigit? a) * 16 + (← hexDigit? b)) * 16 + (← hexDigit? c)) * 16 +
      (← hexDigit? d)

/-- The character that a one-letter escape denotes. -/
def shortEscape? : Char → Option Char
  | '"' => some '"'
  | '\\' => some '\\'
  | '/' => some '/'
  | 'b' => some '\x08'
  | 'f' => some '\x0c'
  | 'n' => some '\n'
  | 'r' => some '\r'
  | 't' => some '\t'
  | _ => none

/-- Read the rest of a string, whose opening quote is already read, and return
what follows its closing quote. -/
def readString : List Char → Option (List Char × List Char)
  | [] => none
  | '"' :: rest => some ([], rest)
  | '\\' :: 'u' :: a :: b :: c :: d :: rest => do
      let unit ← hexQuad? a b c d
      if 0xD800 ≤ unit ∧ unit < 0xDC00 then
        match rest with
        | '\\' :: 'u' :: e :: f :: g :: h :: rest =>
            let low ← hexQuad? e f g h
            if 0xDC00 ≤ low ∧ low < 0xE000 then
              let code := 0x10000 + (unit - 0xD800) * 0x400 + (low - 0xDC00)
              let (text, after) ← readString rest
              some (Char.ofNat code :: text, after)
            else none
        | _ => none
      else if 0xDC00 ≤ unit ∧ unit < 0xE000 then none
      else
        let (text, after) ← readString rest
        some (Char.ofNat unit :: text, after)
  | '\\' :: c :: rest => do
      let escaped ← shortEscape? c
      let (text, after) ← readString rest
      some (escaped :: text, after)
  | c :: rest =>
      if c.toNat < 32 then none
      else (readString rest).map fun (text, after) => (c :: text, after)

/-! ## Numbers -/

/-- The greatest significand that is kept. -/
def significandLimit : Nat :=
  2 ^ 64

/-- Divide a double by `10 ^ 308` until the exponent is within a table of powers
up to `10 ^ 308`, then divide by the power that is left. -/
def divideByPower (number : Binary64) (exponent : Nat) : Nat → Option Binary64
  | 0 => some Binary64.zero
  | fuel + 1 =>
      if exponent ≤ 308 then
        (Binary64.ofNat? (10 ^ exponent)).bind number.div?
      else if number.significand = 0 then some number
      else
        (Binary64.ofNat? (10 ^ 308)).bind fun power =>
          (number.div? power).bind fun smaller =>
            divideByPower smaller (exponent - 308) fuel

/-- The double read from a significand and a power of ten; `none` when it is too
great. -/
def realOfParts (significand : Nat) (exponent : Int) : Option Binary64 :=
  (Binary64.ofNat? significand).bind fun number =>
    if exponent < 0 then divideByPower number exponent.natAbs 5
    else if exponent ≤ 308 then
      (Binary64.ofNat? (10 ^ exponent.toNat)).bind number.mul?
    else if significand = 0 then some number
    else none

/-- Continue a significand with digits while it stays within 64 bits; returns
the significand, the number of digits taken and the digits left over. -/
def takeDigits (significand count : Nat) :
    List Char → Nat × Nat × List Char
  | [] => (significand, count, [])
  | c :: rest =>
      let extended := significand * 10 + Text.digitValue c
      if extended < significandLimit then takeDigits extended (count + 1) rest
      else (significand, count, c :: rest)

/-- The value of an exponent; `none` when it is beyond 32 bits. -/
def exponentOf? (digits : List Char) : Option Nat :=
  if Text.ofDigits digits < 2 ^ 31 then some (Text.ofDigits digits) else none

/-- The parts of a number as they are written. -/
structure Numeral where
  negative : Bool
  whole : List Char
  /-- The digits after the point, if there is one. -/
  fraction : Option (List Char)
  /-- The sign and the digits of the exponent, if there is one. -/
  exponent : Option (Bool × List Char)

/-- The double that a numeral denotes. -/
def Numeral.real? (numeral : Numeral) : Option Number :=
  let (whole, _, surplus) := takeDigits 0 0 numeral.whole
  let (significand, taken, _) :=
    takeDigits whole 0 (numeral.fraction.getD [])
  let start : Int := (surplus.length : Int) - taken
  let magnitude :=
    match numeral.exponent with
    | none => realOfParts significand start
    | some (negative, digits) =>
        match exponentOf? digits with
        | some exponent =>
            realOfParts significand
              (if negative then start - exponent else start + exponent)
        | none =>
            if significand = 0 ∨ negative then some Binary64.zero else none
  magnitude.map (.real numeral.negative)

/-- The number that a numeral denotes: an integer when it is written as one and
fits, otherwise a double. -/
def Numeral.number? (numeral : Numeral) : Option Number :=
  if numeral.fraction.isSome || numeral.exponent.isSome then numeral.real?
  else
    let value := Text.ofDigits numeral.whole
    if numeral.negative then
      if 0 < value ∧ value ≤ 2 ^ 63 then some (.integer (-value))
      else numeral.real?
    else if value < 2 ^ 64 then some (.integer value)
    else numeral.real?

/-- Read a non-empty run of digits. -/
def readDigits? (chars : List Char) : Option (List Char × List Char) :=
  let digits := chars.takeWhile Text.isDigit
  if digits.isEmpty then none else some (digits, chars.drop digits.length)

/-- Read the exponent of a number, if there is one. -/
def readExponent? (chars : List Char) :
    Option (Option (Bool × List Char) × List Char) :=
  match chars with
  | c :: rest =>
      if c == 'e' || c == 'E' then
        let (negative, unsigned) :=
          match rest with
          | '-' :: rest => (true, rest)
          | '+' :: rest => (false, rest)
          | _ => (false, rest)
        (readDigits? unsigned).map fun (digits, after) =>
          (some (negative, digits), after)
      else some (none, chars)
  | [] => some (none, [])

/-- Read a number. -/
def readNumber? (chars : List Char) : Option (Number × List Char) := do
  let (negative, unsigned) :=
    match chars with
    | '-' :: rest => (true, rest)
    | _ => (false, chars)
  let (whole, afterWhole) ← readDigits? unsigned
  if whole.length ≠ 1 ∧ whole.head? = some '0' then none
  let (fraction, afterFraction) ←
    match afterWhole with
    | '.' :: rest => (readDigits? rest).map fun (digits, after) => (some digits, after)
    | _ => some (none, afterWhole)
  let (exponent, after) ← readExponent? afterFraction
  let number ← Numeral.number? { negative, whole, fraction, exponent }
  pure (number, after)

/-! ## Values -/

/-- The text after a literal word, if `chars` begins with it. -/
def afterWord? (word : String) (chars : List Char) : Option (List Char) :=
  word.toList.isPrefixOf? chars

mutual

/-- Read one value.  `fuel` bounds the remaining steps, `depth` the arrays and
objects that may still be opened. -/
def readValue (fuel depth : Nat) (chars : List Char) :
    Option (Json × List Char) :=
  match fuel with
  | 0 => none
  | fuel + 1 =>
      match skipSpace chars with
      | [] => none
      | '"' :: rest =>
          (readString rest).map fun (text, after) =>
            (.string (String.ofList text), after)
      | '[' :: rest =>
          match depth with
          | 0 => none
          | depth + 1 =>
              match skipSpace rest with
              | ']' :: after => some (.array [], after)
              | items => readItems fuel depth items
      | '\x7b' :: rest =>
          match depth with
          | 0 => none
          | depth + 1 =>
              match skipSpace rest with
              | '\x7d' :: after => some (.object [], after)
              | members => readMembers fuel depth [] members
      | 'n' :: rest => (afterWord? "ull" rest).map fun after => (.null, after)
      | 't' :: rest =>
          (afterWord? "rue" rest).map fun after => (.boolean true, after)
      | 'f' :: rest =>
          (afterWord? "alse" rest).map fun after => (.boolean false, after)
      | token => (readNumber? token).map fun (value, after) =>
          (.number value, after)
termination_by structural fuel

/-- Read the items of an array up to its closing bracket. -/
def readItems (fuel depth : Nat) (chars : List Char) :
    Option (Json × List Char) :=
  match fuel with
  | 0 => none
  | fuel + 1 => do
      let (item, afterItem) ← readValue fuel depth chars
      match skipSpace afterItem with
      | ']' :: after => some (.array [item], after)
      | ',' :: rest =>
          match ← readItems fuel depth rest with
          | (.array items, after) => some (.array (item :: items), after)
          | _ => none
      | _ => none
termination_by structural fuel

/-- Read the members of an object up to its closing brace; a later member
replaces an earlier one of the same name. -/
def readMembers (fuel depth : Nat) (members : List (String × Json))
    (chars : List Char) : Option (Json × List Char) :=
  match fuel with
  | 0 => none
  | fuel + 1 =>
      match skipSpace chars with
      | '"' :: rest => do
          let (name, afterName) ← readString rest
          match skipSpace afterName with
          | ':' :: rest =>
              let (value, afterValue) ← readValue fuel depth rest
              let members := Keyed.insert (String.ofList name) value members
              match skipSpace afterValue with
              | '\x7d' :: after => some (.object members, after)
              | ',' :: rest => readMembers fuel depth members rest
              | _ => none
          | _ => none
      | _ => none
termination_by structural fuel

end

/-- Read a text that is one JSON value. -/
def ofText? (text : String) : Option Json :=
  let chars := text.toList
  match readValue (2 * chars.length + 2) maxDepth chars with
  | some (value, after) =>
      if (skipSpace after).isEmpty then some value else none
  | none => none

end FlatMessage.Json
