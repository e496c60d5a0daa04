/-!
# Decimal numerals

Whole numbers are written with ASCII digits.  Reading takes an optional sign
and at least one digit, accepts leading zeros, and refuses a number outside
the range that its place in the vocabulary allows.
-/

namespace FlatMessage.Text

/-- Whether a character is one of the ten ASCII digits. -/
def isDigit (c : Char) : Bool :=
  '0' ≤ c && c ≤ '9'

/-- The value of an ASCII digit. -/
def digitValue (c : Char) : Nat :=
  c.toNat - 48

/-- The number that a run of digits denotes, most significant digit first. -/
def ofDigits (digits : List Char) : Nat :=
  digits.foldl (fun total c => total * 10 + digitValue c) 0

/-- The decimal digits of a number, without leading zeros. -/
def naturalDigits (number : Nat) : List Char :=
  Nat.toDigits 10 number

/-- The decimal text of a natural number. -/
def natural (number : Nat) : String :=
  String.ofList (naturalDigits number)

/-- The digits of a number, filled with leading zeros up to `width`. -/
def paddedDigits (width number : Nat) : List Char :=
  (naturalDigits number).leftpad width '0'

/-- The decimal text of an integer, with a sign only when it is negative. -/
def integer (number : Int) : String :=
  String.ofList <|
    if number < 0 then '-' :: naturalDigits number.natAbs
    else naturalDigits number.natAbs

/-- Read a non-empty run of digits. -/
def digits? (chars : List Char) : Option Nat :=
  if chars.isEmpty || !chars.all isDigit then none else some (ofDigits chars)

@[simp]
theorem digits?_nil : digits? [] = none :=
  rfl

/-- Read an unsigned numeral, with an optional plus sign, that is at most
`limit`. -/
def unsigned? (limit : Nat) (text : String) : Option Nat :=
  let digits :=
    match text.toList with
    | '+' :: rest => rest
    | chars => chars
  (digits? digits).filter (· ≤ limit)

/-- Read an integer numeral with an optional sign. -/
def signed? (text : String) : Option Int :=
  match text.toList with
  | '-' :: rest => (digits? rest).map fun number => -(number : Int)
  | '+' :: rest => (digits? rest).map Int.ofNat
  | chars => (digits? chars).map Int.ofNat

/-- Read an integer numeral in the range of 64-bit signed words. -/
def signed64? (text : String) : Option Int64 :=
  (signed? text).bind fun number =>
    if Int64.minValue.toInt ≤ number ∧ number ≤ Int64.maxValue.toInt then
      some (Int64.ofInt number)
    else none

/-- Read the two spellings of a truth value. -/
def boolean? (text : String) : Option Bool :=
  if text = "true" then some true
  else if text = "false" then some false
  else none

end FlatMessage.Text
