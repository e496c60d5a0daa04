import FlatMessage.Number.Power
import FlatMessage.Text.Split
import FlatMessage.Text.Numeral

/-!
# Decimal numbers

A decimal number is a sign, a mantissa below `2 ^ 96` and a count of
fractional digits.  Trailing zeros are part of the value, so a number is
written with exactly as many fractional digits as it was given.

Reading rounds what does not fit behind the decimal point and refuses what does
not fit before it.  Rescaling rounds halves away from zero, and goes only as
far as the mantissa allows when digits are added.
-/

namespace FlatMessage

/-- A decimal number `± mantissa / 10 ^ scale`. -/
structure Decimal where
  negative : Bool
  mantissa : Nat
  scale : Nat
  mantissa_lt : mantissa < 2 ^ 96
  deriving DecidableEq, Repr

namespace Decimal

/-- The first mantissa that does not fit. -/
def mantissaLimit : Nat :=
  2 ^ 96

/-- The greatest number of fractional digits that reading keeps. -/
def maxScale : Nat :=
  28

/-- The number with the given parts, if the mantissa fits.  Zero has no
sign. -/
def ofParts? (negative : Bool) (mantissa scale : Nat) : Option Decimal :=
  if fits : mantissa < 2 ^ 96 then
    some ⟨negative && mantissa != 0, mantissa, scale, fits⟩
  else none

/-- Zero without fractional digits. -/
def zero : Decimal :=
  ⟨false, 0, 0, by decide⟩

instance : Inhabited Decimal :=
  ⟨zero⟩

/-- The decimal number equal to a 64-bit integer. -/
def ofInt64 (number : Int64) : Decimal :=
  (ofParts? (decide (number.toInt < 0)) number.toInt.natAbs 0).getD zero

/-! ## Text -/

/-- The digits of the mantissa, at least `scale` many. -/
def digits (number : Decimal) : List Char :=
  (if number.mantissa = 0 then [] else Text.naturalDigits number.mantissa).leftpad
    number.scale '0'

/-- The digits before the decimal point; one zero if there are none. -/
def wholeDigits (number : Decimal) : List Char :=
  match number.digits.take (number.digits.length - number.scale) with
  | [] => ['0']
  | whole => whole

/-- The digits after the decimal point. -/
def fractionDigits (number : Decimal) : List Char :=
  number.digits.drop (number.digits.length - number.scale)

/-- The characters of a number without its sign, with a point exactly when it has
fractional digits. -/
def unsignedChars (number : Decimal) : List Char :=
  number.wholeDigits ++ if number.scale = 0 then [] else '.' :: number.fractionDigits

/-- The characters of a number. -/
def chars (number : Decimal) : List Char :=
  (if number.negative then ['-'] else []) ++ number.unsignedChars

/-- The text of a number. -/
def text (number : Decimal) : String :=
  String.ofList number.chars

/-! ## Rescaling -/

/-- Append zeros to the mantissa while it fits, at most `count` of them.  The
result holds the number of zeros that were appended. -/
def appendZeros (mantissa : Nat) : Nat → Nat × Nat
  | 0 => (mantissa, 0)
  | count + 1 =>
      if mantissa * 10 < mantissaLimit then
        let extended := appendZeros (mantissa * 10) count
        (extended.1, extended.2 + 1)
      else (mantissa, 0)

theorem appendZeros_lt {mantissa : Nat} (fits : mantissa < 2 ^ 96)
    (count : Nat) : (appendZeros mantissa count).1 < 2 ^ 96 := by
  induction count generalizing mantissa with
  | zero => exact fits
  | succ count ih =>
      unfold appendZeros
      split
      · exact ih (by simpa [mantissaLimit] using ‹_›)
      · exact fits

/-- Drop the last `count` digits of a mantissa, rounding a half up. -/
def dropDigits (mantissa count : Nat) : Nat :=
  (mantissa + 5 * 10 ^ (count - 1)) / 10 ^ count

theorem dropDigits_lt {mantissa count : Nat} (fits : mantissa < 2 ^ 96)
    (dropped : 0 < count) : dropDigits mantissa count < 2 ^ 96 := by
  obtain ⟨n, rfl⟩ : ∃ n, count = n + 1 := ⟨count - 1, by omega⟩
  have positive : 0 < 10 ^ n := Nat.pow_pos (by decide)
  have power : 10 ^ (n + 1) = 10 * 10 ^ n := by rw [Nat.pow_succ, Nat.mul_comm]
  unfold dropDigits
  rw [Nat.add_sub_cancel, power]
  apply Nat.div_lt_of_lt_mul
  have bound : mantissa + 1 ≤ 2 ^ 96 := fits
  have wide : 2 ^ 96 * 10 ^ n ≥ 2 ^ 96 := Nat.le_mul_of_pos_right _ positive
  have scaled : 10 * 10 ^ n * 2 ^ 96 = 10 * (2 ^ 96 * 10 ^ n) := by
    rw [Nat.mul_assoc, Nat.mul_comm (10 ^ n)]
  have unit : 2 ^ 96 * 10 ^ n ≥ 10 ^ n := Nat.le_mul_of_pos_left _ (by decide)
  rw [scaled]
  omega

/-- Bring a number to `scale` fractional digits.  Digits that are dropped are
rounded half away from zero; when digits are added, as many are added as the
mantissa allows.  Zero takes any scale up to `maxScale`. -/
def rescale (number : Decimal) (scale : Nat) : Decimal :=
  if number.scale = scale then number
  else if number.mantissa = 0 then
    { number with scale := min scale maxScale }
  else if lower : scale < number.scale then
    { number with
      mantissa := dropDigits number.mantissa (number.scale - scale)
      scale := scale
      mantissa_lt := dropDigits_lt number.mantissa_lt (by omega) }
  else
    let extended := appendZeros number.mantissa (scale - number.scale)
    { number with
      mantissa := extended.1
      scale := number.scale + extended.2
      mantissa_lt := appendZeros_lt number.mantissa_lt _ }

/-! ## Reading -/

/-- Round a mantissa up.  A mantissa that this carries past its limit gives up one
fractional digit. -/
def roundUp? (mantissa scale : Nat) : Option (Nat × Nat) :=
  if mantissa + 1 < mantissaLimit then some (mantissa + 1, scale)
  else if scale = 0 then none
  else some ((mantissa + 5) / 10, scale - 1)

/-- Close a reading whose fraction or mantissa is full.  Only digits and underscores
may follow; the first digit of five or more rounds the mantissa up. -/
def readSurplus (mantissa scale : Nat) (surplus : List Char) : Option (Nat × Nat) :=
  if surplus.all fun c => Text.isDigit c || c = '_' then
    match surplus.find? Text.isDigit with
    | some digit =>
        if Text.digitValue digit < 5 then some (mantissa, scale)
        else roundUp? mantissa scale
    | none => some (mantissa, scale)
  else none

/-- Read digits with at most one point among them; underscores may follow the
first digit.  Digits that do not fit behind the point only round. -/
def readUnsigned (point digit : Bool) (mantissa scale : Nat) :
    List Char → Option (Nat × Nat)
  | [] => if digit then some (mantissa, scale) else none
  | c :: rest =>
      if point && maxScale ≤ scale then readSurplus mantissa scale (c :: rest)
      else if Text.isDigit c then
        let extended := mantissa * 10 + Text.digitValue c
        if extended < mantissaLimit then
          readUnsigned point true extended (if point then scale + 1 else scale) rest
        else if point then readSurplus mantissa scale (c :: rest)
        else none
      else if c = '.' && !point then readUnsigned true digit mantissa scale rest
      else if c = '_' && digit then readUnsigned point digit mantissa scale rest
      else none

/-- Read a number in positional notation, with an optional sign. -/
def readPositional? (chars : List Char) : Option Decimal :=
  match chars with
  | '-' :: rest =>
      (readUnsigned false false 0 0 rest).bind fun parts =>
        ofParts? true parts.1 parts.2
  | '+' :: rest =>
      (readUnsigned false false 0 0 rest).bind fun parts =>
        ofParts? false parts.1 parts.2
  | _ =>
      (readUnsigned false false 0 0 chars).bind fun parts =>
        ofParts? false parts.1 parts.2

/-- Multiply a number by `10 ^ exponent`, if the result fits. -/
def shiftUp? (number : Decimal) (exponent : Nat) : Option Decimal :=
  if exponent ≤ number.scale then
    some { number with scale := number.scale - exponent }
  else if maxScale < exponent then none
  else
    ofParts? number.negative
      (number.mantissa * 10 ^ (exponent - number.scale)) 0

/-- Divide a number by `10 ^ exponent`.  Digits that do not fit behind the point are
rounded away; an exponent beyond all fractional digits is refused. -/
def shiftDown? (number : Decimal) (exponent : Nat) : Option Decimal :=
  if maxScale < exponent then none
  else
    let fitting :=
      if number.scale + exponent ≤ maxScale then number
      else number.rescale (maxScale - exponent)
    some { fitting with scale := fitting.scale + exponent }

/-- Read a number with a power of ten after `e` or `E`. -/
def readScientific? (chars : List Char) : Option Decimal :=
  let base := chars.takeWhile fun c => c != 'e' && c != 'E'
  match chars.drop base.length with
  | [] => none
  | _ :: '-' :: exponent =>
      (readPositional? base).bind fun number =>
        (Text.unsigned? 4294967295 (String.ofList exponent)).bind
          number.shiftDown?
  | _ :: exponent =>
      (readPositional? base).bind fun number =>
        (Text.unsigned? 4294967295 (String.ofList exponent)).bind
          number.shiftUp?

/-- Read a decimal number in positional or scientific notation. -/
def ofText? (text : String) : Option Decimal :=
  (readPositional? text.toList).or (readScientific? text.toList)

end Decimal

end FlatMessage
