import FlatMessage.Number.Binary64
import FlatMessage.Text.Numeral

/-!
# The shortest decimal text of a double

A double stands for every real number that rounds to it.  Its shortest decimal
form has the fewest digits among the decimal numbers in that interval, and of
those is the nearest to the double.

Positional notation is used for decimal exponents from `-5` to `15`, always
with a fractional digit; other numbers are written with one digit before the
point and a signed exponent.
-/

namespace FlatMessage

/-- The decimal number `digits * 10 ^ power`. -/
structure DecimalDigits where
  digits : Nat
  power : Int
  deriving DecidableEq, Repr

namespace Binary64

/-- Whether `candidate * 10 ^ power` rounds to the double.  All sides are
compared after multiplication by four. -/
def admits (number : Binary64) (candidate : Nat) (power : Int) : Bool :=
  let unit := 10 ^ power.toNat * powerDenominator number.exponent
  let scale := 10 ^ (-power).toNat * powerNumerator number.exponent
  let value := 4 * candidate * unit
  let narrow := number.significand = 2 ^ 52 ∧ minExponent < number.exponent
  let low := (4 * number.significand - if narrow then 1 else 2) * scale
  let high := (4 * number.significand + 2) * scale
  if number.significand % 2 = 0 then low ≤ value && value ≤ high
  else low < value && value < high

/-- The greatest `d` with `10 ^ d` at most the double, which is positive. -/
def decimalExponent (number : Binary64) : Int :=
  let estimate : Int :=
    ((Text.naturalDigits number.numerator).length : Int) -
      (Text.naturalDigits number.denominator).length
  if number.denominator * 10 ^ estimate.toNat ≤
      number.numerator * 10 ^ (-estimate).toNat then estimate
  else estimate - 1

/-- The nearest admissible neighbour of the double on the grid of multiples of
`10 ^ power`. -/
def gridPoint? (number : Binary64) (power : Int) : Option DecimalDigits :=
  let numerator := number.numerator * 10 ^ (-power).toNat
  let denominator := number.denominator * 10 ^ power.toNat
  let below := numerator / denominator
  let remainder := numerator % denominator
  let nearest :=
    if 2 * remainder < denominator then below
    else if denominator < 2 * remainder then below + 1
    else below + below % 2
  let other := if nearest = below then below + 1 else below
  if number.admits nearest power then some ⟨nearest, power⟩
  else if number.admits other power then some ⟨other, power⟩
  else none

/-- The shortest decimal form, tried with `count` digits at first and at most
`fuel` further digits. -/
def shortestFrom (number : Binary64) (exponent : Int) (count : Nat) :
    Nat → DecimalDigits
  | 0 => ⟨0, 0⟩
  | fuel + 1 =>
      (number.gridPoint? (exponent + 1 - count)).getD
        (number.shortestFrom exponent (count + 1) fuel)

/-- The shortest decimal form of a double; seventeen digits always suffice. -/
def shortest (number : Binary64) : DecimalDigits :=
  if number.significand = 0 then ⟨0, 0⟩
  else number.shortestFrom number.decimalExponent 1 17

/-- Drop the zeros at the end of a run of digits, and count them. -/
def dropZeros (digits : List Char) : List Char × Nat :=
  let kept := (digits.reverse.dropWhile (· == '0')).reverse
  (kept, digits.length - kept.length)

/-- The decimal text of a double. -/
def text (number : Binary64) : String :=
  if number.significand = 0 then "0.0"
  else
    let form := number.shortest
    let (digits, zeros) := dropZeros (Text.naturalDigits form.digits)
    let power := form.power + zeros
    let point : Int := power + digits.length
    String.ofList <|
      if 0 ≤ power ∧ point ≤ 16 then
        digits ++ List.replicate power.toNat '0' ++ ['.', '0']
      else if 0 < point ∧ point ≤ 16 then
        digits.take point.toNat ++ '.' :: digits.drop point.toNat
      else if -5 < point ∧ point ≤ 0 then
        ['0', '.'] ++ List.replicate (-point).toNat '0' ++ digits
      else
        digits.take 1 ++
          (if digits.length = 1 then [] else '.' :: digits.drop 1) ++
          ['e', if point - 1 < 0 then '-' else '+'] ++
          Text.naturalDigits (point - 1).natAbs

end Binary64

end FlatMessage
