import FlatMessage.Number.Power

/-!
# Finite binary floating-point numbers

A non-negative double is `significand * 2 ^ exponent` with a significand of at
most 53 bits and an exponent of at least `-1074`.  The number is kept in lowest
scale: its significand has exactly 53 bits unless the exponent is the least
one.

Every operation is exact rational arithmetic on natural numbers followed by one
rounding to the nearest double, ties to the even significand.
-/

namespace FlatMessage

/-- The double `significand * 2 ^ exponent`. -/
structure Binary64 where
  significand : Nat
  exponent : Int
  deriving DecidableEq, Repr, Inhabited

namespace Binary64

/-- The least exponent. -/
def minExponent : Int :=
  -1074

/-- The greatest exponent. -/
def maxExponent : Int :=
  971

/-- The double zero. -/
def zero : Binary64 :=
  ⟨0, minExponent⟩

/-- The numerator of `2 ^ exponent`. -/
def powerNumerator (exponent : Int) : Nat :=
  2 ^ exponent.toNat

/-- The denominator of `2 ^ exponent`. -/
def powerDenominator (exponent : Int) : Nat :=
  2 ^ (-exponent).toNat

/-- A quotient rounded to the nearest natural number, ties to even. -/
def roundedQuotient (numerator denominator : Nat) : Nat :=
  let quotient := numerator / denominator
  let remainder := numerator % denominator
  if 2 * remainder < denominator then quotient
  else if denominator < 2 * remainder then quotient + 1
  else quotient + quotient % 2

/-- The exponent at which the quotient of two positive numbers has a
53-bit integer part. -/
def quotientExponent (numerator denominator : Nat) : Int :=
  let estimate : Int := (Nat.log2 numerator : Int) - Nat.log2 denominator - 52
  if numerator * powerDenominator estimate <
      2 ^ 52 * (denominator * powerNumerator estimate) then estimate - 1
  else estimate

/-- The double nearest to a quotient; `none` when it is too great. -/
def ofQuotient? (numerator denominator : Nat) : Option Binary64 :=
  if numerator = 0 then some zero
  else
    let exponent := max minExponent (quotientExponent numerator denominator)
    let significand :=
      roundedQuotient (numerator * powerDenominator exponent)
        (denominator * powerNumerator exponent)
    let rounded : Binary64 :=
      if significand = 2 ^ 53 then ⟨2 ^ 52, exponent + 1⟩
      else ⟨significand, exponent⟩
    if rounded.exponent ≤ maxExponent then some rounded else none

/-- The numerator of a double. -/
def numerator (number : Binary64) : Nat :=
  number.significand * powerNumerator number.exponent

/-- The denominator of a double. -/
def denominator (number : Binary64) : Nat :=
  powerDenominator number.exponent

/-- The double nearest to a natural number. -/
def ofNat? (number : Nat) : Option Binary64 :=
  ofQuotient? number 1

/-- The rounded product of two doubles. -/
def mul? (left right : Binary64) : Option Binary64 :=
  ofQuotient? (left.numerator * right.numerator)
    (left.denominator * right.denominator)

/-- The rounded quotient of a double and a positive one. -/
def div? (left right : Binary64) : Option Binary64 :=
  ofQuotient? (left.numerator * right.denominator)
    (left.denominator * right.numerator)

end Binary64

end FlatMessage
