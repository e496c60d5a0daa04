import FlatMessage.Number.Decimal
import Mathlib.Data.Nat.Digits.Defs

/-!
# The length of decimal numerals

A mantissa has at most 29 digits, so only the fractional digits can make a
numeral long: without its sign it has more than 32 characters exactly when it
has more than 30 fractional digits.

Reading never gives more than `maxScale` fractional digits, and rescaling adds
them only while the mantissa has room.  A rescaled number therefore has more
than 30 of them exactly when that many are asked for and its mantissa is small
enough for the zeros.
-/

namespace FlatMessage.Decimal

/-! ## Characters -/

/-- A mantissa has at most 29 digits. -/
theorem length_naturalDigits_le (number : Decimal) :
    (Text.naturalDigits number.mantissa).length ≤ 29 := by
  have small : number.mantissa < 10 ^ 29 := Nat.lt_trans number.mantissa_lt (by decide)
  exact Nat.toDigits_length 10 number.mantissa 29 (by decide) small

/-- The digits are those of the mantissa or the fractional ones, whichever are
more. -/
theorem length_digits (number : Decimal) :
    ∃ count ≤ 29, number.digits.length = max number.scale count := by
  by_cases nothing : number.mantissa = 0
  · refine ⟨0, by decide, ?_⟩
    simp [digits, nothing]
  · refine ⟨_, number.length_naturalDigits_le, ?_⟩
    simp [digits, nothing, Nat.sub_add_eq_max]

/-- At least one digit stands before the point. -/
theorem length_wholeDigits (number : Decimal) :
    number.wholeDigits.length = max 1 (number.digits.length - number.scale) := by
  have taken :
      (number.digits.take (number.digits.length - number.scale)).length =
        number.digits.length - number.scale := by
    rw [List.length_take]
    omega
  rw [← taken, wholeDigits]
  cases number.digits.take (number.digits.length - number.scale) with
  | nil => rfl
  | cons first rest => simp

/-- As many digits follow the point as the number has fractional ones. -/
theorem length_fractionDigits (number : Decimal) :
    number.fractionDigits.length = number.scale := by
  obtain ⟨count, -, total⟩ := number.length_digits
  rw [fractionDigits, List.length_drop, total]
  omega

/-- Without its sign a number has at most 32 characters exactly when it has at
most 30 fractional digits. -/
theorem length_unsignedChars_le_iff (number : Decimal) :
    number.unsignedChars.length ≤ 32 ↔ number.scale ≤ 30 := by
  obtain ⟨count, few, total⟩ := number.length_digits
  by_cases whole : number.scale = 0
  · simp only [unsignedChars, List.length_append, length_wholeDigits, whole, if_true, total,
      List.length_nil]
    omega
  · simp only [unsignedChars, List.length_append, length_wholeDigits, whole, if_false, total,
      List.length_cons, length_fractionDigits]
    omega

/-! ## Rescaling -/

/-- Zeros are appended while there are zeros left to append and the mantissa
fits. -/
theorem le_appendZeros_iff {mantissa : Nat} (fits : mantissa < mantissaLimit)
    {added count : Nat} :
    added ≤ (appendZeros mantissa count).2 ↔
      added ≤ count ∧ mantissa * 10 ^ added < mantissaLimit := by
  induction count generalizing mantissa added with
  | zero =>
      constructor
      · intro none
        obtain rfl : added = 0 := Nat.le_zero.mp none
        simpa using fits
      · exact And.left
  | succ count ih =>
      cases added with
      | zero => simpa using fits
      | succ added =>
          have shifted : mantissa * 10 ^ (added + 1) = mantissa * 10 * 10 ^ added := by
            rw [Nat.pow_succ, Nat.mul_comm (10 ^ added), Nat.mul_assoc]
          rw [shifted]
          unfold appendZeros
          split
          next room => simp [ih room]
          next full =>
            have grown : mantissa * 10 ≤ mantissa * 10 * 10 ^ added :=
              Nat.le_mul_of_pos_right _ (Nat.pow_pos (by decide))
            simp
            omega

/-- A rescaled number has more fractional digits than `bound`, which is no less
than what it had before, exactly when more are asked for and its mantissa has
room for them. -/
theorem lt_scale_rescale_iff {number : Decimal} {bound : Nat} (scale : Nat)
    (before : number.scale ≤ bound) (wide : maxScale ≤ bound) :
    bound < (number.rescale scale).scale ↔
      bound < scale ∧ number.mantissa ≠ 0 ∧
        number.mantissa * 10 ^ (bound + 1 - number.scale) < mantissaLimit := by
  unfold rescale
  split
  next same => omega
  split
  next nothing =>
    simp only [nothing, ne_eq, not_true_eq_false, false_and, and_false, iff_false]
    omega
  next something =>
    split
    next fewer =>
      have within : ¬ bound < scale := by omega
      simp [within]
    next more =>
      have added :
          bound < number.scale + (appendZeros number.mantissa (scale - number.scale)).2 ↔
            bound + 1 - number.scale ≤
              (appendZeros number.mantissa (scale - number.scale)).2 := by
        omega
      have asked : bound + 1 - number.scale ≤ scale - number.scale ↔ bound < scale := by
        omega
      simp only [added, le_appendZeros_iff number.mantissa_lt, asked, ne_eq, something,
        not_false_eq_true, true_and]

/-! ## Reading -/

theorem scale_of_roundUp? {mantissa scale : Nat} {parts : Nat × Nat}
    (rounded : roundUp? mantissa scale = some parts) : parts.2 ≤ scale := by
  unfold roundUp? at rounded
  grind

theorem scale_of_readSurplus {mantissa scale : Nat} {surplus : List Char}
    {parts : Nat × Nat} (read : readSurplus mantissa scale surplus = some parts) :
    parts.2 ≤ scale := by
  unfold readSurplus at read
  grind [→ scale_of_roundUp?]

/-- Digits behind the point are read only up to `maxScale` of them. -/
theorem scale_of_readUnsigned {chars : List Char} {point digit : Bool}
    {mantissa scale : Nat} {parts : Nat × Nat} (few : scale ≤ maxScale)
    (read : readUnsigned point digit mantissa scale chars = some parts) :
    parts.2 ≤ maxScale := by
  induction chars generalizing point digit mantissa scale with
  | nil => grind [readUnsigned]
  | cons c rest ih => grind [readUnsigned, → scale_of_readSurplus]

theorem scale_of_ofParts? {negative : Bool} {mantissa scale : Nat} {number : Decimal}
    (made : ofParts? negative mantissa scale = some number) : number.scale = scale := by
  unfold ofParts? at made
  grind

theorem scale_of_readPositional? {chars : List Char} {number : Decimal}
    (read : readPositional? chars = some number) : number.scale ≤ maxScale := by
  have signed {negative : Bool} {unsigned : List Char}
      (read : ((readUnsigned false false 0 0 unsigned).bind fun parts =>
        ofParts? negative parts.1 parts.2) = some number) :
      number.scale ≤ maxScale := by
    obtain ⟨parts, digits, made⟩ := Option.bind_eq_some_iff.mp read
    rw [scale_of_ofParts? made]
    exact scale_of_readUnsigned (by decide) digits
  unfold readPositional? at read
  split at read <;> exact signed read

theorem scale_of_shiftUp? {number shifted : Decimal} {exponent : Nat}
    (few : number.scale ≤ maxScale) (moved : number.shiftUp? exponent = some shifted) :
    shifted.scale ≤ maxScale := by
  unfold shiftUp? at moved
  grind [→ scale_of_ofParts?]

/-- A number that does not reach `maxScale` after a shift is rounded first. -/
theorem scale_of_shiftDown? {number shifted : Decimal} {exponent : Nat}
    (moved : number.shiftDown? exponent = some shifted) : shifted.scale ≤ maxScale := by
  unfold shiftDown? at moved
  grind [rescale]

/-- Reading keeps at most `maxScale` fractional digits. -/
theorem scale_of_ofText? {text : String} {number : Decimal}
    (read : ofText? text = some number) : number.scale ≤ maxScale := by
  rcases Option.or_eq_some_iff.mp read with positional | ⟨-, scientific⟩
  · exact scale_of_readPositional? positional
  · simp only [readScientific?] at scientific
    split at scientific
    next => cases scientific
    next =>
      obtain ⟨base, -, shifted⟩ := Option.bind_eq_some_iff.mp scientific
      obtain ⟨exponent, -, moved⟩ := Option.bind_eq_some_iff.mp shifted
      exact scale_of_shiftDown? moved
    next =>
      obtain ⟨base, digits, shifted⟩ := Option.bind_eq_some_iff.mp scientific
      obtain ⟨exponent, -, moved⟩ := Option.bind_eq_some_iff.mp shifted
      exact scale_of_shiftUp? (scale_of_readPositional? digits) moved

/-- The number of a 64-bit integer is whole. -/
@[simp]
theorem scale_ofInt64 (number : Int64) : (ofInt64 number).scale = 0 := by
  unfold ofInt64
  cases made : ofParts? (decide (number.toInt < 0)) number.toInt.natAbs 0 with
  | none => rfl
  | some decimal => exact scale_of_ofParts? made

end FlatMessage.Decimal
