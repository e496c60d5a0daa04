import FlatMessage.Proofs.Rendering.Numerals
import Mathlib.Algebra.Order.Field.Rat
import Mathlib.Algebra.Order.Field.Basic
import Mathlib.Tactic.FieldSimp
import Mathlib.Tactic.Linarith
import Mathlib.Tactic.Positivity
import Mathlib.Tactic.Ring

/-!
# Rounding

A number is rounded to the nearest one with a given count of fractional digits, and away
from zero where two are equally near.  There is one such number.

Rescaling rounds so whatever the scale is.  When digits are added the value stays, and the
scale is reached exactly when the mantissa has room for the zeros.
-/

namespace FlatMessage

/-- The nearest number with so many fractional digits, and of two the one away from zero. -/
structure IsRounded (places : Nat) (exact rounded : ℚ) : Prop where
  whole : ∃ units : ℤ, rounded = units / 10 ^ places
  nearest : ∀ units : ℤ, |rounded - exact| ≤ |units / 10 ^ places - exact|
  away : ∀ units : ℤ, |rounded - exact| = |units / 10 ^ places - exact| →
    |(units : ℚ) / 10 ^ places| ≤ |rounded|

/-- A number is rounded in one way. -/
theorem IsRounded.unique {places : Nat} {exact first second : ℚ}
    (one : IsRounded places exact first) (other : IsRounded places exact second) :
    first = second := by
  obtain ⟨units, rfl⟩ := one.whole
  obtain ⟨others, rfl⟩ := other.whole
  have same := le_antisymm (one.nearest others) (other.nearest units)
  have size := le_antisymm (other.away units same.symm) (one.away others same)
  rcases abs_eq_abs.mp size with equal | opposite
  · exact equal
  · rw [opposite] at same ⊢
    rcases abs_eq_abs.mp same with equal | apart
    · linarith
    · -- Two opposite numbers are equally near to zero alone, and zero is nearer.
      obtain rfl : exact = 0 := by linarith
      have none_ := other.nearest 0
      simp only [Int.cast_zero, zero_div, sub_zero, abs_zero, abs_nonpos_iff] at none_
      rw [none_, neg_zero]

/-! ## Signs -/

/-- A magnitude with a sign. -/
def signed (negative : Bool) (magnitude : ℚ) : ℚ :=
  if negative then -magnitude else magnitude

theorem signed_mul (negative : Bool) (magnitude factor : ℚ) :
    signed negative magnitude * factor = signed negative (magnitude * factor) := by
  cases negative <;> simp [signed]

theorem signed_div (negative : Bool) (magnitude divisor : ℚ) :
    signed negative magnitude / divisor = signed negative (magnitude / divisor) := by
  rw [div_eq_mul_inv, signed_mul, ← div_eq_mul_inv]

@[simp]
theorem signed_zero (negative : Bool) : signed negative 0 = 0 := by
  cases negative <;> simp [signed]

theorem IsRounded.neg {places : Nat} {exact rounded : ℚ}
    (rounds : IsRounded places exact rounded) : IsRounded places (-exact) (-rounded) := by
  have mirrored (units : ℤ) :
      |(units : ℚ) / 10 ^ places - -exact| = |((-units : ℤ) : ℚ) / 10 ^ places - exact| := by
    rw [← abs_neg]
    congr 1
    push_cast
    ring
  have distance : |-rounded - -exact| = |rounded - exact| := by
    rw [← abs_neg]
    congr 1
    ring
  obtain ⟨units, whole⟩ := rounds.whole
  refine ⟨⟨-units, by rw [whole]; push_cast; ring⟩, fun other => ?_, fun other same => ?_⟩
  · rw [distance, mirrored]
    exact rounds.nearest _
  · rw [distance, mirrored] at same
    have size := rounds.away _ same
    rw [abs_neg]
    rwa [Int.cast_neg, neg_div, abs_neg] at size

/-- Rounding is the same on both sides of zero. -/
theorem IsRounded.signed {places : Nat} {exact rounded : ℚ}
    (rounds : IsRounded places exact rounded) (negative : Bool) :
    IsRounded places (signed negative exact) (signed negative rounded) := by
  cases negative
  · exact rounds
  · exact rounds.neg

/-- Rounding moves with the point. -/
theorem IsRounded.shift {places : Nat} {exact rounded : ℚ}
    (rounds : IsRounded places exact rounded) (count : Nat) :
    IsRounded (places + count) (exact / 10 ^ count) (rounded / 10 ^ count) := by
  have positive : (0 : ℚ) < 10 ^ count := by positivity
  have shifted (units : ℤ) :
      (units : ℚ) / 10 ^ (places + count) = units / 10 ^ places / 10 ^ count := by
    rw [pow_add, div_div]
  have distance (number : ℚ) :
      |number / 10 ^ count - exact / 10 ^ count| = |number - exact| / 10 ^ count := by
    rw [← sub_div, abs_div, abs_of_pos positive]
  obtain ⟨units, whole⟩ := rounds.whole
  refine ⟨⟨units, by rw [whole, shifted]⟩, fun other => ?_, fun other same => ?_⟩
  · rw [shifted, distance, distance]
    exact div_le_div_of_nonneg_right (rounds.nearest other) positive.le
  · rw [shifted, distance, distance, div_left_inj' positive.ne'] at same
    rw [shifted, abs_div, abs_div _ ((10 : ℚ) ^ count)]
    exact div_le_div_of_nonneg_right (rounds.away other same) (abs_nonneg _)

/-! ## Rounding mantissas -/

/-- Distances scale with the place of the point. -/
theorem abs_div_sub (places : Nat) (units exact : ℚ) :
    |units / 10 ^ places - exact| = |units - exact * 10 ^ places| / 10 ^ places := by
  have unit : (0 : ℚ) < 10 ^ places := by positivity
  rw [← abs_of_pos unit, ← abs_div, abs_of_pos unit]
  congr 1
  field_simp

/-- Two whole counts are at least one apart, seen from anywhere. -/
theorem one_le_distance_add_distance {units other : ℤ} (different : other ≠ units) (middle : ℚ) :
    1 ≤ |(other : ℚ) - middle| + |(units : ℚ) - middle| := by
  have apart : (1 : ℚ) ≤ |(other : ℚ) - units| := by
    exact_mod_cast Int.one_le_abs (sub_ne_zero.mpr different)
  rw [abs_sub_comm (units : ℚ)]
  exact apart.trans (abs_sub_le _ _ _)

/-- Another count is as near as one that is at most half a unit above only if it is the next
one below, and half a unit away. -/
theorem eq_of_as_near {units other : ℤ} (different : other ≠ units) {middle : ℚ}
    (low : (units : ℚ) - 1 / 2 ≤ middle) (high : middle < units + 1 / 2)
    (same : |(units : ℚ) - middle| = |(other : ℚ) - middle|) :
    other = units - 1 ∧ middle = units - 1 / 2 := by
  rcases abs_eq_abs.mp same with equal | opposite
  · have both : (other : ℚ) = units := by linarith
    exact absurd (by exact_mod_cast both) different
  · have least : units - 1 ≤ other := by
      have step : (units : ℚ) - 1 ≤ other := by linarith
      exact_mod_cast step
    have greatest : other < units + 1 := by
      have step : (other : ℚ) < units + 1 := by linarith
      exact_mod_cast step
    obtain rfl : other = units - 1 := by omega
    refine ⟨rfl, ?_⟩
    push_cast at opposite
    linarith

/-- A whole count of units less than half a unit below, or at most half a unit above, is
rounded. -/
theorem isRounded_of_near {places units : Nat} {exact : ℚ} (positive : 0 ≤ exact)
    (low : (units : ℚ) - 1 / 2 ≤ exact * 10 ^ places)
    (high : exact * 10 ^ places < units + 1 / 2) :
    IsRounded places exact (units / 10 ^ places) := by
  have unit : (0 : ℚ) < 10 ^ places := by positivity
  have scaled : 0 ≤ exact * 10 ^ places := by positivity
  rw [← Int.cast_natCast] at *
  refine ⟨⟨units, rfl⟩, fun other => ?_, fun other same => ?_⟩
  · rw [abs_div_sub, abs_div_sub]
    refine div_le_div_of_nonneg_right ?_ unit.le
    by_cases equal : other = units
    · rw [equal]
    · have close : |((units : ℤ) : ℚ) - exact * 10 ^ places| ≤ 1 / 2 := by
        rw [abs_le]
        constructor <;> linarith
      linarith [one_le_distance_add_distance equal (exact * 10 ^ places)]
  · rw [abs_div_sub, abs_div_sub, div_left_inj' unit.ne'] at same
    rw [abs_div, abs_div]
    refine div_le_div_of_nonneg_right ?_ (abs_nonneg _)
    by_cases equal : other = units
    · rw [equal]
    · obtain ⟨below, half⟩ := eq_of_as_near equal low high same
      have some_ : 0 < (units : ℤ) := by
        have more : (0 : ℚ) < (units : ℤ) := by linarith
        exact_mod_cast more
      rw [below, ← Int.cast_abs, ← Int.cast_abs, Int.cast_le, abs_of_pos some_,
        abs_of_nonneg (by omega)]
      omega

/-- Digits behind the last place that is kept decide by their half. -/
theorem isRounded_div {places dropped units mantissa : Nat}
    (low : 2 * units * 10 ^ dropped ≤ 2 * mantissa + 10 ^ dropped)
    (high : 2 * mantissa < (2 * units + 1) * 10 ^ dropped) :
    IsRounded places (mantissa / 10 ^ (places + dropped)) (units / 10 ^ places) := by
  have unit : (0 : ℚ) < 10 ^ dropped := by positivity
  have scaled : (mantissa : ℚ) / 10 ^ (places + dropped) * 10 ^ places =
      mantissa / 10 ^ dropped := by
    rw [pow_add]
    field_simp
  have low : (2 * units * 10 ^ dropped : ℚ) ≤ 2 * mantissa + 10 ^ dropped := by exact_mod_cast low
  have high : (2 * mantissa : ℚ) < (2 * units + 1) * 10 ^ dropped := by exact_mod_cast high
  refine isRounded_of_near (by positivity) ?_ ?_
  · rw [scaled, le_div_iff₀ unit]
    linarith
  · rw [scaled, div_lt_iff₀ unit]
    linarith

/-- What has no more fractional digits is its own rounding. -/
theorem isRounded_of_le {places scale : Nat} (fewer : scale ≤ places) (mantissa : Nat) :
    IsRounded places (mantissa / 10 ^ scale) (mantissa / 10 ^ scale) := by
  obtain ⟨count, rfl⟩ := Nat.exists_eq_add_of_le fewer
  have padded : (mantissa : ℚ) / 10 ^ scale =
      (mantissa * 10 ^ count : Nat) / 10 ^ (scale + count) := by
    push_cast
    rw [pow_add]
    field_simp
  rw [padded]
  have own := @isRounded_div (scale + count) 0 (mantissa * 10 ^ count) (mantissa * 10 ^ count)
  rw [pow_zero, Nat.add_zero] at own
  exact own (by omega) (by omega)

namespace Decimal

/-! ## Values -/

/-- The rational number that a decimal number is. -/
def value (number : Decimal) : ℚ :=
  signed number.negative (number.mantissa / 10 ^ number.scale)

theorem isRounded_value {number : Decimal} {places : Nat} (fewer : number.scale ≤ places) :
    IsRounded places number.value number.value :=
  (isRounded_of_le fewer number.mantissa).signed number.negative

/-- Zero is what it is without a sign. -/
theorem value_of_ofParts? {negative : Bool} {mantissa scale : Nat} {number : Decimal}
    (made : ofParts? negative mantissa scale = some number) :
    number.value = signed negative (mantissa / 10 ^ scale) := by
  unfold ofParts? at made
  split at made
  · cases made
    by_cases nothing : mantissa = 0
    · simp [value, nothing]
    · rw [value, bne_iff_ne.mpr nothing, Bool.and_true]
  · cases made

/-- The decimal number of a 64-bit integer is equal to it. -/
@[simp]
theorem value_ofInt64 (number : Int64) : (ofInt64 number).value = number.toInt := by
  have fits : number.toInt.natAbs < 2 ^ 96 := by
    have low := number.le_toInt
    have high := number.toInt_lt
    omega
  obtain ⟨decimal, made⟩ : ∃ decimal, ofParts? (decide (number.toInt < 0))
      number.toInt.natAbs 0 = some decimal := ⟨_, dif_pos fits⟩
  rw [ofInt64, made, Option.getD_some, value_of_ofParts? made, pow_zero, div_one, signed]
  by_cases negative : number.toInt < 0
  · rw [if_pos (by simpa using negative), Nat.cast_natAbs, abs_of_neg negative]
    simp
  · rw [if_neg (by simpa using negative), Nat.cast_natAbs, abs_of_nonneg (not_lt.mp negative)]

/-! ## Rescaling -/

/-- The mantissa of a number has room for the zeros up to so many fractional digits. -/
def HasRoom (number : Decimal) (places : Nat) : Prop :=
  number.mantissa * 10 ^ (places - number.scale) < mantissaLimit

instance (number : Decimal) (places : Nat) : Decidable (number.HasRoom places) :=
  inferInstanceAs (Decidable (_ < _))

theorem appendZeros_fst (mantissa count : Nat) :
    (appendZeros mantissa count).1 = mantissa * 10 ^ (appendZeros mantissa count).2 := by
  induction count generalizing mantissa with
  | zero => simp [appendZeros]
  | succ count ih =>
      unfold appendZeros
      split
      · rw [ih, Nat.pow_succ]
        ring
      · simp

/-- Rescaling adds digits up to the scale, as long as the mantissa has room. -/
theorem le_scale_rescale_iff {number : Decimal} {scale places : Nat} (few : scale ≤ maxScale)
    (within : places ≤ scale) :
    places ≤ (number.rescale scale).scale ↔ number.HasRoom places := by
  have kept (more : places ≤ number.scale) : number.HasRoom places := by
    rw [HasRoom, Nat.sub_eq_zero_of_le more, pow_zero, mul_one]
    exact number.mantissa_lt
  unfold rescale
  split
  · next same => exact iff_of_true (same ▸ within) (kept (same ▸ within))
  split
  · next nothing =>
      refine iff_of_true (le_min within (within.trans few)) ?_
      rw [HasRoom, nothing, zero_mul]
      decide
  split
  · next lower => exact iff_of_true within (kept (within.trans lower.le))
  · next more =>
      have added := @le_appendZeros_iff number.mantissa number.mantissa_lt
        (places - number.scale) (scale - number.scale)
      have asked : places - number.scale ≤ scale - number.scale := by omega
      rw [and_iff_right asked] at added
      rw [HasRoom, ← added]
      dsimp only
      omega

/-- Rescaling adds no more digits than are asked for. -/
theorem scale_rescale_le (number : Decimal) (scale : Nat) :
    (number.rescale scale).scale ≤ scale := by
  unfold rescale
  split
  · next same => exact same.le
  split
  · exact min_le_left _ _
  split
  · exact le_rfl
  · next more =>
      have added := (@le_appendZeros_iff number.mantissa number.mantissa_lt _
        (scale - number.scale)).mp le_rfl
      dsimp only
      omega

/-- A scale is reached exactly when there is room for it. -/
theorem scale_rescale_eq_iff {number : Decimal} {scale : Nat} (few : scale ≤ maxScale) :
    (number.rescale scale).scale = scale ↔ number.HasRoom scale := by
  rw [← le_scale_rescale_iff few le_rfl]
  exact ⟨Eq.ge, (number.scale_rescale_le scale).antisymm⟩

/-- Dropping digits rounds. -/
theorem isRounded_dropDigits {mantissa scale places : Nat} (lower : places < scale) :
    IsRounded places (mantissa / 10 ^ scale)
      (dropDigits mantissa (scale - places) / 10 ^ places) := by
  obtain ⟨dropped, rfl⟩ := Nat.exists_eq_add_of_lt lower
  rw [show places + dropped + 1 - places = dropped + 1 by omega, Nat.add_assoc]
  have half : 10 ^ (dropped + 1) = 2 * (5 * 10 ^ dropped) := by
    rw [Nat.pow_succ]
    ring
  have quotient : dropDigits mantissa (dropped + 1) =
      (mantissa + 5 * 10 ^ dropped) / 10 ^ (dropped + 1) := rfl
  have whole := Nat.div_add_mod (mantissa + 5 * 10 ^ dropped) (10 ^ (dropped + 1))
  have rest := Nat.mod_lt (mantissa + 5 * 10 ^ dropped) (y := 10 ^ (dropped + 1)) (by positivity)
  rw [← quotient, mul_comm] at whole
  generalize (mantissa + 5 * 10 ^ dropped) % 10 ^ (dropped + 1) = remainder at *
  refine isRounded_div ?_ ?_
  · linarith [Nat.zero_le remainder]
  · linarith

/-- Rescaling rounds halves away from zero, whether or not it reaches the scale. -/
theorem isRounded_rescale (number : Decimal) (scale : Nat) :
    IsRounded scale number.value (number.rescale scale).value := by
  unfold rescale
  split
  · next same => exact isRounded_value same.le
  split
  · next nothing =>
      have own := (isRounded_of_le (Nat.zero_le scale) 0).signed number.negative
      simpa [value, nothing] using own
  split
  · next lower => exact (isRounded_dropDigits lower).signed number.negative
  · next more =>
      have same : ((appendZeros number.mantissa (scale - number.scale)).1 : ℚ) /
          10 ^ (number.scale + (appendZeros number.mantissa (scale - number.scale)).2) =
            number.mantissa / 10 ^ number.scale := by
        rw [appendZeros_fst, pow_add]
        push_cast
        field_simp
      rw [value, value, same]
      exact (isRounded_of_le (not_lt.mp more) number.mantissa).signed number.negative

end Decimal

end FlatMessage
