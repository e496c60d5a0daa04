import FlatMessage.Proofs.Names
import Mathlib.Data.List.DropRight

/-!
# Digits and literals

The digits of a number denote it, and zeros before them change nothing.  A literal is a
run of digits with an optional sign; reading accepts exactly the literals of the numbers
in its range.
-/

namespace FlatMessage.Text

/-! ## Digits -/

theorem ofDigits_eq (digits : List Char) : ofDigits digits = Nat.ofDigitChars 10 digits 0 := by
  simp only [ofDigits, Nat.ofDigitChars, Nat.mul_comm 10, digitValue]
  rfl

@[simp]
theorem ofDigits_nil : ofDigits [] = 0 :=
  rfl

/-- More digits shift the ones before them. -/
theorem ofDigits_append (digits more : List Char) :
    ofDigits (digits ++ more) = ofDigits digits * 10 ^ more.length + ofDigits more := by
  induction more using List.reverseRecOn with
  | nil => simp
  | append_singleton more c ih =>
      have last : ∀ chars : List Char,
          ofDigits (chars ++ [c]) = ofDigits chars * 10 + digitValue c := by
        simp [ofDigits]
      rw [← List.append_assoc, last, last, ih, List.length_append, List.length_singleton,
        Nat.pow_succ, Nat.add_mul, Nat.mul_assoc, Nat.add_assoc]

theorem digitValue_le {c : Char} (digit : isDigit c = true) : digitValue c ≤ 9 := by
  simp only [isDigit, Bool.and_eq_true, decide_eq_true_eq, Char.le_def,
    UInt32.le_iff_toNat_le] at digit
  have bound : c.toNat ≤ 57 := digit.2
  rw [digitValue]
  omega

theorem ofDigits_cons (c : Char) (rest : List Char) :
    ofDigits (c :: rest) = digitValue c * 10 ^ rest.length + ofDigits rest := by
  have first : ofDigits [c] = digitValue c := by simp [ofDigits]
  rw [← first, ← ofDigits_append, List.singleton_append]

/-- So many digits denote less than the power of ten. -/
theorem ofDigits_lt {digits : List Char} (all : ∀ c ∈ digits, isDigit c = true) :
    ofDigits digits < 10 ^ digits.length := by
  induction digits with
  | nil => decide
  | cons c rest ih =>
      rw [List.forall_mem_cons] at all
      have step : (digitValue c + 1) * 10 ^ rest.length ≤ 10 * 10 ^ rest.length :=
        Nat.mul_le_mul_right _ (Nat.succ_le_succ (digitValue_le all.1))
      rw [ofDigits_cons, List.length_cons, Nat.pow_succ, Nat.mul_comm _ 10]
      have less := ih all.2
      rw [Nat.add_mul, Nat.one_mul] at step
      omega

/-- Fractional digits are less than a half if the first one is less than five. -/
theorem ofDigits_cons_lt_half_iff (c : Char) {rest : List Char}
    (all : ∀ c ∈ rest, isDigit c = true) :
    2 * ofDigits (c :: rest) < 10 ^ (c :: rest).length ↔ digitValue c < 5 := by
  have less := ofDigits_lt all
  rw [ofDigits_cons, List.length_cons, Nat.pow_succ]
  constructor
  · intro half
    by_contra five
    have more : 5 * 10 ^ rest.length ≤ digitValue c * 10 ^ rest.length :=
      Nat.mul_le_mul_right _ (Nat.le_of_not_lt five)
    omega
  · intro four
    have fewer : digitValue c * 10 ^ rest.length ≤ 4 * 10 ^ rest.length :=
      Nat.mul_le_mul_right _ (Nat.le_of_lt_succ four)
    omega

/-- The digits of a number denote it. -/
@[simp]
theorem ofDigits_naturalDigits (number : Nat) : ofDigits (naturalDigits number) = number := by
  rw [ofDigits_eq, naturalDigits, Nat.ofDigitChars_toDigits (by decide) (by decide)]

/-- Zeros alone denote zero. -/
@[simp]
theorem ofDigits_replicate_zero (count : Nat) : ofDigits (List.replicate count '0') = 0 := by
  induction count with
  | zero => rfl
  | succ count ih =>
      rw [List.replicate_succ', ofDigits_append, ih]
      rfl

/-- Zeros before digits change nothing. -/
@[simp]
theorem ofDigits_leftpad (width : Nat) (digits : List Char) :
    ofDigits (digits.leftpad width '0') = ofDigits digits := by
  rw [List.leftpad, ofDigits_append, ofDigits_replicate_zero, Nat.zero_mul, Nat.zero_add]

theorem naturalDigits_ne_nil (number : Nat) : naturalDigits number ≠ [] := by
  simpa [natural] using natural_ne_nil number

theorem isDigit_of_mem_naturalDigits {number : Nat} {c : Char}
    (member : c ∈ naturalDigits number) : isDigit c = true := by
  have inNatural : c ∈ (natural number).toList := by simpa [natural] using member
  exact isDigit_of_mem_natural inNatural

theorem isDigit_of_mem_replicate_zero {count : Nat} {c : Char}
    (member : c ∈ List.replicate count '0') : isDigit c = true := by
  rw [List.eq_of_mem_replicate member]
  rfl

theorem isDigit_of_mem_leftpad {width : Nat} {digits : List Char}
    (all : ∀ c ∈ digits, isDigit c = true) :
    ∀ c ∈ digits.leftpad width '0', isDigit c = true := by
  intro c member
  rw [List.leftpad] at member
  rcases List.mem_append.mp member with padding | digit
  · exact isDigit_of_mem_replicate_zero padding
  · exact all c digit

/-! ## Literals -/

/-- A run of digits, of which there is at least one. -/
def IsNumeral (chars : List Char) : Prop :=
  chars ≠ [] ∧ ∀ c ∈ chars, isDigit c = true

instance (chars : List Char) : Decidable (IsNumeral chars) :=
  decidable_of_iff (chars ≠ [] ∧ chars.all isDigit = true) (and_congr_right' List.all_eq_true)

theorem digits?_eq_some_iff {chars : List Char} {number : Nat} :
    digits? chars = some number ↔ IsNumeral chars ∧ ofDigits chars = number := by
  unfold digits? IsNumeral
  split
  · next refused =>
      simp only [Bool.or_eq_true, List.isEmpty_iff, Bool.not_eq_true', List.all_eq_false] at refused
      simp only [reduceCtorEq, false_iff, not_and]
      rintro ⟨some_, all⟩
      rcases refused with none_ | ⟨c, member, other⟩
      · exact absurd none_ some_
      · exact absurd (all c member) other
  · next accepted =>
      simp only [Bool.or_eq_true, List.isEmpty_iff, Bool.not_eq_true', List.all_eq_false,
        not_or] at accepted
      simp only [Option.some.injEq, iff_and_self]
      intro _
      refine ⟨accepted.1, ?_⟩
      simpa using accepted.2

/-- The literals of an integer: digits that denote it, with an optional sign. -/
inductive IsLiteral : List Char → Int → Prop
  | unsigned {digits : List Char} (numeral : IsNumeral digits) :
      IsLiteral digits (ofDigits digits)
  | plus {digits : List Char} (numeral : IsNumeral digits) :
      IsLiteral ('+' :: digits) (ofDigits digits)
  | minus {digits : List Char} (numeral : IsNumeral digits) :
      IsLiteral ('-' :: digits) (-(ofDigits digits : Int))

theorem IsNumeral.head_ne {c : Char} {rest : List Char} (numeral : IsNumeral (c :: rest)) :
    c ≠ '-' ∧ c ≠ '+' := by
  have digit := numeral.2 c List.mem_cons_self
  constructor <;> rintro rfl <;> revert digit <;> decide

/-- Reading accepts the literals. -/
theorem signed?_eq_some_iff {text : String} {number : Int} :
    signed? text = some number ↔ IsLiteral text.toList number := by
  unfold signed?
  split
  · next rest chars =>
      simp only [chars, Option.map_eq_some_iff, Option.bind_eq_bind, Option.bind_eq_some_iff,
        Option.pure_def, Option.some.injEq]
      constructor
      · rintro ⟨_, ⟨_, read, rfl⟩, rfl⟩
        obtain ⟨numeral, rfl⟩ := digits?_eq_some_iff.mp read
        exact .minus numeral
      · intro literal
        cases literal with
        | unsigned numeral => exact absurd rfl numeral.head_ne.1
        | minus numeral => exact ⟨_, ⟨_, digits?_eq_some_iff.mpr ⟨numeral, rfl⟩, rfl⟩, rfl⟩
  · next rest chars =>
      rw [chars, Option.map_eq_some_iff]
      constructor
      · rintro ⟨_, read, rfl⟩
        obtain ⟨numeral, rfl⟩ := digits?_eq_some_iff.mp read
        exact .plus numeral
      · intro literal
        cases literal with
        | unsigned numeral => exact absurd rfl numeral.head_ne.2
        | plus numeral => exact ⟨_, digits?_eq_some_iff.mpr ⟨numeral, rfl⟩, rfl⟩
  · next chars noMinus noPlus =>
      rw [Option.map_eq_some_iff]
      constructor
      · rintro ⟨_, read, rfl⟩
        obtain ⟨numeral, rfl⟩ := digits?_eq_some_iff.mp read
        exact .unsigned numeral
      · intro literal
        generalize text.toList = given at *
        cases literal with
        | unsigned numeral => exact ⟨_, digits?_eq_some_iff.mpr ⟨numeral, rfl⟩, rfl⟩
        | plus numeral => exact absurd rfl (noPlus _)
        | minus numeral => exact absurd rfl (noMinus _)

/-- The literals of a 64-bit integer are read as it. -/
theorem signed64?_eq_some_iff {text : String} {number : Int64} :
    signed64? text = some number ↔ IsLiteral text.toList number.toInt := by
  rw [signed64?, Option.bind_eq_some_iff, ← signed?_eq_some_iff]
  constructor
  · rintro ⟨value, read, within⟩
    split at within
    · next bounds =>
        cases within
        rw [Int64.toInt_ofInt_of_le bounds.1 (Int.lt_add_one_of_le bounds.2)]
        exact read
    · cases within
  · intro read
    refine ⟨_, read, ?_⟩
    rw [if_pos ⟨number.minValue_le_toInt, number.toInt_le⟩, Int64.ofInt_toInt]

end FlatMessage.Text
