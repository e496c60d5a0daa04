import FlatMessage.Proofs.Rendering.Digits
import FlatMessage.Proofs.Rendering.Rounding

/-!
# Reading decimal numbers

What a decimal text denotes is given by its digits, the place of its point and its power of
ten.  Reading takes in the digits as long as the mantissa and the fractional digits fit,
and rounds what is left to the last digit that it has taken.  A power of ten moves the
point, and rounds again where this gives too many fractional digits.

A text is read as exactly what it denotes if its digits fit.
-/

namespace FlatMessage.Decimal

open Text (isDigit digitValue ofDigits)

/-! ## What texts denote -/

/-- The digits among characters. -/
def digitsIn (chars : List Char) : List Char :=
  chars.filter isDigit

/-- The digits after the point. -/
def fractionIn (chars : List Char) : List Char :=
  digitsIn (chars.dropWhile (· != '.'))

/-- What a number without a power of ten denotes. -/
def positionalValue (chars : List Char) : ℚ :=
  signed (chars.head? == some '-') (ofDigits (digitsIn chars) / 10 ^ (fractionIn chars).length)

/-- The characters before the power of ten. -/
def mantissaPart (chars : List Char) : List Char :=
  chars.takeWhile fun c => c != 'e' && c != 'E'

/-- The characters of the power of ten, after the letter. -/
def powerPart (chars : List Char) : List Char :=
  (chars.dropWhile fun c => c != 'e' && c != 'E').tail

/-- The power of ten of a text. -/
def powerOf (chars : List Char) : ℤ :=
  (if (powerPart chars).head? = some '-' then -1 else 1) * ofDigits (digitsIn (powerPart chars))

/-- What a text denotes. -/
def writtenValue (chars : List Char) : ℚ :=
  positionalValue (mantissaPart chars) * 10 ^ powerOf chars

/-- The digits of a text fit, and so do those behind the point, before and after it is
moved. -/
structure Fits (chars : List Char) : Prop where
  mantissa : ofDigits (digitsIn (mantissaPart chars)) < mantissaLimit
  fraction : (fractionIn (mantissaPart chars)).length ≤ maxScale
  moved : (fractionIn (mantissaPart chars)).length - powerOf chars ≤ maxScale

/-- A number is what a text denotes up to rounding: of what is before the power of ten, and
again of what the power of ten makes of it. -/
def IsReading (chars : List Char) (number : Decimal) : Prop :=
  ∃ base : Decimal, IsRounded base.scale (positionalValue (mantissaPart chars)) base.value ∧
    IsRounded number.scale (base.value * 10 ^ powerOf chars) number.value

/-! ## Taking in digits -/

@[simp]
theorem digitsIn_nil : digitsIn [] = [] :=
  rfl

theorem digitsIn_cons_of_isDigit {c : Char} (digit : isDigit c = true) (rest : List Char) :
    digitsIn (c :: rest) = c :: digitsIn rest :=
  List.filter_cons_of_pos digit

theorem digitsIn_cons_of_not {c : Char} (other : isDigit c = false) (rest : List Char) :
    digitsIn (c :: rest) = digitsIn rest :=
  List.filter_cons_of_neg (by simp [other])

theorem isDigit_of_mem_digitsIn {chars : List Char} : ∀ c ∈ digitsIn chars, isDigit c = true :=
  fun _ member => List.of_mem_filter member

/-- The digit that decides on rounding is the first one. -/
theorem find?_isDigit (chars : List Char) : chars.find? isDigit = (digitsIn chars).head? :=
  List.head?_filter.symm

/-- The mantissa after more digits. -/
def extend (mantissa : Nat) (digits : List Char) : Nat :=
  mantissa * 10 ^ digits.length + ofDigits digits

@[simp]
theorem extend_nil (mantissa : Nat) : extend mantissa [] = mantissa := by
  simp [extend]

@[simp]
theorem extend_zero (digits : List Char) : extend 0 digits = ofDigits digits := by
  simp [extend]

theorem extend_cons (mantissa : Nat) (c : Char) (rest : List Char) :
    extend mantissa (c :: rest) = extend (mantissa * 10 + digitValue c) rest := by
  rw [extend, extend, Text.ofDigits_cons, List.length_cons, Nat.pow_succ]
  ring

theorem extend_append (mantissa : Nat) (digits more : List Char) :
    extend mantissa (digits ++ more) = extend (extend mantissa digits) more := by
  induction digits generalizing mantissa with
  | nil => simp
  | cons c rest ih => rw [List.cons_append, extend_cons, extend_cons, ih]

theorem le_extend (mantissa : Nat) (digits : List Char) : mantissa ≤ extend mantissa digits :=
  (Nat.le_mul_of_pos_right _ (Nat.pow_pos (by decide))).trans (Nat.le_add_right _ _)

/-- The digits behind the point, which may already be there. -/
def placesAfter (point : Bool) (chars : List Char) : Nat :=
  if point then (digitsIn chars).length else (fractionIn chars).length

@[simp]
theorem placesAfter_nil (point : Bool) : placesAfter point [] = 0 := by
  cases point <;> rfl

theorem placesAfter_cons_of_isDigit {c : Char} (digit : isDigit c = true) (point : Bool)
    (rest : List Char) :
    placesAfter point (c :: rest) = (if point then 1 else 0) + placesAfter point rest := by
  have other : (c != '.') = true := by
    rw [bne_iff_ne]
    rintro rfl
    exact absurd digit (by decide)
  cases point
  · simp [placesAfter, fractionIn, other]
  · simp [placesAfter, digitsIn_cons_of_isDigit digit, Nat.add_comm]

/-! ## Digits that are left over -/

/-- Digits that are left over round the last one that was taken. -/
theorem isRounded_readSurplus {mantissa scale : Nat} {surplus : List Char} {parts : Nat × Nat}
    (fits : mantissa < mantissaLimit)
    (read : readSurplus mantissa scale surplus = some parts) :
    IsRounded parts.2
      (extend mantissa (digitsIn surplus) / 10 ^ (scale + (digitsIn surplus).length))
      (parts.1 / 10 ^ parts.2) := by
  unfold readSurplus at read
  rw [find?_isDigit] at read
  have all := @isDigit_of_mem_digitsIn surplus
  split at read
  · generalize digitsIn surplus = digits at *
    cases digits with
    | nil =>
        cases read
        simpa using isRounded_of_le (le_refl scale) mantissa
    | cons c rest =>
        have half := Text.ofDigits_cons_lt_half_iff c (List.forall_mem_cons.mp all).2
        have less := Text.ofDigits_lt all
        dsimp only [List.head?_cons] at read
        simp only [← half] at read
        rw [extend]
        generalize ofDigits (c :: rest) = leftover at *
        generalize (c :: rest).length = count at *
        split at read
        · next low =>
            cases read
            refine isRounded_div ?_ ?_ <;> linarith [Nat.zero_le leftover]
        · next high =>
            unfold roundUp? at read
            split at read
            · cases read
              refine isRounded_div ?_ ?_ <;> linarith
            · next full =>
                split at read
                · cases read
                · next some_ =>
                    cases read
                    -- The mantissa is the greatest one, and its last digit is rounded away.
                    obtain rfl : mantissa = 79228162514264337593543950335 := by
                      rw [mantissaLimit] at fits full
                      omega
                    have places : scale + count = scale - 1 + (count + 1) := by omega
                    rw [places]
                    refine isRounded_div ?_ ?_ <;> rw [Nat.pow_succ] <;> omega
  · cases read

/-- Without digits that are left over nothing changes. -/
theorem eq_of_readSurplus {mantissa scale : Nat} {surplus : List Char} {parts : Nat × Nat}
    (none_ : digitsIn surplus = [])
    (read : readSurplus mantissa scale surplus = some parts) : parts = (mantissa, scale) := by
  unfold readSurplus at read
  rw [find?_isDigit, none_] at read
  split at read
  · cases read
    rfl
  · cases read

/-! ## Numbers without a power of ten -/

/-- The digits up to some place are taken in, and those after it are left over.  Either
there are none of these, or not all digits fit. -/
structure IsCut (point : Bool) (mantissa scale : Nat) (parts : Nat × Nat)
    (chars before surplus : List Char) : Prop where
  digits : digitsIn chars = digitsIn before ++ digitsIn surplus
  places : placesAfter point chars = placesAfter point before + (digitsIn surplus).length
  fits : extend mantissa (digitsIn before) < mantissaLimit
  left : readSurplus (extend mantissa (digitsIn before)) (scale + placesAfter point before)
    surplus = some parts
  ends : digitsIn surplus = [] ∨ maxScale < scale + placesAfter point chars ∨
    mantissaLimit ≤ extend mantissa (digitsIn chars)

section

variable {point digit : Bool} {mantissa scale : Nat} {parts : Nat × Nat} {c : Char}
  {chars rest before surplus : List Char}

/-- All of the digits may be left over. -/
theorem isCut_of_readSurplus (fits : mantissa < mantissaLimit)
    (left : readSurplus mantissa scale chars = some parts)
    (behind : placesAfter point chars = (digitsIn chars).length)
    (full : digitsIn chars = [] ∨ maxScale < scale + placesAfter point chars ∨
      mantissaLimit ≤ extend mantissa (digitsIn chars)) :
    IsCut point mantissa scale parts chars [] chars where
  digits := rfl
  places := by simp [behind]
  fits := by simpa using fits
  left := by simpa using left
  ends := full

/-- One more digit is taken in. -/
theorem IsCut.cons_digit (isDigit : isDigit c = true)
    (cut : IsCut point (mantissa * 10 + digitValue c) (if point then scale + 1 else scale) parts
      rest before surplus) :
    IsCut point mantissa scale parts (c :: rest) (c :: before) surplus := by
  have moved : (if point then scale + 1 else scale) = scale + if point then 1 else 0 := by
    cases point <;> rfl
  rw [moved] at cut
  constructor
  · rw [digitsIn_cons_of_isDigit isDigit, digitsIn_cons_of_isDigit isDigit, cut.digits,
      List.cons_append]
  · rw [placesAfter_cons_of_isDigit isDigit, placesAfter_cons_of_isDigit isDigit, cut.places,
      Nat.add_assoc]
  · rw [digitsIn_cons_of_isDigit isDigit, extend_cons]
    exact cut.fits
  · rw [digitsIn_cons_of_isDigit isDigit, extend_cons, placesAfter_cons_of_isDigit isDigit,
      ← Nat.add_assoc]
    exact cut.left
  · rw [digitsIn_cons_of_isDigit isDigit, extend_cons, placesAfter_cons_of_isDigit isDigit,
      ← Nat.add_assoc]
    exact cut.ends

theorem IsCut.cons_point (cut : IsCut true mantissa scale parts rest before surplus) :
    IsCut false mantissa scale parts ('.' :: rest) ('.' :: before) surplus :=
  ⟨cut.digits, cut.places, cut.fits, cut.left, cut.ends⟩

theorem IsCut.cons_underscore (cut : IsCut point mantissa scale parts rest before surplus) :
    IsCut point mantissa scale parts ('_' :: rest) ('_' :: before) surplus := by
  cases point <;> exact ⟨cut.digits, cut.places, cut.fits, cut.left, cut.ends⟩

/-- Digits are taken in up to where they no longer fit. -/
theorem exists_isCut (fits : mantissa < mantissaLimit)
    (read : readUnsigned point digit mantissa scale chars = some parts) :
    ∃ before surplus, IsCut point mantissa scale parts chars before surplus := by
  induction chars generalizing point digit mantissa scale with
  | nil =>
      rw [readUnsigned] at read
      split at read
      · exact ⟨_, _, isCut_of_readSurplus fits (by simpa [readSurplus] using read) (by simp) (.inl rfl)⟩
      · cases read
  | cons c rest ih =>
      rw [readUnsigned] at read
      split at read
      · next full =>
          rw [Bool.and_eq_true, decide_eq_true_eq] at full
          obtain ⟨rfl, full⟩ := full
          refine ⟨_, _, isCut_of_readSurplus fits read rfl ?_⟩
          by_cases none_ : digitsIn (c :: rest) = []
          · exact .inl none_
          · have some_ := List.length_pos_of_ne_nil none_
            rw [placesAfter, if_pos rfl]
            exact .inr (.inl (by omega))
      split at read
      · next isDigit =>
          dsimp only at read
          split at read
          · next room =>
              obtain ⟨before, surplus, cut⟩ := ih room read
              exact ⟨_, _, cut.cons_digit isDigit⟩
          · next full =>
              split at read
              · next behind =>
                  subst behind
                  refine ⟨_, _, isCut_of_readSurplus fits read rfl (.inr (.inr ?_))⟩
                  rw [digitsIn_cons_of_isDigit isDigit, extend_cons]
                  exact (not_lt.mp full).trans (le_extend _ _)
              · cases read
      split at read
      · next isPoint =>
          simp only [Bool.and_eq_true, decide_eq_true_eq, Bool.not_eq_true'] at isPoint
          obtain ⟨rfl, rfl⟩ := isPoint
          obtain ⟨before, surplus, cut⟩ := ih fits read
          exact ⟨_, _, cut.cons_point⟩
      split at read
      · next isUnderscore =>
          simp only [Bool.and_eq_true, decide_eq_true_eq] at isUnderscore
          obtain ⟨rfl, -⟩ := isUnderscore
          obtain ⟨before, surplus, cut⟩ := ih fits read
          exact ⟨_, _, cut.cons_underscore⟩
      · cases read

end

/-- Digits are read as a rounding of what they denote. -/
theorem isRounded_readUnsigned {chars : List Char} {parts : Nat × Nat}
    (read : readUnsigned false false 0 0 chars = some parts) :
    IsRounded parts.2 (ofDigits (digitsIn chars) / 10 ^ (fractionIn chars).length)
      (parts.1 / 10 ^ parts.2) := by
  obtain ⟨before, surplus, cut⟩ := exists_isCut (by decide) read
  have rounds := isRounded_readSurplus cut.fits cut.left
  rwa [← extend_append, ← cut.digits, extend_zero, Nat.zero_add, ← cut.places] at rounds

/-- Digits that fit are read as what they denote. -/
theorem eq_of_readUnsigned {chars : List Char} {parts : Nat × Nat}
    (read : readUnsigned false false 0 0 chars = some parts)
    (fits : ofDigits (digitsIn chars) < mantissaLimit)
    (few : (fractionIn chars).length ≤ maxScale) :
    parts = (ofDigits (digitsIn chars), (fractionIn chars).length) := by
  obtain ⟨before, surplus, digits, places, -, left, ends⟩ := exists_isCut (by decide) read
  rw [extend_zero, Nat.zero_add] at ends
  have none_ : digitsIn surplus = [] := by
    rcases ends with none_ | many | great
    · exact none_
    · exact absurd few (not_le.mpr many)
    · exact absurd fits (not_lt.mpr great)
  rw [none_, List.append_nil] at digits
  rw [none_, List.length_nil, Nat.add_zero] at places
  rw [eq_of_readSurplus none_ left, extend_zero, Nat.zero_add, ← digits, ← places]
  rfl

/-- The characters that a number without a power of ten may have after its sign. -/
theorem plain_of_readUnsigned {chars : List Char} {point digit : Bool} {mantissa scale : Nat}
    {parts : Nat × Nat} (read : readUnsigned point digit mantissa scale chars = some parts) :
    ∀ c ∈ chars, isDigit c = true ∨ c = '.' ∨ c = '_' := by
  induction chars generalizing point digit mantissa scale with
  | nil => nofun
  | cons c rest ih =>
      unfold readUnsigned readSurplus at read
      grind

/-- The sign of a number is before what is read of it. -/
theorem exists_of_readPositional? {chars : List Char} {number : Decimal}
    (read : readPositional? chars = some number) :
    ∃ sign unsigned parts, chars = sign ++ unsigned ∧ (∀ c ∈ sign, c = '-' ∨ c = '+') ∧
      readUnsigned false false 0 0 unsigned = some parts ∧
      ofParts? (chars.head? == some '-') parts.1 parts.2 = some number := by
  unfold readPositional? at read
  split at read
  · next rest =>
      obtain ⟨parts, digits, made⟩ := Option.bind_eq_some_iff.mp read
      exact ⟨['-'], rest, parts, rfl, by simp, digits, made⟩
  · next rest =>
      obtain ⟨parts, digits, made⟩ := Option.bind_eq_some_iff.mp read
      exact ⟨['+'], rest, parts, rfl, by simp, digits, made⟩
  · next noMinus _ =>
      obtain ⟨parts, digits, made⟩ := Option.bind_eq_some_iff.mp read
      refine ⟨[], chars, parts, rfl, by simp, digits, ?_⟩
      have unsigned : (chars.head? == some '-') = false := by
        rw [beq_eq_false_iff_ne]
        intro minus
        obtain ⟨rest, rfl⟩ := List.head?_eq_some_iff.mp minus
        exact noMinus rest rfl
      rwa [unsigned]

/-- A sign has no digits and no point. -/
theorem digitsIn_sign_append {sign : List Char} (signs : ∀ c ∈ sign, c = '-' ∨ c = '+')
    (unsigned : List Char) :
    digitsIn (sign ++ unsigned) = digitsIn unsigned ∧
      fractionIn (sign ++ unsigned) = fractionIn unsigned := by
  induction sign with
  | nil => exact ⟨rfl, rfl⟩
  | cons c rest ih =>
      rw [List.forall_mem_cons] at signs
      obtain ⟨rfl | rfl, signs⟩ := signs <;> exact ih signs

/-- A number without a power of ten is read as a rounding of what it denotes. -/
theorem isRounded_readPositional? {chars : List Char} {number : Decimal}
    (read : readPositional? chars = some number) :
    IsRounded number.scale (positionalValue chars) number.value := by
  obtain ⟨sign, unsigned, parts, rfl, signs, digits, made⟩ := exists_of_readPositional? read
  obtain ⟨same, fraction⟩ := digitsIn_sign_append signs unsigned
  rw [value_of_ofParts? made, scale_of_ofParts? made, positionalValue, same, fraction]
  exact (isRounded_readUnsigned digits).signed _

/-- A number without a power of ten whose digits fit is read as what it denotes. -/
theorem value_of_readPositional? {chars : List Char} {number : Decimal}
    (read : readPositional? chars = some number)
    (fits : ofDigits (digitsIn chars) < mantissaLimit)
    (few : (fractionIn chars).length ≤ maxScale) :
    number.value = positionalValue chars ∧ number.scale = (fractionIn chars).length := by
  obtain ⟨sign, unsigned, parts, rfl, signs, digits, made⟩ := exists_of_readPositional? read
  obtain ⟨same, fraction⟩ := digitsIn_sign_append signs unsigned
  rw [same] at fits
  rw [fraction] at few
  obtain rfl := eq_of_readUnsigned digits fits few
  rw [value_of_ofParts? made, scale_of_ofParts? made, positionalValue, same, fraction]
  exact ⟨rfl, rfl⟩

/-! ## Powers of ten -/

/-- A number without a power of ten has no letter. -/
theorem not_letter_of_readPositional? {chars : List Char} {number : Decimal}
    (read : readPositional? chars = some number) :
    ∀ c ∈ chars, (c != 'e' && c != 'E') = true := by
  obtain ⟨sign, unsigned, parts, rfl, signs, digits, -⟩ := exists_of_readPositional? read
  intro c member
  rw [Bool.and_eq_true, bne_iff_ne, bne_iff_ne]
  rcases List.mem_append.mp member with inSign | inNumber
  · obtain rfl | rfl := signs c inSign <;> decide
  · rcases plain_of_readUnsigned digits c inNumber with digit | rfl | rfl
    · constructor <;> rintro rfl <;> exact absurd digit (by decide)
    · decide
    · decide

/-- The digits of a power of ten are read as the number that they denote. -/
theorem ofDigits_of_unsigned? {limit power : Nat} {chars : List Char}
    (read : Text.unsigned? limit (String.ofList chars) = some power) :
    ofDigits (digitsIn chars) = power := by
  have numeral {digits : List Char} (read : Text.digits? digits = some power) :
      ofDigits (digitsIn digits) = power := by
    obtain ⟨⟨-, all⟩, rfl⟩ := Text.digits?_eq_some_iff.mp read
    rw [digitsIn, List.filter_eq_self.mpr all]
  rw [Text.unsigned?, String.toList_ofList] at read
  have digits := (Option.filter_eq_some_iff.mp read).1
  split at digits
  · rw [digitsIn_cons_of_not rfl]
    exact numeral digits
  · exact numeral digits

/-- Moving the point to the right changes the value by the power of ten. -/
theorem value_of_shiftUp? {number moved : Decimal} {power : Nat}
    (shifted : number.shiftUp? power = some moved) :
    moved.value = number.value * 10 ^ power := by
  unfold shiftUp? at shifted
  split at shifted
  · next within =>
      cases shifted
      obtain ⟨rest, whole⟩ := Nat.exists_eq_add_of_le within
      rw [value, value, signed_mul, whole, Nat.add_sub_cancel_left, pow_add]
      congr 1
      field_simp
  split at shifted
  · cases shifted
  · next beyond _ =>
      obtain ⟨rest, rfl⟩ := Nat.exists_eq_add_of_le (not_le.mp beyond).le
      rw [value_of_ofParts? shifted, value, signed_mul, Nat.add_sub_cancel_left, pow_add]
      congr 1
      push_cast
      field_simp

/-- Moving the point to the left rounds what then has too many fractional digits. -/
theorem isRounded_shiftDown? {number moved : Decimal} {power : Nat}
    (shifted : number.shiftDown? power = some moved) :
    IsRounded moved.scale (number.value / 10 ^ power) moved.value ∧
      (number.scale + power ≤ maxScale → moved.value = number.value / 10 ^ power) := by
  have value_moved (fitting : Decimal) :
      ({ fitting with scale := fitting.scale + power } : Decimal).value =
        fitting.value / 10 ^ power := by
    rw [value, value, signed_div, div_div, ← pow_add]
  unfold shiftDown? at shifted
  split at shifted
  · cases shifted
  · next modest =>
      cases shifted
      by_cases fits : number.scale + power ≤ maxScale
      · rw [if_pos fits, value_moved]
        exact ⟨(isRounded_value le_rfl).shift power, fun _ => rfl⟩
      · rw [if_neg fits, value_moved]
        have reached : (number.rescale (maxScale - power)).scale = maxScale - power := by
          rw [scale_rescale_eq_iff (Nat.sub_le _ _), HasRoom,
            Nat.sub_eq_zero_of_le (by omega), pow_zero, mul_one]
          exact number.mantissa_lt
        rw [reached]
        exact ⟨(isRounded_rescale number _).shift power, fun few => absurd few fits⟩

/-- A power of ten moves the point of the number before it. -/
theorem exists_of_readScientific? {chars : List Char} {number : Decimal}
    (read : readScientific? chars = some number) :
    ∃ base, readPositional? (mantissaPart chars) = some base ∧
      IsRounded number.scale (base.value * 10 ^ powerOf chars) number.value ∧
      (base.scale - powerOf chars ≤ maxScale → number.value = base.value * 10 ^ powerOf chars) := by
  have whole : mantissaPart chars ++ chars.dropWhile (fun c => c != 'e' && c != 'E') = chars :=
    List.takeWhile_append_dropWhile
  have rest : (mantissaPart chars ++ chars.dropWhile fun c => c != 'e' && c != 'E').drop
      (mantissaPart chars).length = chars.dropWhile fun c => c != 'e' && c != 'E' :=
    List.drop_left
  rw [whole] at rest
  simp only [readScientific?] at read
  rw [← mantissaPart, rest] at read
  split at read
  · cases read
  · next letter exponent parts =>
      obtain ⟨base, digits, shifted⟩ := Option.bind_eq_some_iff.mp read
      obtain ⟨power, exponent_eq, moved⟩ := Option.bind_eq_some_iff.mp shifted
      have negative : powerOf chars = -(power : ℤ) := by
        rw [powerOf, powerPart, parts, ← ofDigits_of_unsigned? exponent_eq, List.tail_cons,
          digitsIn_cons_of_not rfl]
        simp
      obtain ⟨rounds, exact_⟩ := isRounded_shiftDown? moved
      refine ⟨base, digits, ?_⟩
      rw [negative, zpow_neg, zpow_natCast, ← div_eq_mul_inv]
      exact ⟨rounds, fun few => exact_ (by omega)⟩
  · next letter exponent noMinus parts =>
      obtain ⟨base, digits, shifted⟩ := Option.bind_eq_some_iff.mp read
      obtain ⟨power, exponent_eq, moved⟩ := Option.bind_eq_some_iff.mp shifted
      have positive : powerOf chars = power := by
        have unsigned : exponent.head? ≠ some '-' := by
          intro minus
          obtain ⟨rest, rfl⟩ := List.head?_eq_some_iff.mp minus
          exact noMinus _ rfl
        rw [powerOf, powerPart, parts, ← ofDigits_of_unsigned? exponent_eq, List.tail_cons,
          if_neg unsigned, one_mul]
      refine ⟨base, digits, ?_⟩
      rw [positive, zpow_natCast, ← value_of_shiftUp? moved]
      exact ⟨isRounded_value le_rfl, fun _ => rfl⟩

/-- A text is read as what it denotes up to rounding, and exactly so if its digits fit. -/
theorem isReading_of_ofText? {text : String} {number : Decimal}
    (read : ofText? text = some number) :
    IsReading text.toList number ∧
      (Fits text.toList → number.value = writtenValue text.toList) := by
  rcases Option.or_eq_some_iff.mp read with positional | ⟨-, scientific⟩
  · have plain := not_letter_of_readPositional? positional
    have whole : mantissaPart text.toList = text.toList := List.takeWhile_eq_self_iff.mpr plain
    have none_ : powerOf text.toList = 0 := by
      rw [powerOf, powerPart, List.dropWhile_eq_nil_iff.mpr plain]
      rfl
    have unmoved : number.value * 10 ^ powerOf text.toList = number.value := by
      rw [none_, zpow_zero, mul_one]
    refine ⟨⟨number, ?_, ?_⟩, fun fits => ?_⟩
    · rw [whole]
      exact isRounded_readPositional? positional
    · rw [unmoved]
      exact isRounded_value le_rfl
    · have digits := fits.mantissa
      have fraction := fits.fraction
      rw [whole] at digits fraction
      rw [writtenValue, whole, ← (value_of_readPositional? positional digits fraction).1, unmoved]
  · obtain ⟨base, digits, rounds, exact_⟩ := exists_of_readScientific? scientific
    refine ⟨⟨base, isRounded_readPositional? digits, rounds⟩, fun fits => ?_⟩
    obtain ⟨same, scale⟩ := value_of_readPositional? digits fits.mantissa fits.fraction
    rw [exact_ (scale ▸ fits.moved), writtenValue, same]

end FlatMessage.Decimal
