import FlatMessage.Proofs.Rendering.DecimalReading
import FlatMessage.Proofs.Rendering.Faults
import FlatMessage.Proofs.Trimming

/-!
# Decimal numbers under a scale

A decimal number is written in positional notation: a sign, digits, and fractional digits
after a point, which gives way to the separator of a delimiter table.  Whatever separator
has no digit, this is read in one way.

Under a scale an encoder writes the number that it takes, rounded half away from zero.  It
takes decimal numbers and integers as they are, and texts as they are if their digits fit.
The number has as many fractional digits as the scale says exactly when its mantissa has
room for them.
-/

namespace FlatMessage

namespace Text

/-- A number in positional notation. -/
structure Positional where
  negative : Bool
  whole : List Char
  fraction : List Char
  whole_numeral : IsNumeral whole
  fraction_digits : ∀ c ∈ fraction, isDigit c = true

namespace Positional

/-- The fractional digits with the separator before them, if there are any. -/
def tail (separator : List Char) (number : Positional) : List Char :=
  if number.fraction = [] then [] else separator ++ number.fraction

/-- The characters of a number with fractional digits after a separator. -/
def chars (separator : List Char) (number : Positional) : List Char :=
  (if number.negative then ['-'] else []) ++ (number.whole ++ number.tail separator)

/-- What a positional notation denotes. -/
def value (number : Positional) : ℚ :=
  signed number.negative
    (ofDigits (number.whole ++ number.fraction) / 10 ^ number.fraction.length)

/-- The digits before the separator are those that come first. -/
theorem takeWhile_isDigit {separator : List Char} (plain : ∀ c ∈ separator, isDigit c = false)
    (some_ : separator ≠ []) (number : Positional) :
    (number.whole ++ number.tail separator).takeWhile isDigit = number.whole := by
  rw [List.takeWhile_append_of_pos number.whole_numeral.2, tail]
  split
  · simp
  · obtain ⟨first, rest, rfl⟩ := List.exists_cons_of_ne_nil some_
    simp [plain first List.mem_cons_self]

theorem fraction_inj {separator : List Char} (some_ : separator ≠ []) {first second : Positional}
    (same : first.tail separator = second.tail separator) : first.fraction = second.fraction := by
  unfold tail at same
  split at same <;> split at same
  · simp [*]
  · exact absurd same.symm (by simp [some_])
  · exact absurd same (by simp [some_])
  · exact List.append_cancel_left same

/-- Positional notation is read in one way. -/
theorem chars_injective {separator : List Char} (plain : ∀ c ∈ separator, isDigit c = false)
    (some_ : separator ≠ []) : Function.Injective (chars separator) := by
  have unsigned (number : Positional) (rest : List Char) :
      '-' :: rest ≠ number.whole ++ number.tail separator := by
    obtain ⟨c, digits, whole⟩ := List.exists_cons_of_ne_nil number.whole_numeral.1
    rw [whole, List.cons_append]
    intro same
    exact ((whole ▸ number.whole_numeral).head_ne).1 (List.cons.inj same).1.symm
  intro first second same
  have sign : first.negative = second.negative ∧
      first.whole ++ first.tail separator = second.whole ++ second.tail separator := by
    unfold chars at same
    cases negative : first.negative <;> cases other : second.negative <;>
      simp only [negative, other, if_true, Bool.false_eq_true, if_false, List.nil_append,
        List.singleton_append] at same
    · exact ⟨rfl, same⟩
    · exact absurd same.symm (unsigned first _)
    · exact absurd same (unsigned second _)
    · exact ⟨rfl, (List.cons.inj same).2⟩
  have whole : first.whole = second.whole := by
    rw [← takeWhile_isDigit plain some_ first, sign.2, takeWhile_isDigit plain some_]
  have fraction : first.fraction = second.fraction := by
    rw [whole] at sign
    exact fraction_inj some_ (List.append_cancel_left sign.2)
  cases first
  cases second
  obtain rfl := sign.1
  obtain rfl := whole
  obtain rfl := fraction
  rfl

/-! ## Separators -/

theorem substitute_point_of_isDigit (separator : String) {digits : List Char}
    (all : ∀ c ∈ digits, isDigit c = true) :
    (digits.flatMap fun c => if c = '.' then separator.toList else [c]) = digits := by
  induction digits with
  | nil => rfl
  | cons c rest ih =>
      rw [List.forall_mem_cons] at all
      have other : c ≠ '.' := by
        rintro rfl
        exact absurd all.1 (by decide)
      rw [List.flatMap_cons, if_neg other, ih all.2, List.singleton_append]

/-- The point gives way to the separator. -/
theorem substitute_point (separator : String) (number : Positional) :
    substitute '.' separator (String.ofList (number.chars ['.'])) =
      String.ofList (number.chars separator.toList) := by
  have sign : ((if number.negative then ['-'] else []).flatMap fun c =>
      if c = '.' then separator.toList else [c]) = if number.negative then ['-'] else [] := by
    cases number.negative <;> rfl
  have tail : ((number.tail ['.']).flatMap fun c =>
      if c = '.' then separator.toList else [c]) = number.tail separator.toList := by
    unfold tail
    split
    · rfl
    · rw [List.flatMap_append, substitute_point_of_isDigit _ number.fraction_digits]
      simp
  rw [substitute, String.toList_ofList, chars, List.flatMap_append, List.flatMap_append, sign,
    tail, substitute_point_of_isDigit _ number.whole_numeral.2]
  rfl

end Positional

end Text

namespace Decimal

open Text (isDigit ofDigits)

/-! ## Decimal numbers -/

theorem isDigit_of_mem_digits {number : Decimal} : ∀ c ∈ number.digits, isDigit c = true := by
  refine Text.isDigit_of_mem_leftpad fun c member => ?_
  split at member
  · cases member
  · exact Text.isDigit_of_mem_naturalDigits member

theorem ofDigits_digits (number : Decimal) : ofDigits number.digits = number.mantissa := by
  rw [digits, Text.ofDigits_leftpad]
  split
  · next nothing => exact nothing.symm
  · exact Text.ofDigits_naturalDigits _

/-- A zero stands before the point where no digit of the mantissa does. -/
theorem ofDigits_wholeDigits_append (number : Decimal) :
    ofDigits (number.wholeDigits ++ number.fractionDigits) = number.mantissa := by
  have whole := List.take_append_drop (number.digits.length - number.scale) number.digits
  rw [← ofDigits_digits, wholeDigits, fractionDigits]
  split
  · next none_ =>
      rw [none_, List.nil_append] at whole
      rw [whole, Text.ofDigits_append]
      simp [ofDigits, Text.digitValue]
  · rw [whole]

theorem isNumeral_wholeDigits (number : Decimal) : Text.IsNumeral number.wholeDigits := by
  rw [wholeDigits]
  split
  · exact ⟨by decide, List.forall_mem_singleton.mpr rfl⟩
  · next some_ =>
      exact ⟨some_, fun c member => isDigit_of_mem_digits c (List.mem_of_mem_take member)⟩

/-- A decimal number in positional notation. -/
def positional (number : Decimal) : Text.Positional where
  negative := number.negative
  whole := number.wholeDigits
  fraction := number.fractionDigits
  whole_numeral := number.isNumeral_wholeDigits
  fraction_digits c member := isDigit_of_mem_digits c (List.mem_of_mem_drop member)

/-- A number is written in positional notation with a point. -/
theorem chars_positional (number : Decimal) : number.positional.chars ['.'] = number.chars := by
  have none_ : number.positional.fraction = [] ↔ number.scale = 0 := by
    rw [← number.length_fractionDigits, List.length_eq_zero_iff, positional]
  rw [Text.Positional.chars, Text.Positional.tail, chars, unsignedChars]
  by_cases nothing : number.scale = 0
  · rw [if_pos (none_.mpr nothing), if_pos nothing]
    rfl
  · rw [if_neg (mt none_.mp nothing), if_neg nothing]
    rfl

/-- What is written denotes the number. -/
theorem value_positional (number : Decimal) : number.positional.value = number.value := by
  rw [Text.Positional.value, value]
  simp only [positional, ofDigits_wholeDigits_append, length_fractionDigits]

end Decimal

/-- The characters that stand for the point under a delimiter table. -/
def Delimiter.Table.point (table : Delimiter.Table) : List Char :=
  if table.decimalSeparator = "" then ['.'] else table.decimalSeparator.toList

/-- A numeral has the separator of the delimiter table. -/
theorem Rendered.text_numeral (table : Delimiter.Table) (number : Decimal) :
    (Rendered.numeral number.text).text table =
      String.ofList (number.positional.chars table.point) := by
  rw [Rendered.text, Decimal.text, ← Decimal.chars_positional, Delimiter.Table.point]
  split
  · rfl
  · rw [Text.Positional.substitute_point]

theorem Delimiter.Table.point_ne_nil (table : Delimiter.Table) : table.point ≠ [] := by
  rw [point]
  split
  · simp
  · next some_ => simpa using some_

/-! ## Under a scale -/

/-- What a scalar denotes to a decimal encoder. -/
inductive Scalar.Denotes : Scalar → ℚ → Prop
  | decimal (number : Decimal) : Denotes (.decimal number) number.value
  | integer (number : Int64) : Denotes (.integer number) number.toInt
  | text (content : String) :
      Denotes (.text content) (Decimal.writtenValue (Text.trimChars content.toList))

/-- The digits of a text fit. -/
def Scalar.Fits : Scalar → Prop
  | .text content => Decimal.Fits (Text.trimChars content.toList)
  | _ => True

namespace Encoder

/-- What fits is taken as it is. -/
theorem value_of_decimalOf? {scalar : Scalar} {number : Decimal} {exact : ℚ}
    (taken : decimalOf? scalar = some number) (denotes : scalar.Denotes exact)
    (fits : scalar.Fits) : number.value = exact := by
  cases denotes with
  | decimal => cases taken; rfl
  | integer => cases taken; exact Decimal.value_ofInt64 _
  | text content =>
      have read := (Decimal.isReading_of_ofText? taken).2
      rw [Text.toList_trim] at read
      exact read fits

/-- Under a modest scale every number is written. -/
theorem encode_decimal {scale : Nat} (few : scale ≤ Decimal.maxScale) (table : Delimiter.Table)
    {scalar : Scalar} {number : Decimal} (taken : decimalOf? scalar = some number) :
    (decimal (some scale)).encode table (.scalar scalar) =
      .ok (String.ofList ((number.rescale scale).positional.chars table.point)) := by
  have short : (number.rescale scale).unsignedChars.length ≤ 32 := by
    rw [Decimal.length_unsignedChars_le_iff]
    exact ((number.scale_rescale_le scale).trans few).trans (by decide)
  have written : (decimal (some scale)).text scalar = .ok (number.rescale scale).text := by
    rw [text_decimal, taken]
    exact if_pos short
  rw [encode, renderValue, render, written, ← Rendered.text_numeral]
  rfl

/-- What a decimal encoder writes under a scale of at most 28, for any separator without a
digit.  What it takes it writes in positional notation, which can be read in no other way.
There are as many fractional digits as the scale says exactly if the mantissa has room for
them.  The number that is written is the one that was taken, rounded half away from zero; it
was taken as it is, and a text up to rounding.  So it is what the value denotes, rounded
once, if its digits fit. -/
theorem decimals_rounded_to_scale {scale : Nat} (few : scale ≤ Decimal.maxScale)
    {table : Delimiter.Table}
    (plain : ∀ c ∈ table.decimalSeparator.toList, Text.isDigit c = false) (scalar : Scalar) :
    (decimalOf? scalar = none →
      (decimal (some scale)).encode table (.scalar scalar) =
        .error (.mismatch .decimal scalar.kind)) ∧
    ∀ number, decimalOf? scalar = some number → ∃ written : Text.Positional,
      (decimal (some scale)).encode table (.scalar scalar) =
        .ok (String.ofList (written.chars table.point)) ∧
      (∀ other : Text.Positional,
        other.chars table.point = written.chars table.point → other = written) ∧
      (written.fraction.length = scale ↔ number.HasRoom scale) ∧
      IsRounded scale number.value written.value ∧
      (∀ content, scalar = .text content →
        Decimal.IsReading (Text.trimChars content.toList) number) ∧
      ∀ exact, scalar.Denotes exact → scalar.Fits → IsRounded scale exact written.value := by
  constructor
  · intro none_
    rw [encode_scalar_eq_error_iff, text_decimal, none_]
  · intro number taken
    have point_plain : ∀ c ∈ table.point, Text.isDigit c = false := by
      rw [Delimiter.Table.point]
      split
      · exact List.forall_mem_singleton.mpr rfl
      · exact plain
    have rounds := number.isRounded_rescale scale
    rw [← Decimal.value_positional (number.rescale scale)] at rounds
    refine ⟨(number.rescale scale).positional, encode_decimal few table taken,
      fun other same => Text.Positional.chars_injective point_plain table.point_ne_nil same,
      ?_, rounds, ?_, fun exact denotes fits => ?_⟩
    · rw [← Decimal.scale_rescale_eq_iff few, ← Decimal.length_fractionDigits,
        Decimal.positional]
    · rintro content rfl
      have read := (Decimal.isReading_of_ofText? taken).1
      rwa [Text.toList_trim] at read
    · rwa [← value_of_decimalOf? taken denotes fits]

/-- Under a scale of two and with a comma, a half of the last digit is rounded away from
zero. -/
theorem decimals_rounded_to_two_digits :
    2 ≤ Decimal.maxScale ∧
      (∀ c ∈ { Delimiter.Table.edifact with decimalSeparator := "," }.decimalSeparator.toList,
        Text.isDigit c = false) ∧
      ∃ written : Text.Positional,
        (decimal (some 2)).encode { Delimiter.Table.edifact with decimalSeparator := "," }
          (.scalar (.text " -0.125")) = .ok "-0,13" ∧
        "-0,13" = String.ofList (written.chars [',']) ∧ written.fraction.length = 2 ∧
        IsRounded 2 (-1 / 8) written.value := by
  have few : 2 ≤ Decimal.maxScale := by decide
  have plain : ∀ c ∈
      { Delimiter.Table.edifact with decimalSeparator := "," }.decimalSeparator.toList,
      Text.isDigit c = false := List.forall_mem_singleton.mpr rfl
  have encoded : (decimal (some 2)).encode
      { Delimiter.Table.edifact with decimalSeparator := "," } (.scalar (.text " -0.125")) =
        .ok "-0,13" := by decide
  have denotes : Scalar.Denotes (.text " -0.125") (-1 / 8) := by
    have written : Decimal.writtenValue (Text.trimChars " -0.125".toList) = -1 / 8 := by
      have mantissa : Decimal.mantissaPart (Text.trimChars " -0.125".toList) =
          "-0.125".toList := by decide
      have power : Decimal.powerOf (Text.trimChars " -0.125".toList) = 0 := by decide
      have sign : ("-0.125".toList.head? == some '-') = true := by decide
      have digits : Text.ofDigits (Decimal.digitsIn "-0.125".toList) = 125 := by decide
      have fraction : (Decimal.fractionIn "-0.125".toList).length = 3 := by decide
      rw [Decimal.writtenValue, power, mantissa, Decimal.positionalValue, sign, digits, fraction]
      norm_num [signed]
    exact written ▸ .text _
  have fits : Scalar.Fits (.text " -0.125") := ⟨by decide, by decide, by decide⟩
  obtain ⟨written, same, -, room, -, -, rounds⟩ :=
    (decimals_rounded_to_scale few plain (.text " -0.125")).2 ⟨true, 125, 3, by decide⟩ (by decide)
  refine ⟨few, plain, written, encoded, Except.ok.inj (encoded.symm.trans same),
    room.mpr (by decide), rounds _ denotes fits⟩

/-- The number with the greatest mantissa. -/
def greatest : Decimal :=
  ⟨false, 79228162514264337593543950335, 0, by decide⟩

/-- Less than half of a hundredth, with more digits than fit. -/
def belowHalf : String :=
  "0.00499999999999999999999999999999"

theorem writtenValue_belowHalf :
    Decimal.writtenValue (Text.trimChars belowHalf.toList) =
      499999999999999999999999999999 / 10 ^ 32 := by
  have mantissa : Decimal.mantissaPart (Text.trimChars belowHalf.toList) = belowHalf.toList := by
    decide
  have power : Decimal.powerOf (Text.trimChars belowHalf.toList) = 0 := by decide
  have sign : (belowHalf.toList.head? == some '-') = false := by decide
  have digits : Text.ofDigits (Decimal.digitsIn belowHalf.toList) =
      499999999999999999999999999999 := by decide
  have fraction : (Decimal.fractionIn belowHalf.toList).length = 32 := by decide
  rw [Decimal.writtenValue, power, mantissa, Decimal.positionalValue, sign, digits, fraction]
  norm_num [signed]

/-- The greatest mantissa has no room for a fractional digit, and a text with too many
digits is rounded twice. -/
theorem decimals_not_always_rounded_to_scale :
    (¬ ∀ scale ≤ Decimal.maxScale, ∀ scalar text,
      (decimal (some scale)).encode .edifact (.scalar scalar) = .ok text →
        ∃ written : Text.Positional,
          text = String.ofList (written.chars ['.']) ∧ written.fraction.length = scale) ∧
    ¬ ∀ scale ≤ Decimal.maxScale, ∀ scalar exact text, Scalar.Denotes scalar exact →
      (decimal (some scale)).encode .edifact (.scalar scalar) = .ok text →
        ∃ written : Text.Positional,
          text = String.ofList (written.chars ['.']) ∧ IsRounded scale exact written.value := by
  constructor
  · intro always
    have encoded : (decimal (some 1)).encode .edifact
        (.scalar (.decimal greatest)) = .ok "79228162514264337593543950335" := by decide
    obtain ⟨written, chars, one⟩ := always 1 (by decide) _ _ encoded
    have point : '.' ∈ "79228162514264337593543950335".toList := by
      rw [chars, String.toList_ofList, Text.Positional.chars, Text.Positional.tail,
        if_neg (List.ne_nil_of_length_eq_add_one one)]
      simp
    exact absurd point (by decide)
  · intro always
    have encoded : (decimal (some 2)).encode .edifact (.scalar (.text belowHalf)) =
        .ok "0.01" := by decide
    obtain ⟨written, chars, rounds⟩ := always 2 (by decide) _ _ _ (.text _) encoded
    have fraction : Text.IsNumeral ['0', '1'] := by decide
    have hundredth : written = ⟨false, ['0'], ['0', '1'], by decide, fraction.2⟩ := by
      have point : ∀ c ∈ ['.'], Text.isDigit c = false := List.forall_mem_singleton.mpr rfl
      refine Text.Positional.chars_injective point (List.cons_ne_nil _ _) ?_
      rw [← @String.toList_ofList (written.chars ['.']), ← chars]
      rfl
    have one : Text.ofDigits ['0', '0', '1'] = 1 := by decide
    have value : written.value = 1 / 100 := by
      rw [hundredth, Text.Positional.value]
      norm_num [signed, one]
    have nearest := rounds.nearest 0
    rw [writtenValue_belowHalf, value] at nearest
    norm_num [abs_of_nonneg] at nearest

end Encoder

end FlatMessage
