import FlatMessage.Proofs.Rendering.Digits
import FlatMessage.Proofs.Rendering.Faults
import FlatMessage.Proofs.Trimming

/-!
# Integers read back

An integer is written as its literal with a minus sign where it is negative, and with as
many zeros after the sign as the width asks for.  What is written is read as the integer
again, and rendered as a text it stays as it is.  A text is refused unless it is a literal
of a 64-bit integer between blank characters.
-/

namespace FlatMessage

namespace Text

/-- The digits of a number are a numeral, also with zeros before them. -/
theorem isNumeral_padding (zeros number : Nat) :
    IsNumeral (List.replicate zeros '0' ++ naturalDigits number) := by
  refine ⟨?_, fun c member => ?_⟩
  · simp [naturalDigits_ne_nil]
  · rcases List.mem_append.mp member with zero | digit
    · exact isDigit_of_mem_replicate_zero zero
    · exact isDigit_of_mem_naturalDigits digit

/-- The characters of an integer, with zeros between the sign and the digits. -/
def paddedInteger (zeros : Nat) (number : Int) : List Char :=
  (if number < 0 then ['-'] else []) ++ List.replicate zeros '0' ++ naturalDigits number.natAbs

theorem toList_integer (number : Int) : (integer number).toList = paddedInteger 0 number := by
  rw [integer, String.toList_ofList, paddedInteger]
  split <;> rfl

theorem length_paddedInteger (zeros : Nat) (number : Int) :
    (paddedInteger zeros number).length = zeros + (integer number).toList.length := by
  rw [toList_integer, paddedInteger, paddedInteger]
  simp only [List.length_append, List.length_replicate]
  omega

/-- An integer with zeros between the sign and the digits is its literal. -/
theorem isLiteral_paddedInteger (zeros : Nat) (number : Int) :
    IsLiteral (paddedInteger zeros number) number := by
  have numeral := isNumeral_padding zeros number.natAbs
  have value : ofDigits (List.replicate zeros '0' ++ naturalDigits number.natAbs) =
      number.natAbs := by
    simp [ofDigits_append]
  rw [paddedInteger, List.append_assoc]
  split
  · next negative =>
      have literal := IsLiteral.minus numeral
      rw [value] at literal
      rwa [show number = -(number.natAbs : Int) by omega, Int.natAbs_neg, Int.natAbs_natCast]
  · next positive =>
      have literal := IsLiteral.unsigned numeral
      rw [value] at literal
      rwa [show number = (number.natAbs : Int) by omega, Int.natAbs_natCast]

theorem not_isBlank_of_isDigit {c : Char} (digit : isDigit c = true) : isBlank c = false := by
  simp only [isDigit, Bool.and_eq_true, decide_eq_true_eq, Char.le_def,
    UInt32.le_iff_toNat_le] at digit
  have low : 48 ≤ c.toNat := digit.1
  have high : c.toNat ≤ 57 := digit.2
  simp only [isBlank, blankRanges, List.any_cons, List.any_nil, Bool.or_eq_false_iff,
    Bool.and_eq_false_iff, decide_eq_false_iff_not, Nat.not_le, and_true]
  omega

/-- No character of a literal is blank. -/
theorem IsLiteral.not_isBlank {chars : List Char} {number : Int}
    (literal : IsLiteral chars number) : ∀ c ∈ chars, isBlank c = false := by
  cases literal with
  | unsigned numeral => exact fun c member => not_isBlank_of_isDigit (numeral.2 c member)
  | plus numeral =>
      rw [List.forall_mem_cons]
      exact ⟨by decide, fun c member => not_isBlank_of_isDigit (numeral.2 c member)⟩
  | minus numeral =>
      rw [List.forall_mem_cons]
      exact ⟨by decide, fun c member => not_isBlank_of_isDigit (numeral.2 c member)⟩

end Text

namespace Encoder

/-- An integer is filled with zeros up to the width. -/
theorem integerText_of_modest {width : Option Nat} (modest : ∀ wide ∈ width, wide ≤ 65535)
    (number : Int64) :
    ∃ zeros text, integerText width number = .ok text ∧
      text.toList = Text.paddedInteger zeros number.toInt ∧
      text.toList.length = max (width.getD 0) (Text.integer number.toInt).toList.length := by
  cases width with
  | none =>
      refine ⟨0, _, rfl, Text.toList_integer _, ?_⟩
      simp
  | some wide =>
      have fits : wide ≤ 65535 := modest wide rfl
      have shape : (Calendar.paddedNumber .zero wide false number.toInt) =
          Text.paddedInteger (wide - (Text.integer number.toInt).toList.length) number.toInt := by
        rw [Text.toList_integer]
        unfold Calendar.paddedNumber Text.paddedInteger
        split <;> simp [List.leftpad]
        omega
      refine ⟨wide - (Text.integer number.toInt).toList.length, _, if_pos fits, ?_, ?_⟩
      · rw [String.toList_ofList, shape]
      · rw [String.toList_ofList, shape, Text.length_paddedInteger, Option.getD_some]
        omega

/-- The delimiter table has no part in integers. -/
theorem encode_integer (width : Option Nat) (table : Delimiter.Table) (scalar : Scalar) :
    (integer width).encode table (.scalar scalar) = (integer width).text scalar := by
  unfold encode renderValue render
  cases rendered : (integer width).text scalar <;> simp [rendered, Except.map, Rendered.text]

/-- A literal between blank characters is written as the integer is. -/
theorem text_of_isLiteral {width : Option Nat} {content : String} {number : Int64}
    (literal : Text.IsLiteral (Text.trimChars content.toList) number.toInt) :
    (integer width).text (.text content) = integerText width number := by
  rw [← Text.toList_trim, ← Text.signed64?_eq_some_iff] at literal
  rw [text_integer, integerOf?, literal]

/-- Any other text is refused. -/
theorem text_eq_mismatch_iff {width : Option Nat} (modest : ∀ wide ∈ width, wide ≤ 65535)
    {content : String} :
    (integer width).text (.text content) = .error (.mismatch .integer .text) ↔
      ¬ ∃ number : Int64, Text.IsLiteral (Text.trimChars content.toList) number.toInt := by
  constructor
  · rintro refused ⟨number, literal⟩
    obtain ⟨zeros, text, written, -⟩ := integerText_of_modest modest number
    rw [text_of_isLiteral literal, written] at refused
    cases refused
  · intro other
    rw [text_integer, integerOf?]
    cases read : Text.signed64? (Text.trim content) with
    | none => rfl
    | some number =>
        rw [Text.signed64?_eq_some_iff, Text.toList_trim] at read
        exact absurd ⟨number, read⟩ other

/-- The integers of 64 bits are those in their range. -/
theorem exists_toInt_iff {holds : Int → Prop} :
    (∃ number : Int64, holds number.toInt) ↔
      ∃ value, holds value ∧ -2 ^ 63 ≤ value ∧ value < 2 ^ 63 := by
  constructor
  · rintro ⟨number, held⟩
    exact ⟨_, held, number.le_toInt, number.toInt_lt⟩
  · rintro ⟨value, held, low, high⟩
    refine ⟨Int64.ofInt value, ?_⟩
    rwa [Int64.toInt_ofInt_of_le low high]

/-- What an integer encoder writes, with any width up to 65535.  An integer is written as a
minus sign, if it is negative, and digits, with zeros before them up to the width.  This is
a literal of the integer, it is read back as the integer, and as a text it is written
unchanged.  A text is refused exactly when it is no literal of an integer of 64 bits between
blank characters. -/
theorem integers_read_back {width : Option Nat} (modest : ∀ wide ∈ width, wide ≤ 65535)
    (table : Delimiter.Table) :
    (∀ number : Int64, ∃ zeros text,
      (integer width).encode table (.scalar (.integer number)) = .ok text ∧
      text.toList = (if number.toInt < 0 then ['-'] else []) ++ List.replicate zeros '0' ++
        Text.naturalDigits number.toInt.natAbs ∧
      Text.IsNumeral (List.replicate zeros '0' ++ Text.naturalDigits number.toInt.natAbs) ∧
      text.toList.length = max (width.getD 0) (Text.integer number.toInt).toList.length ∧
      Text.IsLiteral text.toList number.toInt ∧
      Text.signed64? text = some number ∧
      (integer width).encode table (.scalar (.text text)) = .ok text) ∧
    ∀ content : String,
      ((integer width).encode table (.scalar (.text content)) =
          .error (.mismatch .integer .text) ↔
        ¬ ∃ value, Text.IsLiteral (Text.trimChars content.toList) value ∧
          -2 ^ 63 ≤ value ∧ value < 2 ^ 63) ∧
      ∀ number : Int64, Text.IsLiteral (Text.trimChars content.toList) number.toInt →
        (integer width).encode table (.scalar (.text content)) =
          (integer width).encode table (.scalar (.integer number)) := by
  simp only [encode_integer]
  constructor
  · intro number
    obtain ⟨zeros, text, written, chars, length⟩ := integerText_of_modest modest number
    have literal : Text.IsLiteral text.toList number.toInt :=
      chars ▸ Text.isLiteral_paddedInteger zeros number.toInt
    have trimmed : Text.trimChars text.toList = text.toList :=
      Text.trimChars_of_isTrimmed (Text.isTrimmed_of_forall literal.not_isBlank)
    refine ⟨zeros, text, written, chars, Text.isNumeral_padding _ _, length, literal,
      Text.signed64?_eq_some_iff.mpr literal, ?_⟩
    rw [text_of_isLiteral (trimmed.symm ▸ literal), written]
  · intro content
    rw [text_eq_mismatch_iff modest, exists_toInt_iff]
    exact ⟨Iff.rfl, fun number literal => text_of_isLiteral literal⟩

/-- Under a width of eight minus five is filled up after its sign and stays so as a text,
and the first number past the range is no literal that could be read. -/
theorem integers_of_width_eight_read_back :
    (∀ wide ∈ some 8, wide ≤ 65535) ∧
      (integer (some 8)).encode .edifact (.scalar (.integer (-5))) = .ok "-0000005" ∧
      Text.signed64? "-0000005" = some (-5) ∧
      (integer (some 8)).encode .edifact (.scalar (.text "-0000005")) = .ok "-0000005" ∧
      ¬ ∃ value, Text.IsLiteral (Text.trimChars " 9223372036854775808 ".toList) value ∧
        -2 ^ 63 ≤ value ∧ value < 2 ^ 63 := by
  have modest : ∀ wide ∈ some 8, wide ≤ 65535 := by simp
  have answers := integers_read_back modest .edifact
  have written : (integer (some 8)).encode .edifact (.scalar (.integer (-5))) =
      .ok "-0000005" := by decide
  have refused : (integer (some 8)).encode .edifact (.scalar (.text " 9223372036854775808 ")) =
      .error (.mismatch .integer .text) := by decide
  obtain ⟨zeros, text, same, -, -, -, -, back, again⟩ := answers.1 (-5)
  obtain rfl : "-0000005" = text := Except.ok.inj (written.symm.trans same)
  exact ⟨modest, written, back, again, (answers.2 _).1.mp refused⟩

end Encoder

end FlatMessage
