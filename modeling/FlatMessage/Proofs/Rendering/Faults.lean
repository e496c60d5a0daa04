import FlatMessage.Encoder
import FlatMessage.Proofs.Rendering.Numerals

/-!
# Encoders without a text for a suitable value

An encoder is accepted by its options alone, and meets its values later.  It answers a
value with a text or refuses its kind, unless it was asked for too much: an integer
width that no text has, more fractional digits than a numeral can hold, or a field of
the time of day or of the time zone that a value lacks.

Exactly the values are determined for which an encoder has neither a text nor a
mismatch, and exactly the options, accepted as they are, for which there is such a value.
-/

namespace FlatMessage

namespace Calendar

/-- Whether a field is one of the time of day. -/
def Field.needsTime : Field → Bool
  | .hour | .hour12 | .minute | .second | .nanosecond | .timestamp => true
  | _ => false

/-- Whether a part of a pattern needs the time of day. -/
def Item.needsTime : Item → Bool
  | .number field _ => field.needsTime
  | .lowerHalf | .upperHalf | .fraction | .fractionDigits .. => true
  | _ => false

/-- A field is missing when it is one of the time of day and there is none. -/
theorem field?_eq_none_iff {date : Date} {time : Option Time} {padding : Padding}
    {field : Field} :
    field? date time padding field = none ↔ field.needsTime = true ∧ time = none := by
  cases time <;> cases field <;> simp [field?, dateField?, timeField?, Field.needsTime]

/-- A part of a pattern has no text when it is the time zone, or when it needs a time of
day that is not there. -/
theorem Item.chars?_eq_none_iff {date : Date} {time : Option Time} {item : Item} :
    item.chars? date time = none ↔ item = .zone ∨ item.needsTime = true ∧ time = none := by
  cases item <;> simp [Item.chars?, Item.needsTime, field?_eq_none_iff]

namespace Pattern

/-- What a pattern asks for is missing. -/
def Misses (pattern : Pattern) (time : Option Time) : Prop :=
  .zone ∈ pattern ∨ time = none ∧ ∃ item ∈ pattern, item.needsTime = true

theorem write?_eq_none_iff {pattern : Pattern} (date : Date) {time : Option Time} :
    pattern.write? date time = none ↔ pattern.Misses time := by
  have missing :
      pattern.mapM (Item.chars? date time) = none ↔
        ∃ item ∈ pattern, item.chars? date time = none := by
    induction pattern with
    | nil => simp
    | cons item rest ih =>
        cases first : item.chars? date time with
        | none => simp [first]
        | some chars =>
            rw [List.mapM_cons]
            cases others : rest.mapM (Item.chars? date time) <;>
              simp [first, others, ← ih]
  rw [write?, Option.map_eq_none_iff, missing, Misses]
  simp only [Item.chars?_eq_none_iff]
  grind

/-- Without a time of day everything is missing that any value misses. -/
theorem Misses.misses_none {pattern : Pattern} {time : Option Time}
    (misses : pattern.Misses time) : pattern.Misses none := by
  rcases misses with zone | ⟨-, needs⟩
  · exact .inl zone
  · exact .inr ⟨rfl, needs⟩

end Pattern

end Calendar

/-- The decimal number of a scalar has at most `maxScale` fractional digits, which holds
of every number that can be read or calculated. -/
def Scalar.WithinScale : Scalar → Prop
  | .decimal number => number.scale ≤ Decimal.maxScale
  | _ => True

/-- The decimal number of a value has at most `maxScale` fractional digits. -/
def Value.WithinScale : Value → Prop
  | .scalar content => content.WithinScale
  | _ => True

namespace Encoder

/-! ## Values without a text -/

/-- The integer that an integer encoder takes from a scalar. -/
def integerOf? : Scalar → Option Int64
  | .integer number => some number
  | .text content => Text.signed64? (Text.trim content)
  | _ => none

/-- The number that a decimal encoder takes from a scalar. -/
def decimalOf? : Scalar → Option Decimal
  | .decimal number => some number
  | .integer number => some (Decimal.ofInt64 number)
  | .text content => Decimal.ofText? (Text.trim content)
  | _ => none

/-- Every number that a decimal encoder takes has at most `maxScale` fractional digits. -/
theorem scale_of_decimalOf? {scalar : Scalar} {number : Decimal}
    (within : scalar.WithinScale) (taken : decimalOf? scalar = some number) :
    number.scale ≤ Decimal.maxScale := by
  cases scalar <;> simp only [decimalOf?, Option.some.injEq, reduceCtorEq] at taken
  case text => exact Decimal.scale_of_ofText? taken
  case integer =>
    subst taken
    simp
  case decimal =>
    subst taken
    exact within

/-- An encoder has neither a text for a suitable scalar nor a mismatch. -/
inductive FaultsOn : Encoder → Scalar → Fault → Prop
  /-- The integer is to be brought to a width beyond 65535. -/
  | width {scalar : Scalar} {number : Int64} {width : Nat}
      (taken : integerOf? scalar = some number) (great : 65535 < width) :
      FaultsOn (.integer (some width)) scalar .widthTooGreat
  /-- More than 30 fractional digits are asked for, and the mantissa has room for them. -/
  | scale {scalar : Scalar} {number : Decimal} {scale : Nat}
      (taken : decimalOf? scalar = some number) (many : 30 < scale)
      (something : number.mantissa ≠ 0)
      (room : number.mantissa * 10 ^ (31 - number.scale) < Decimal.mantissaLimit) :
      FaultsOn (.decimal (some scale)) scalar .numeralTooLong
  | date {pattern : Calendar.Pattern} {day : Calendar.Date} (misses : pattern.Misses none) :
      FaultsOn (.date pattern) (.date day) .fieldMissing
  | dateTime {pattern : Calendar.Pattern} {moment : Calendar.DateTime}
      (misses : pattern.Misses (some moment.time)) :
      FaultsOn (.date pattern) (.dateTime moment) .fieldMissing

theorem integerText_eq_fault_iff {width : Option Nat} {number : Int64} {fault : Fault} :
    integerText width number = .error (.fault fault) ↔
      ∃ wide, width = some wide ∧ 65535 < wide ∧ fault = .widthTooGreat := by
  unfold integerText
  grind

theorem decimalText_eq_fault_iff {scale : Option Nat} {number : Decimal} {fault : Fault}
    (few : number.scale ≤ Decimal.maxScale) :
    decimalText scale number = .error (.fault fault) ↔
      ∃ asked, scale = some asked ∧ fault = .numeralTooLong ∧ 30 < asked ∧
        number.mantissa ≠ 0 ∧
          number.mantissa * 10 ^ (31 - number.scale) < Decimal.mantissaLimit := by
  have within : number.scale ≤ 30 := Nat.le_trans few (by decide)
  cases scale with
  | none => simp [decimalText, Decimal.length_unsignedChars_le_iff, within]
  | some asked =>
      have long := Decimal.lt_scale_rescale_iff asked within (by decide)
      simp only [decimalText, Option.elim_some, Decimal.length_unsignedChars_le_iff]
      grind

theorem dateText_eq_fault_iff {pattern : Calendar.Pattern} {date : Calendar.Date}
    {time : Option Calendar.Time} {fault : Fault} :
    dateText pattern date time = .error (.fault fault) ↔
      pattern.Misses time ∧ fault = .fieldMissing := by
  rw [← Calendar.Pattern.write?_eq_none_iff date]
  unfold dateText
  cases pattern.write? date time <;> simp [eq_comm]

/-- An integer encoder writes the integer it takes. -/
theorem text_integer (width : Option Nat) (scalar : Scalar) :
    (integer width).text scalar =
      match integerOf? scalar with
      | some number => integerText width number
      | none => .error (.mismatch .integer scalar.kind) := by
  cases scalar <;> rfl

/-- A decimal encoder writes the number it takes. -/
theorem text_decimal (scale : Option Nat) (scalar : Scalar) :
    (decimal scale).text scalar =
      match decimalOf? scalar with
      | some number => decimalText scale number
      | none => .error (.mismatch .decimal scalar.kind) := by
  cases scalar <;> rfl

theorem text_integer_eq_fault_iff {width : Option Nat} {scalar : Scalar} {fault : Fault} :
    (integer width).text scalar = .error (.fault fault) ↔
      (integer width).FaultsOn scalar fault := by
  rw [text_integer]
  constructor
  · intro faults
    cases taken : integerOf? scalar with
    | none => simp [taken] at faults
    | some number =>
        simp only [taken, integerText_eq_fault_iff] at faults
        rcases faults with ⟨wide, rfl, great, rfl⟩
        exact .width taken great
  · intro faults
    cases faults with
    | width taken great =>
        simp only [taken, integerText_eq_fault_iff]
        exact ⟨_, rfl, great, trivial⟩

theorem text_decimal_eq_fault_iff {scale : Option Nat} {scalar : Scalar} {fault : Fault}
    (within : scalar.WithinScale) :
    (decimal scale).text scalar = .error (.fault fault) ↔
      (decimal scale).FaultsOn scalar fault := by
  rw [text_decimal]
  constructor
  · intro faults
    cases taken : decimalOf? scalar with
    | none => simp [taken] at faults
    | some number =>
        have few := scale_of_decimalOf? within taken
        simp only [taken, decimalText_eq_fault_iff few] at faults
        rcases faults with ⟨asked, rfl, rfl, many, something, room⟩
        exact .scale taken many something room
  · intro faults
    cases faults with
    | scale taken many something room =>
        have few := scale_of_decimalOf? within taken
        simp only [taken, decimalText_eq_fault_iff few]
        exact ⟨_, rfl, trivial, many, something, room⟩

theorem text_date_eq_fault_iff {pattern : Calendar.Pattern} {scalar : Scalar}
    {fault : Fault} :
    (date pattern).text scalar = .error (.fault fault) ↔
      (date pattern).FaultsOn scalar fault := by
  constructor
  · intro faults
    cases scalar with
    | date day =>
        rcases dateText_eq_fault_iff.mp faults with ⟨misses, rfl⟩
        exact .date misses
    | dateTime moment =>
        rcases dateText_eq_fault_iff.mp faults with ⟨misses, rfl⟩
        exact .dateTime misses
    | _ => simp [text] at faults
  · intro faults
    cases faults with
    | date misses => exact dateText_eq_fault_iff.mpr ⟨misses, rfl⟩
    | dateTime misses => exact dateText_eq_fault_iff.mpr ⟨misses, rfl⟩

/-- A scalar has neither a text nor a mismatch exactly where an encoder faults on it. -/
theorem text_eq_fault_iff {encoder : Encoder} {scalar : Scalar} {fault : Fault}
    (within : scalar.WithinScale) :
    encoder.text scalar = .error (.fault fault) ↔ encoder.FaultsOn scalar fault := by
  cases encoder with
  | string trim =>
      constructor
      · cases scalar <;> simp [text]
      · rintro ⟨⟩
  | integer width => exact text_integer_eq_fault_iff
  | decimal scale => exact text_decimal_eq_fault_iff within
  | date pattern => exact text_date_eq_fault_iff
  | boolean trueText falseText =>
      constructor
      · cases scalar <;> simp [text]
      · rintro ⟨⟩

/-- An error that is no fault is the mismatch of the data type and the kind. -/
theorem text_eq_error {encoder : Encoder} {scalar : Scalar} {error : RenderError}
    (refused : encoder.text scalar = .error error) :
    error = .mismatch encoder.dataType scalar.kind ∨ ∃ fault, error = .fault fault := by
  cases encoder with
  | string trim => cases scalar <;> simp [text] at refused
  | integer width =>
      rw [text_integer] at refused
      unfold integerText at refused
      grind [dataType]
  | decimal scale =>
      rw [text_decimal] at refused
      unfold decimalText at refused
      grind [dataType]
  | date pattern =>
      cases scalar <;> simp only [text, dateText] at refused <;> grind [dataType]
  | boolean trueText falseText =>
      cases scalar <;> simp only [text] at refused <;> grind [dataType]

/-! ## Encoding under a delimiter table -/

/-- The text of a value under a delimiter table. -/
def encode (encoder : Encoder) (table : Delimiter.Table) (value : Value) :
    Except RenderError String :=
  (encoder.renderValue value).map (Rendered.text table)

/-- An encoder has neither a text for a value nor a mismatch. -/
def FaultsOnValue (encoder : Encoder) (value : Value) (fault : Fault) : Prop :=
  ∃ content, value = .scalar content ∧ encoder.FaultsOn content fault

/-- The delimiter table has no part in what is refused. -/
theorem encode_scalar_eq_error_iff {encoder : Encoder} {table : Delimiter.Table}
    {content : Scalar} {error : RenderError} :
    encoder.encode table (.scalar content) = .error error ↔
      encoder.text content = .error error := by
  cases encoder <;> cases rendered : text _ content <;>
    simp [encode, renderValue, render, rendered, Except.map]

/-- An encoder answers a value with a text, with the mismatch of its data type and the
kind of the value, or not at all, and that exactly where it faults. -/
theorem encode_trichotomy (encoder : Encoder) (table : Delimiter.Table) {value : Value}
    (within : value.WithinScale) :
    (∃ text, encoder.encode table value = .ok text) ∨
      encoder.encode table value = .error (.mismatch encoder.dataType value.kind) ∨
        ∃ fault, encoder.encode table value = .error (.fault fault) ∧
          encoder.FaultsOnValue value fault := by
  cases value with
  | scalar content =>
      cases answer : encoder.encode table (.scalar content) with
      | ok text => exact .inl ⟨text, rfl⟩
      | error error =>
          have refused := encode_scalar_eq_error_iff.mp answer
          rcases text_eq_error refused with rfl | ⟨fault, rfl⟩
          · exact .inr (.inl rfl)
          · exact .inr (.inr ⟨fault, rfl, content, rfl, (text_eq_fault_iff within).mp refused⟩)
  | bean properties => exact .inr (.inl rfl)
  | list items => exact .inr (.inl rfl)

theorem encode_eq_fault_iff {encoder : Encoder} (table : Delimiter.Table) {value : Value}
    {fault : Fault} (within : value.WithinScale) :
    encoder.encode table value = .error (.fault fault) ↔
      encoder.FaultsOnValue value fault := by
  constructor
  · intro faults
    rcases encode_trichotomy encoder table within with
      ⟨text, answer⟩ | answer | ⟨other, answer, cause⟩
    · simp [answer] at faults
    · simp [answer] at faults
    · obtain rfl : other = fault := by simpa [answer] using faults
      exact cause
  · rintro ⟨content, rfl, cause⟩
    exact encode_scalar_eq_error_iff.mpr ((text_eq_fault_iff within).mpr cause)

/-! ## Accepted options -/

/-- Options that are accepted ask for more than some value of a suitable kind can give. -/
inductive Overreaching : DataType → Options → Prop
  | width {options : Options} {value : String} {width : Nat}
      (given : Keyed.get? "width" options = some value)
      (read : Text.unsigned? (2 ^ 64 - 1) value = some width) (great : 65535 < width) :
      Overreaching .integer options
  | scale {options : Options} {value : String} {scale : Nat}
      (given : Keyed.get? "scale" options = some value)
      (read : Text.unsigned? (2 ^ 32 - 1) value = some scale) (many : 30 < scale) :
      Overreaching .decimal options
  | format {options : Options} {value : String} {pattern : Calendar.Pattern}
      (given : Keyed.get? "format" options = some value)
      (read : Calendar.Pattern.ofText? value = some pattern) (misses : pattern.Misses none) :
      Overreaching .date options

theorem configure_of_build {dataType : DataType} {options : Options} {encoder : Encoder}
    (built : build dataType options = .ok encoder) :
    configure dataType options = .ok encoder := by
  unfold build at built
  split at built
  · cases built
  · exact built

/-- What is configured from one option is made of its fallback or of what is read. -/
theorem map_option_eq_ok_iff {α : Type} {make : α → Encoder} {dataType : DataType}
    {options : Options} {key : String} {fallback : α} {read? : String → Option α}
    {encoder : Encoder} :
    make <$> option dataType options key fallback read? = .ok encoder ↔
      ∃ setting, (Keyed.get? key options).elim (some fallback) read? = some setting ∧
        make setting = encoder := by
  unfold option
  cases Keyed.get? key options with
  | none => simp [Functor.map, Except.map]
  | some value =>
      simp only [Option.elim_some]
      cases read? value <;> simp [Functor.map, Except.map]

/-- The width of an accepted integer encoder is the one its options give. -/
theorem width_of_build {options : Options} {encoder : Encoder}
    (built : build .integer options = .ok encoder) :
    encoder = integer
      ((Keyed.get? "width" options).bind (Text.unsigned? (2 ^ 64 - 1))) := by
  obtain ⟨width, read, rfl⟩ := map_option_eq_ok_iff.mp (configure_of_build built)
  cases given : Keyed.get? "width" options <;>
    cases width <;> simp_all

/-- The scale of an accepted decimal encoder is the one its options give. -/
theorem scale_of_build {options : Options} {encoder : Encoder}
    (built : build .decimal options = .ok encoder) :
    encoder = decimal
      ((Keyed.get? "scale" options).bind (Text.unsigned? (2 ^ 32 - 1))) := by
  obtain ⟨scale, read, rfl⟩ := map_option_eq_ok_iff.mp (configure_of_build built)
  cases given : Keyed.get? "scale" options <;>
    cases scale <;> simp_all

/-- The pattern of an accepted date encoder is the one its options give, or year, month
and day. -/
theorem pattern_of_build {options : Options} {encoder : Encoder}
    (built : build .date options = .ok encoder) :
    ∃ pattern, encoder = date pattern ∧
      (Keyed.get? "format" options).elim (some Calendar.Pattern.basicDate)
        Calendar.Pattern.ofText? = some pattern := by
  obtain ⟨pattern, read, rfl⟩ := map_option_eq_ok_iff.mp (configure_of_build built)
  exact ⟨pattern, rfl, read⟩

/-- Year, month and day are there for every date, so a pattern that misses something was
given. -/
theorem overreaching_of_misses {options : Options} {pattern : Calendar.Pattern}
    (built : build .date options = .ok (date pattern)) (misses : pattern.Misses none) :
    Overreaching .date options := by
  obtain ⟨read_pattern, made, read⟩ := pattern_of_build built
  cases made
  cases given : Keyed.get? "format" options with
  | none =>
      obtain rfl : Calendar.Pattern.basicDate = pattern := by simpa [given] using read
      have dated : ¬ Calendar.Pattern.basicDate.Misses none := by
        simp [Calendar.Pattern.Misses, Calendar.Pattern.basicDate, Calendar.Item.needsTime,
          Calendar.Field.needsTime]
      exact absurd misses dated
  | some value =>
      rw [given, Option.elim_some] at read
      exact .format given read misses

/-- An encoder is of the data type it is built for. -/
theorem dataType_of_build {dataType : DataType} {options : Options} {encoder : Encoder}
    (built : build dataType options = .ok encoder) : encoder.dataType = dataType := by
  have configured := configure_of_build built
  cases dataType with
  | boolean =>
      cases configured
      rfl
  | _ =>
      obtain ⟨setting, -, rfl⟩ := map_option_eq_ok_iff.mp configured
      rfl

/-- The least positive number, whose mantissa has room for many zeros. -/
def least : Decimal :=
  ⟨false, 1, Decimal.maxScale, by decide⟩

/-- An accepted encoder faults on some value exactly when its options overreach. -/
theorem exists_fault_iff_overreaching {dataType : DataType} {options : Options}
    {encoder : Encoder} (built : build dataType options = .ok encoder) :
    (∃ value : Value, value.WithinScale ∧ ∃ fault, encoder.FaultsOnValue value fault) ↔
      Overreaching dataType options := by
  constructor
  · rintro ⟨value, -, fault, content, rfl, faults⟩
    cases faults with
    | width taken great =>
        obtain rfl : DataType.integer = dataType := dataType_of_build built
        obtain ⟨value, given, read⟩ :=
          Option.bind_eq_some_iff.mp (integer.inj (width_of_build built)).symm
        exact .width given read great
    | scale taken many something room =>
        obtain rfl : DataType.decimal = dataType := dataType_of_build built
        obtain ⟨value, given, read⟩ :=
          Option.bind_eq_some_iff.mp (decimal.inj (scale_of_build built)).symm
        exact .scale given read many
    | date misses =>
        obtain rfl : DataType.date = dataType := dataType_of_build built
        exact overreaching_of_misses built misses
    | dateTime misses =>
        obtain rfl : DataType.date = dataType := dataType_of_build built
        exact overreaching_of_misses built misses.misses_none
  · intro overreaching
    cases overreaching with
    | width given read great =>
        obtain rfl := width_of_build built
        refine ⟨.scalar (.integer 0), trivial, .widthTooGreat, _, rfl, ?_⟩
        rw [given, Option.bind_some, read]
        exact .width rfl great
    | scale given read many =>
        obtain rfl := scale_of_build built
        refine ⟨.scalar (.decimal least), Nat.le_refl _, .numeralTooLong, _, rfl, ?_⟩
        rw [given, Option.bind_some, read]
        exact .scale rfl many (by decide) (by decide)
    | format given read misses =>
        obtain ⟨pattern, rfl, found⟩ := pattern_of_build built
        rw [given, Option.elim_some, read] at found
        cases found
        exact ⟨.scalar (.date default), trivial, .fieldMissing, _, rfl, .date misses⟩

/-- What an accepted encoder answers.  It faults on exactly the values that its width, its
scale or its pattern asks too much of, and answers every other value with a text or with
the mismatch of its data type and the kind of the value.  It does so for all values, and
under every delimiter table, exactly when its options do not overreach. -/
theorem encode_of_build {dataType : DataType} {options : Options} {encoder : Encoder}
    (built : build dataType options = .ok encoder) :
    (∀ value : Value, value.WithinScale → ∀ table,
      (∀ fault, encoder.encode table value = .error (.fault fault) ↔
        encoder.FaultsOnValue value fault) ∧
      ((∀ fault, ¬ encoder.FaultsOnValue value fault) →
        (∃ text, encoder.encode table value = .ok text) ∨
          encoder.encode table value = .error (.mismatch dataType value.kind))) ∧
    ((∀ value : Value, value.WithinScale → ∀ table,
      (∃ text, encoder.encode table value = .ok text) ∨
        encoder.encode table value = .error (.mismatch dataType value.kind)) ↔
      ¬ Overreaching dataType options) := by
  have answers {value : Value} (within : value.WithinScale) (table : Delimiter.Table)
      (none : ∀ fault, ¬ encoder.FaultsOnValue value fault) :
      (∃ text, encoder.encode table value = .ok text) ∨
        encoder.encode table value = .error (.mismatch dataType value.kind) := by
    rcases encode_trichotomy encoder table within with
      text | mismatch | ⟨fault, -, cause⟩
    · exact .inl text
    · exact .inr (dataType_of_build built ▸ mismatch)
    · exact absurd cause (none fault)
  constructor
  · intro value within table
    exact ⟨fun fault => encode_eq_fault_iff table within, answers within table⟩
  · constructor
    · intro always overreaching
      obtain ⟨value, within, fault, cause⟩ :=
        (exists_fault_iff_overreaching built).mpr overreaching
      have faults := (encode_eq_fault_iff .edifact within).mpr cause
      rcases always value within .edifact with ⟨text, answer⟩ | answer
      · simp [answer] at faults
      · simp [answer] at faults
    · intro within_reach value within table
      apply answers within table
      intro fault cause
      exact within_reach ((exists_fault_iff_overreaching built).mp ⟨value, within, fault, cause⟩)

/-- An integer encoder of width eight answers every value. -/
theorem encode_of_width_eight :
    build .integer [("width", "8")] = .ok (.integer (some 8)) ∧
      ∀ value : Value, value.WithinScale → ∀ table,
        (∃ text, (Encoder.integer (some 8)).encode table value = .ok text) ∨
          (Encoder.integer (some 8)).encode table value =
            .error (.mismatch .integer value.kind) := by
  have built : build .integer [("width", "8")] = .ok (.integer (some 8)) := by decide
  have modest : ¬ Overreaching .integer [("width", "8")] := by
    intro overreaching
    cases overreaching with
    | width given read great =>
        cases given
        have eight : Text.unsigned? (2 ^ 64 - 1) "8" = some 8 := by decide
        cases eight.symm.trans read
        exact absurd great (by decide)
  exact ⟨built, (encode_of_build built).2.mpr modest⟩

/-- The hour is accepted as a date format and no date has a text under it; a width of
65536 is accepted and no integer has a text under it. -/
theorem accepted_without_text :
    (¬ ∀ encoder, build .date [("format", "%H")] = .ok encoder →
        (∃ text, encoder.encode .edifact
            (.scalar (.date { year := 2024, month := 1, day := 5 })) = .ok text) ∨
          encoder.encode .edifact (.scalar (.date { year := 2024, month := 1, day := 5 })) =
            .error (.mismatch .date .date)) ∧
      ¬ ∀ encoder, build .integer [("width", "65536")] = .ok encoder →
        (∃ text, encoder.encode .edifact (.scalar (.integer 5)) = .ok text) ∨
          encoder.encode .edifact (.scalar (.integer 5)) =
            .error (.mismatch .integer .integer) := by
  constructor
  · intro safe
    have missing : (date [.number .hour .zero]).encode .edifact
        (.scalar (.date { year := 2024, month := 1, day := 5 })) =
          .error (.fault .fieldMissing) := by decide
    have answer := safe (date [.number .hour .zero]) (by decide)
    simp [missing] at answer
  · intro safe
    have great : (integer (some 65536)).encode .edifact (.scalar (.integer 5)) =
        .error (.fault .widthTooGreat) := by decide
    have answer := safe (integer (some 65536)) (by decide)
    simp [great] at answer

end Encoder

end FlatMessage
