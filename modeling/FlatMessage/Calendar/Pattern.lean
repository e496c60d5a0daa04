import FlatMessage.Calendar.Date
import FlatMessage.Text.Blank

/-!
# Date patterns

A pattern is literal text with conversion specifiers that begin with a percent
sign.  A specifier stands for one field of a date or of a time of day, for a
name or a fraction, or for a fixed sequence of these; a numeric field may carry
a padding modifier.

Reading a pattern refuses unknown specifiers.  Writing needs every field the
pattern asks for: a date alone has no time of day, and neither a date nor a
moment has a time zone.
-/

namespace FlatMessage.Calendar

/-- How a number is brought to its usual width. -/
inductive Padding
  | none
  | zero
  | space
  deriving DecidableEq, Repr

/-- A numeric field. -/
inductive Field
  | year
  | century
  | yearOfCentury
  | isoYear
  | isoYearOfCentury
  | quarter
  | month
  | day
  | weekFromSunday
  | weekFromMonday
  | isoWeek
  | weekdayFromSunday
  | weekdayFromMonday
  | ordinal
  | hour
  | hour12
  | minute
  | second
  | nanosecond
  | timestamp
  deriving DecidableEq, Repr

/-- One part of a pattern. -/
inductive Item
  | literal (text : List Char)
  | number (field : Field) (padding : Padding)
  | shortMonth
  | longMonth
  | shortWeekday
  | longWeekday
  | lowerHalf
  | upperHalf
  /-- As many fractional digits as the second has, in groups of three. -/
  | fraction
  /-- A fixed number of fractional digits. -/
  | fractionDigits (point : Bool) (count : Nat)
  | zone
  deriving DecidableEq, Repr

/-- A pattern is the list of its parts. -/
abbrev Pattern :=
  List Item

/-! ## Reading patterns -/

/-- Hours and minutes. -/
def clockShort : Pattern :=
  [.number .hour .zero, .literal [':'], .number .minute .zero]

/-- Hours, minutes and seconds. -/
def clock : Pattern :=
  clockShort ++ [.literal [':'], .number .second .zero]

/-- Month, day and year of the century. -/
def slashDate : Pattern :=
  [.number .month .zero, .literal ['/'], .number .day .zero, .literal ['/'],
    .number .yearOfCentury .zero]

/-- Year, month and day. -/
def dashDate : Pattern :=
  [.number .year .zero, .literal ['-'], .number .month .zero, .literal ['-'],
    .number .day .zero]

/-- The numeric field of a specifier, with its usual padding. -/
def numberOf? : Char → Option (Field × Padding)
  | 'C' => some (.century, .zero)
  | 'G' => some (.isoYear, .zero)
  | 'H' => some (.hour, .zero)
  | 'I' => some (.hour12, .zero)
  | 'M' => some (.minute, .zero)
  | 'S' => some (.second, .zero)
  | 'U' => some (.weekFromSunday, .zero)
  | 'V' => some (.isoWeek, .zero)
  | 'W' => some (.weekFromMonday, .zero)
  | 'Y' => some (.year, .zero)
  | 'd' => some (.day, .zero)
  | 'e' => some (.day, .space)
  | 'f' => some (.nanosecond, .zero)
  | 'g' => some (.isoYearOfCentury, .zero)
  | 'j' => some (.ordinal, .zero)
  | 'k' => some (.hour, .space)
  | 'l' => some (.hour12, .space)
  | 'm' => some (.month, .zero)
  | 'q' => some (.quarter, .none)
  | 's' => some (.timestamp, .none)
  | 'u' => some (.weekdayFromMonday, .none)
  | 'w' => some (.weekdayFromSunday, .none)
  | 'y' => some (.yearOfCentury, .zero)
  | _ => none

/-- The parts that a one-letter specifier stands for. -/
def itemsOf? (letter : Char) : Option Pattern :=
  match numberOf? letter with
  | some (field, padding) => some [.number field padding]
  | none =>
      match letter with
      | 'A' => some [.longWeekday]
      | 'a' => some [.shortWeekday]
      | 'B' => some [.longMonth]
      | 'b' => some [.shortMonth]
      | 'h' => some [.shortMonth]
      | 'D' => some slashDate
      | 'x' => some slashDate
      | 'F' => some dashDate
      | 'P' => some [.lowerHalf]
      | 'p' => some [.upperHalf]
      | 'R' => some clockShort
      | 'T' => some clock
      | 'X' => some clock
      | 'Z' => some [.zone]
      | 'z' => some [.zone]
      | '+' => some [.zone]
      | 'c' =>
          some <|
            [.shortWeekday, .literal [' '], .shortMonth, .literal [' '],
              .number .day .space, .literal [' ']] ++ clock ++
              [.literal [' '], .number .year .zero]
      | 'r' =>
          some
            [.number .hour12 .zero, .literal [':'], .number .minute .zero,
              .literal [':'], .number .second .zero, .literal [' '], .upperHalf]
      | 'v' =>
          some
            [.number .day .space, .literal ['-'], .shortMonth, .literal ['-'],
              .number .year .zero]
      | 'n' => some [.literal ['\n']]
      | 't' => some [.literal ['\t']]
      | '%' => some [.literal ['%']]
      | _ => none

/-- The padding that a modifier asks for. -/
def paddingOf? : Char → Option Padding
  | '-' => some .none
  | '0' => some .zero
  | '_' => some .space
  | _ => none

namespace Pattern

/-- Read a pattern; `none` when it holds an unknown specifier. -/
def ofChars? : List Char → Option Pattern
  | [] => some []
  | '%' :: '.' :: 'f' :: rest => (ofChars? rest).map (Item.fraction :: ·)
  | '%' :: '.' :: '3' :: 'f' :: rest =>
      (ofChars? rest).map (Item.fractionDigits true 3 :: ·)
  | '%' :: '.' :: '6' :: 'f' :: rest =>
      (ofChars? rest).map (Item.fractionDigits true 6 :: ·)
  | '%' :: '.' :: '9' :: 'f' :: rest =>
      (ofChars? rest).map (Item.fractionDigits true 9 :: ·)
  | '%' :: '3' :: 'f' :: rest =>
      (ofChars? rest).map (Item.fractionDigits false 3 :: ·)
  | '%' :: '6' :: 'f' :: rest =>
      (ofChars? rest).map (Item.fractionDigits false 6 :: ·)
  | '%' :: '9' :: 'f' :: rest =>
      (ofChars? rest).map (Item.fractionDigits false 9 :: ·)
  | '%' :: ':' :: 'z' :: rest => (ofChars? rest).map (Item.zone :: ·)
  | '%' :: ':' :: ':' :: 'z' :: rest => (ofChars? rest).map (Item.zone :: ·)
  | '%' :: ':' :: ':' :: ':' :: 'z' :: rest =>
      (ofChars? rest).map (Item.zone :: ·)
  | '%' :: '#' :: 'z' :: rest => (ofChars? rest).map (Item.zone :: ·)
  | ['%'] => none
  | ['%', letter] => itemsOf? letter
  | '%' :: modifier :: letter :: rest =>
      match paddingOf? modifier with
      | some padding =>
          (numberOf? letter).bind fun field =>
            (ofChars? rest).map (Item.number field.1 padding :: ·)
      | none =>
          (itemsOf? modifier).bind fun items =>
            (ofChars? (letter :: rest)).map (items ++ ·)
  | c :: rest => (ofChars? rest).map (Item.literal [c] :: ·)

/-- Read a pattern from its text. -/
def ofText? (text : String) : Option Pattern :=
  ofChars? text.toList

end Pattern

/-! ## Writing dates and times -/

/-- A number with its sign, brought to `width` characters. -/
def paddedNumber (padding : Padding) (width : Nat) (plus : Bool)
    (number : Int) : List Char :=
  let sign := if number < 0 then ['-'] else if plus then ['+'] else []
  let digits := Text.naturalDigits number.natAbs
  match padding with
  | .none => sign ++ digits
  | .zero => sign ++ digits.leftpad (width - sign.length) '0'
  | .space => (sign ++ digits).leftpad width ' '

/-- A year: at least four digits, and a sign when it is negative or has more
than four. -/
def yearChars (padding : Padding) (year : Int) : List Char :=
  if 0 ≤ year ∧ year < 10000 then paddedNumber padding 4 false year
  else paddedNumber padding 5 true year

/-- A number below 256 on two places.  A number above 99 has the tens counted
on from the digit nine in code point order. -/
def twoPlaces (padding : Padding) (number : Nat) : List Char :=
  let ones := Char.ofNat (48 + number % 10)
  if number / 10 = 0 then
    match padding with
    | .none => [ones]
    | .zero => ['0', ones]
    | .space => [' ', ones]
  else [Char.ofNat (48 + number / 10), ones]

/-- The full English month names. -/
def monthNames : List String :=
  ["January", "February", "March", "April", "May", "June", "July", "August",
    "September", "October", "November", "December"]

/-- The full English names of the days of the week, from Monday on. -/
def weekdayNames : List String :=
  ["Monday", "Tuesday", "Wednesday", "Thursday", "Friday", "Saturday", "Sunday"]

/-- The characters of the name at `index`. -/
def nameChars (names : List String) (index : Nat) : List Char :=
  (names.getD index "").toList

/-- The text of a numeric field of a date. -/
def dateField? (date : Date) (padding : Padding) : Field → Option (List Char)
  | .year => some (yearChars padding date.year)
  | .century => some (twoPlaces padding ((date.year / 100) % 256).toNat)
  | .yearOfCentury => some (twoPlaces padding (date.year % 100).toNat)
  | .isoYear => some (yearChars padding date.isoYear)
  | .isoYearOfCentury => some (twoPlaces padding (date.isoYear % 100).toNat)
  | .quarter => some (Text.naturalDigits date.quarter)
  | .month => some (twoPlaces padding date.month)
  | .day => some (twoPlaces padding date.day)
  | .weekFromSunday => some (twoPlaces padding date.weekFromSunday)
  | .weekFromMonday => some (twoPlaces padding date.weekFromMonday)
  | .isoWeek => some (twoPlaces padding date.isoWeek)
  | .weekdayFromSunday => some (Text.naturalDigits date.weekdayFromSunday)
  | .weekdayFromMonday => some (Text.naturalDigits (date.weekday + 1))
  | .ordinal => some (paddedNumber padding 3 false date.ordinal)
  | _ => none

/-- The text of a numeric field of a time of day. -/
def timeField? (time : Time) (padding : Padding) : Field → Option (List Char)
  | .hour => some (twoPlaces padding time.hour)
  | .hour12 => some (twoPlaces padding time.hour12)
  | .minute => some (twoPlaces padding time.minute)
  | .second => some (twoPlaces padding time.second)
  | .nanosecond => some (paddedNumber padding 9 false time.nanosecond)
  | _ => none

/-- The text of a numeric field, where it is known. -/
def field? (date : Date) (time : Option Time) (padding : Padding)
    (field : Field) : Option (List Char) :=
  match dateField? date padding field with
  | some chars => some chars
  | none =>
      time.bind fun time =>
        if field = .timestamp then
          some (paddedNumber padding 9 false (DateTime.timestamp ⟨date, time⟩))
        else timeField? time padding field

/-- The first `count` of nine fractional digits. -/
def fractionChars (count nanosecond : Nat) : List Char :=
  (Text.paddedDigits 9 nanosecond).take count

/-- The fractional digits that are needed, in groups of three, after a point;
nothing for a full second. -/
def neededFraction (nanosecond : Nat) : List Char :=
  if nanosecond = 0 then []
  else if nanosecond % 1000000 = 0 then '.' :: fractionChars 3 nanosecond
  else if nanosecond % 1000 = 0 then '.' :: fractionChars 6 nanosecond
  else '.' :: fractionChars 9 nanosecond

/-- The text of one part of a pattern; `none` when a field is missing. -/
def Item.chars? (date : Date) (time : Option Time) : Item → Option (List Char)
  | .literal text => some text
  | .number field padding => field? date time padding field
  | .shortMonth => some ((nameChars monthNames (date.month - 1)).take 3)
  | .longMonth => some (nameChars monthNames (date.month - 1))
  | .shortWeekday => some ((nameChars weekdayNames date.weekday).take 3)
  | .longWeekday => some (nameChars weekdayNames date.weekday)
  | .lowerHalf =>
      time.map fun time => if time.isAfternoon then ['p', 'm'] else ['a', 'm']
  | .upperHalf =>
      time.map fun time => if time.isAfternoon then ['P', 'M'] else ['A', 'M']
  | .fraction => time.map fun time => neededFraction time.nanosecond
  | .fractionDigits point count =>
      time.map fun time =>
        (if point then ['.'] else []) ++ fractionChars count time.nanosecond
  | .zone => none

namespace Pattern

/-- The text of a date, or of a moment when a time of day is given; `none` when
the pattern asks for a field that is missing. -/
def write? (pattern : Pattern) (date : Date) (time : Option Time) :
    Option String :=
  (pattern.mapM (Item.chars? date time)).map fun parts =>
    String.ofList parts.flatten

/-- Year, month and day without separators. -/
def basicDate : Pattern :=
  [.number .year .zero, .number .month .zero, .number .day .zero]

end Pattern

/-- The plain text of a date. -/
def Date.text (date : Date) : String :=
  String.ofList <|
    yearChars .zero date.year ++ twoPlaces .zero date.month ++
      twoPlaces .zero date.day

/-- The plain text of a moment. -/
def DateTime.text (moment : DateTime) : String :=
  moment.date.text ++
    String.ofList
      (twoPlaces .zero moment.time.hour ++ twoPlaces .zero moment.time.minute ++
        twoPlaces .zero moment.time.second)

end FlatMessage.Calendar
