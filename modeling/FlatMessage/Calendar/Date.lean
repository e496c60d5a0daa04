import FlatMessage.Text.Numeral

/-!
# Calendar dates and times

Dates are those of the proleptic Gregorian calendar, with a year zero and
negative years before it.  A time of day may name the second sixty, which is a
leap second.

Days are counted from the first of January of year one, a Monday.
-/

namespace FlatMessage.Calendar

/-- Whether a year has a twenty-ninth of February. -/
def isLeapYear (year : Int) : Bool :=
  year % 4 = 0 && (year % 100 ≠ 0 || year % 400 = 0)

/-- The number of days of a month, counted from one. -/
def daysInMonth (year : Int) (month : Nat) : Nat :=
  if month = 2 then if isLeapYear year then 29 else 28
  else if month = 4 ∨ month = 6 ∨ month = 9 ∨ month = 11 then 30
  else 31

/-- A calendar date; months and days count from one. -/
structure Date where
  year : Int
  month : Nat
  day : Nat
  month_pos : 1 ≤ month := by decide
  month_le : month ≤ 12 := by decide
  day_pos : 1 ≤ day := by decide
  day_le : day ≤ daysInMonth year month := by decide
  deriving DecidableEq, Repr

instance : Inhabited Date :=
  ⟨{ year := 1, month := 1, day := 1 }⟩

/-- A time of day with nanoseconds. -/
structure Time where
  hour : Nat
  minute : Nat
  second : Nat
  nanosecond : Nat
  deriving DecidableEq, Repr, Inhabited

/-- A date with a time of day, in no particular time zone. -/
structure DateTime where
  date : Date
  time : Time
  deriving DecidableEq, Repr, Inhabited

/-- The date with the given parts, if there is one. -/
def Date.ofParts? (year : Int) (month day : Nat) : Option Date :=
  if valid : (1 ≤ month ∧ month ≤ 12) ∧ 1 ≤ day ∧ day ≤ daysInMonth year month then
    some
      { year, month, day
        month_pos := valid.1.1
        month_le := valid.1.2
        day_pos := valid.2.1
        day_le := valid.2.2 }
  else none

/-- The time with the given parts, if there is one. -/
def Time.ofParts? (hour minute second nanosecond : Nat) : Option Time :=
  if hour < 24 ∧ minute < 60 ∧ second ≤ 60 ∧ nanosecond < 1000000000 then
    some ⟨hour, minute, second, nanosecond⟩
  else none

/-! ## Days and weeks -/

/-- The number of days of a year before the first of a month. -/
def daysBeforeMonth (year : Int) : Nat → Nat
  | 0 => 0
  | 1 => 0
  | month + 2 => daysBeforeMonth year (month + 1) + daysInMonth year (month + 1)

/-- The number of days of a year. -/
def daysInYear (year : Int) : Nat :=
  if isLeapYear year then 366 else 365

/-- The days between the first of January of year one and that of `year`. -/
def daysBeforeYear (year : Int) : Int :=
  let past := year - 1
  past * 365 + past / 4 - past / 100 + past / 400

namespace Date

/-- The day of the year, counted from one. -/
def ordinal (date : Date) : Nat :=
  daysBeforeMonth date.year date.month + date.day

/-- The days from the first of January of year one. -/
def dayNumber (date : Date) : Int :=
  daysBeforeYear date.year + date.ordinal - 1

/-- The day of the week, with Monday as zero. -/
def weekday (date : Date) : Nat :=
  (date.dayNumber % 7).toNat

/-- The day of the week, with Sunday as zero. -/
def weekdayFromSunday (date : Date) : Nat :=
  (date.weekday + 1) % 7

/-- The quarter of the year, counted from one. -/
def quarter (date : Date) : Nat :=
  (date.month - 1) / 3 + 1

/-- The week of the year when weeks begin on Sundays and the days before the
first Sunday belong to week zero. -/
def weekFromSunday (date : Date) : Nat :=
  (date.ordinal + 6 - date.weekdayFromSunday) / 7

/-- The week of the year when weeks begin on Mondays and the days before the
first Monday belong to week zero. -/
def weekFromMonday (date : Date) : Nat :=
  (date.ordinal + 6 - date.weekday) / 7

/-- The year that the week of a date belongs to: that of its Thursday. -/
def isoYear (date : Date) : Int :=
  let thursday : Int := (date.ordinal : Int) + 3 - date.weekday
  if thursday < 1 then date.year - 1
  else if (daysInYear date.year : Int) < thursday then date.year + 1
  else date.year

/-- The number of a date's week in the year it belongs to, counted from one. -/
def isoWeek (date : Date) : Nat :=
  let thursday : Int := date.dayNumber + 3 - date.weekday
  ((thursday - daysBeforeYear date.isoYear) / 7).toNat + 1

end Date

namespace Time

/-- Whether a time is in the second half of the day. -/
def isAfternoon (time : Time) : Bool :=
  12 ≤ time.hour

/-- The hour on a twelve-hour clock. -/
def hour12 (time : Time) : Nat :=
  if time.hour % 12 = 0 then 12 else time.hour % 12

end Time

/-- The seconds from the first of January 1970; a leap second counts as the
second before it. -/
def DateTime.timestamp (moment : DateTime) : Int :=
  (moment.date.dayNumber - 719162) * 86400 + moment.time.hour * 3600 +
    moment.time.minute * 60 + (min moment.time.second 59 : Nat)

end FlatMessage.Calendar
