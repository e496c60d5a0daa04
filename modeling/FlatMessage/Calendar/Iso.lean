import FlatMessage.Calendar.Pattern
import FlatMessage.Text.Split

/-!
# Extended notation of dates and moments

The notation that instance files use: `2024-02-29` and
`2024-02-29T13:05:09.123`.  A year outside four digits carries a sign, and a
fraction of the second has three, six or nine digits when it is written.
-/

namespace FlatMessage.Calendar

/-- The extended notation of a date. -/
def Date.extended (date : Date) : String :=
  String.ofList <|
    yearChars .zero date.year ++ '-' :: twoPlaces .zero date.month ++
      '-' :: twoPlaces .zero date.day

/-- The extended notation of a moment. -/
def DateTime.extended (moment : DateTime) : String :=
  moment.date.extended ++
    String.ofList
      ('T' :: twoPlaces .zero moment.time.hour ++
        ':' :: twoPlaces .zero moment.time.minute ++
        ':' :: twoPlaces .zero moment.time.second ++
        neededFraction moment.time.nanosecond)

/-- Read a date in extended notation. -/
def Date.ofExtended? (text : String) : Option Date :=
  let (negative, unsigned) :=
    match text.toList with
    | '-' :: rest => (true, rest)
    | '+' :: rest => (false, rest)
    | chars => (false, chars)
  match Text.splitChars (· == '-') unsigned with
  | [year, month, day] => do
      let year ← Text.digits? year
      let month ← Text.digits? month
      let day ← Text.digits? day
      Date.ofParts? (if negative then -(year : Int) else year) month day
  | _ => none

/-- Read a time of day with an optional fraction of up to nine digits. -/
def Time.ofExtended? (chars : List Char) : Option Time :=
  match Text.splitChars (· == ':') chars with
  | [hour, minute, seconds] => do
      let hour ← Text.digits? hour
      let minute ← Text.digits? minute
      match Text.splitChars (· == '.') seconds with
      | [second] => Time.ofParts? hour minute (← Text.digits? second) 0
      | [second, fraction] =>
          let digits := (fraction ++ List.replicate 9 '0').take 9
          Time.ofParts? hour minute (← Text.digits? second) (← Text.digits? digits)
      | _ => none
  | _ => none

/-- Read a moment in extended notation. -/
def DateTime.ofExtended? (text : String) : Option DateTime := do
  let (day, clock) ← Text.cut? 'T' text
  let date ← Date.ofExtended? day
  let time ← Time.ofExtended? clock.toList
  pure ⟨date, time⟩

end FlatMessage.Calendar
