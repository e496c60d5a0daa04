import FlatMessage.Calendar.Date
import FlatMessage.Toml.Lexical

/-!
# Moments of TOML

A moment is a date, a time of day, or both with an optional offset.  The date has to
be in the calendar, and a minute may have a sixty-first second.
-/

namespace FlatMessage.Toml

/-- The number of exactly `count` digits. -/
def fixedDigits? (count : Nat) (chars : List Char) : Option Nat :=
  if chars.length = count then Text.digits? chars else none

/-- Whether characters are a date. -/
def isDate (chars : List Char) : Bool :=
  match Text.splitChars (· == '-') chars with
  | [year, month, day] =>
      let date := do
        Calendar.Date.ofParts? (← fixedDigits? 4 year) (← fixedDigits? 2 month)
          (← fixedDigits? 2 day)
      date.isSome
  | _ => false

/-- Whether characters are a time of day. -/
def isClock (chars : List Char) : Bool :=
  match Text.splitChars (· == ':') chars with
  | [hour, minute, seconds] =>
      let second := seconds.takeWhile (· ≠ '.')
      let fraction := seconds.drop second.length
      let time := do
        Calendar.Time.ofParts? (← fixedDigits? 2 hour) (← fixedDigits? 2 minute)
          (← fixedDigits? 2 second) 0
      time.isSome &&
        (fraction.isEmpty || (Text.digits? (fraction.drop 1)).isSome)
  | _ => false

/-- Whether characters are an offset in hours and minutes, without its sign. -/
def isOffset (chars : List Char) : Bool :=
  match Text.splitChars (· == ':') chars with
  | [hour, minute] =>
      (fixedDigits? 2 hour).any (· < 24) && (fixedDigits? 2 minute).any (· < 60)
  | _ => false

/-- Whether characters are a time of day with an optional offset. -/
def isOffsetClock (chars : List Char) : Bool :=
  let isMark (c : Char) : Bool := c = '+' || c = '-' || c = 'Z' || c = 'z'
  let clock := chars.takeWhile fun c => !isMark c
  isClock clock &&
    match chars.drop clock.length with
    | [] => true
    | ['Z'] => true
    | ['z'] => true
    | _ :: offset => isOffset offset

/-- Whether characters are a moment. -/
def isMoment (chars : List Char) : Bool :=
  let date := chars.take 10
  match chars.drop 10 with
  | [] => isDate date || isClock chars
  | mark :: rest =>
      ((mark = 'T' || mark = 't' || mark = ' ') && isDate date && isOffsetClock rest) ||
        isClock chars

end FlatMessage.Toml
