import FlatMessage.Number.Power
import FlatMessage.Text.Case
import FlatMessage.Text.Split

/-!
# Punycode

Where only ASCII goes, a label with other characters is written in Punycode: first its
ASCII characters, then after a hyphen one number for each other character, in the order
of their code points.  A number says how many places to go on from the last insertion;
going past the end begins again at the front with the next code point.

The digits of a number count in base 36, but a digit below a threshold is the last one.
The thresholds depend on the size of the numbers before.
-/

namespace FlatMessage.Location.Domain.Punycode

open FlatMessage.Text

/-- The value of a digit: the letters come first. -/
def digit? (c : Char) : Option Nat :=
  if isAsciiLower c then some (c.toNat - 97)
  else if isDigit c then some (c.toNat - 22)
  else none

/-- The threshold of the digit at a place; places are 36, 72 and so on. -/
def threshold (bias place : Nat) : Nat :=
  if place ≤ bias then 1 else if bias + 26 ≤ place then 26 else place - bias

/-- Read the digits of a number and add it to `total`.  Numbers have 32 bits. -/
def readNumber? (bias place weight total : Nat) : List Char → Option (Nat × List Char)
  | [] => none
  | c :: rest =>
      match digit? c with
      | none => none
      | some digit =>
          let total := total + digit * weight
          let least := threshold bias place
          if 2 ^ 32 ≤ weight ∨ 2 ^ 32 ≤ total then none
          else if digit < least then some (total, rest)
          else readNumber? bias (place + 36) (weight * (36 - least)) total rest

/-- A number takes a digit at least. -/
theorem length_lt_of_readNumber? {bias place weight total number : Nat}
    {chars rest : List Char}
    (h : readNumber? bias place weight total chars = some (number, rest)) :
    rest.length < chars.length := by
  induction chars generalizing place weight total with
  | nil => simp [readNumber?] at h
  | cons c chars ih =>
      simp only [readNumber?] at h
      split at h
      · simp at h
      · split at h
        · simp at h
        · split at h
          · simp only [Option.some.injEq, Prod.mk.injEq] at h
            simp [← h.2]
          · exact Nat.lt_succ_of_lt (ih h)

/-- The bias that a scaled distance leads to. -/
def biasOf (distance : Nat) : Nat :=
  if 455 < distance then 36 + biasOf (distance / 35)
  else 36 * distance / (distance + 38)
termination_by distance

/-- The bias after an insertion: `distance` is how far it went, `count` is the number
of characters now. -/
def nextBias (isFirst : Bool) (distance count : Nat) : Nat :=
  let scaled := distance / (if isFirst then 700 else 2)
  biasOf (scaled + scaled / count)

/-- Insert the characters that the numbers give.  `code` and `place` are where the last
insertion left off. -/
def insertAll? (code place bias : Nat) (chars numbers : List Char) :
    Option (List Char) :=
  if numbers.isEmpty then some chars
  else
    match _read : readNumber? bias 36 1 place numbers with
    | none => none
    | some (total, rest) =>
        let count := chars.length + 1
        let next := code + total / count
        if next.isValidChar then
          insertAll? next (total % count + 1) (nextBias (place = 0) (total - place) count)
            (chars.insertIdx (total % count) (Char.ofNat next)) rest
        else none
termination_by numbers.length
decreasing_by exact length_lt_of_readNumber? _read

/-- The characters that a text in Punycode stands for.  The last hyphen ends the ASCII
characters; there is none if there are no ASCII characters. -/
def decode? (encoded : List Char) : Option (List Char) :=
  let (plain, numbers) :=
    match cutChars? '-' encoded.reverse with
    | some (numbers, plain) =>
        if plain.isEmpty then ([], encoded) else (plain.reverse, numbers.reverse)
    | none => ([], encoded)
  if plain.all fun c => c.toNat < 128 then insertAll? 128 0 72 plain numbers else none

end FlatMessage.Location.Domain.Punycode
