import FlatMessage.Location.Domain.CompositionData

/-!
# Canonical composition

A letter with marks can be written as one character or as a letter and its marks, and
marks that do not touch can be written in any order.  The composed form of a text has
one character wherever there is one, and marks in the order of their classes.  Of two
texts that read the same both have the same composed form.
-/

namespace FlatMessage.Location.Domain

open FlatMessage.Text

/-- The class of a mark by the place where it combines; zero for a character that
begins anew. -/
def combiningClass (c : Char) : Nat :=
  match combiningClasses.find? fun entry => entry.1.contains c.toNat with
  | some entry => entry.2
  | none => 0

/-! ## Taking apart -/

/-- The longest chain of compositions that make one character. -/
def longestChain : Nat := 4

/-- Take a character apart, at most `count` times. -/
def parts (count : Nat) (c : Char) : List Char :=
  match count with
  | 0 => [c]
  | count + 1 =>
      match compositions.find? fun entry => entry.2.2 = c.toNat with
      | some (first, second, _) => parts count (Char.ofNat first) ++ [Char.ofNat second]
      | none => [c]

/-! ## Ordering marks -/

/-- Put a character behind the ones before it, innermost first, but a mark in front of
marks of higher classes. -/
def place (c : Char) : List Char → List Char
  | [] => [c]
  | top :: before =>
      if combiningClass c ≠ 0 ∧ combiningClass c < combiningClass top then
        top :: place c before
      else c :: top :: before

/-- Put the marks of a text in the order of their classes. -/
def ordered (chars : List Char) : List Char :=
  (chars.foldl (fun before c => place c before) []).reverse

/-- Putting a character behind others changes the order only. -/
theorem place_perm (c : Char) (before : List Char) : (place c before).Perm (c :: before) := by
  induction before with
  | nil => exact List.Perm.refl _
  | cons top before ih =>
      unfold place
      split
      · exact (ih.cons top).trans (List.Perm.swap c top before)
      · exact List.Perm.refl _

/-- Ordering marks loses none of them. -/
theorem ordered_perm (chars : List Char) : (ordered chars).Perm chars := by
  have placed (chars before : List Char) :
      (chars.foldl (fun before c => place c before) before).Perm (chars.reverse ++ before) := by
    induction chars generalizing before with
    | nil => exact List.Perm.refl _
    | cons c chars ih =>
        simpa using (ih (place c before)).trans ((place_perm c before).append_left _)
  have reversed := placed chars []
  rw [List.append_nil] at reversed
  exact ((List.reverse_perm _).trans reversed).trans (List.reverse_perm chars)

/-! ## Putting together -/

/-- The syllable of a leading consonant and a vowel, or of an open syllable and a
trailing consonant. -/
def syllable? (first second : Nat) : Option Nat :=
  if 0x1100 ≤ first ∧ first ≤ 0x1112 ∧ 0x1161 ≤ second ∧ second ≤ 0x1175 then
    some (0xAC00 + ((first - 0x1100) * 21 + (second - 0x1161)) * 28)
  else if 0xAC00 ≤ first ∧ first ≤ 0xD7A3 ∧ (first - 0xAC00) % 28 = 0 ∧
      0x11A8 ≤ second ∧ second ≤ 0x11C2 then
    some (first + (second - 0x11A7))
  else none

/-- The character that two characters make. -/
def composition? (first second : Char) : Option Char :=
  match syllable? first.toNat second.toNat with
  | some code => some (Char.ofNat code)
  | none =>
      (compositions.find? fun entry =>
          entry.1 = first.toNat && entry.2.1 = second.toNat).map
        fun entry => Char.ofNat entry.2.2

/-- Compose a letter with what follows it.  `marks` holds the marks since the letter
that it does not combine with, innermost first: a character combines with the letter
only if its class is higher than theirs. -/
def composeFrom (letter : Char) (marks : List Char) : List Char → List Char
  | [] => letter :: marks.reverse
  | c :: rest =>
      let isBlocked := marks.head?.any fun mark => combiningClass c ≤ combiningClass mark
      match if isBlocked then none else composition? letter c with
      | some composed => composeFrom composed marks rest
      | none =>
          if combiningClass c = 0 then letter :: (marks.reverse ++ composeFrom c [] rest)
          else composeFrom letter (c :: marks) rest

/-- Compose a text whose characters are taken apart and whose marks are in order. -/
def compose : List Char → List Char
  | [] => []
  | c :: rest =>
      if combiningClass c = 0 then composeFrom c [] rest else c :: compose rest

/-- The composed form of a text. -/
def composed (chars : List Char) : List Char :=
  compose (ordered (chars.flatMap (parts longestChain)))

end FlatMessage.Location.Domain
