import FlatMessage.Naming.Identifier
import FlatMessage.Proofs.Names

/-!
# Letters in the other case

A character of ASCII is mapped to one character, which is of ASCII too.  Any other character
is mapped to at least one character, and where the tables lead back into ASCII, as from the
Kelvin sign or from a ligature, they lead to letters in the case that was asked for.  So no
separator comes from a character that is none, no capital of ASCII from mapping to lower
case and no small letter of ASCII from mapping to upper case.
-/

namespace FlatMessage

namespace Text

/-! ## ASCII -/

/-- What holds of the first 128 code points holds of every character of ASCII. -/
theorem forall_ascii (holds : Char → Prop) (all : ∀ code < 128, holds (Char.ofNat code))
    {c : Char} (ascii : c.toNat < 128) : holds c := by
  have here := all c.toNat ascii
  rwa [Char.ofNat_toNat] at here

theorem toLowercase_of_ascii {c : Char} (ascii : c.toNat < 128) : toLowercase c = [c.toLower] :=
  forall_ascii (fun c => toLowercase c = [c.toLower]) (by decide) ascii

theorem isUppercase_of_ascii {c : Char} (ascii : c.toNat < 128) :
    isUppercase c = isAsciiUpper c := by
  rw [isUppercase, if_pos ascii]

/-- A character of ASCII that is no capital is in lower case already. -/
theorem toLowercase_eq_self {c : Char} (ascii : c.toNat < 128)
    (small : isAsciiUpper c = false) : toLowercase c = [c] := by
  rw [toLowercase, if_pos ascii, small]
  rfl

/-- A character of ASCII that is no small letter is in upper case already. -/
theorem toUppercase_eq_self {c : Char} (ascii : c.toNat < 128)
    (capital : isAsciiLower c = false) : toUppercase c = [c] := by
  rw [toUppercase, if_pos ascii, capital]
  rfl

/-! ## The tables of Unicode -/

section

variable {sequences : List (Nat × List Nat)} {shifts : List Shift} {c : Char}

theorem mem_of_lookup_eq_some {code : Nat} {codes : List Nat}
    (found : sequences.lookup code = some codes) : (code, codes) ∈ sequences := by
  obtain ⟨before, after, rfl, -⟩ := List.lookup_eq_some_iff.mp found
  simp

theorem mapped_ne_nil (filled : ∀ entry ∈ sequences, entry.2 ≠ []) :
    mapped sequences shifts c ≠ [] := by
  unfold mapped
  split
  · next codes found =>
      rw [ne_eq, List.map_eq_nil_iff]
      exact filled _ (mem_of_lookup_eq_some found)
  · split <;> exact List.cons_ne_nil _ _

/-- A set of characters of ASCII without the one that stands for what is no code point. -/
structure IsAsciiSet (among : Char → Bool) : Prop where
  nul : among '\x00' = false
  ascii : ∀ c, among c = true → c.toNat < 128

theorem IsAsciiSet.eq_false {among : Char → Bool} (set : IsAsciiSet among)
    (beyond : 128 ≤ c.toNat) : among c = false :=
  Bool.eq_false_iff.mpr fun member => absurd (set.ascii c member) (Nat.not_lt.mpr beyond)

/-- Whether a shift leads to no character of such a set: it stays outside ASCII, or its
characters are tried one by one. -/
def Shift.avoids (among : Char → Bool) (shift : Shift) : Bool :=
  128 ≤ (shift.run.first : Int) + shift.distance ||
    (List.range' shift.run.first (shift.run.last + 1 - shift.run.first)).all fun code =>
      !among (Char.ofNat ((code : Int) + shift.distance).toNat)

theorem Shift.eq_false_of_avoids {among : Char → Bool} (set : IsAsciiSet among) {shift : Shift}
    (avoids : shift.avoids among = true) {code : Nat} (inside : shift.run.contains code = true) :
    among (Char.ofNat ((code : Int) + shift.distance).toNat) = false := by
  have range : shift.run.first ≤ code ∧ code ≤ shift.run.last := by
    simp only [Run.contains, Bool.and_eq_true, decide_eq_true_eq] at inside
    exact inside.1
  rw [Shift.avoids, Bool.or_eq_true, decide_eq_true_eq, List.all_eq_true] at avoids
  rcases avoids with far | tried
  · have large : 128 ≤ ((code : Int) + shift.distance).toNat := by omega
    by_cases valid : ((code : Int) + shift.distance).toNat.isValidChar
    · rw [Char.ofNat, dif_pos valid]
      exact set.eq_false large
    · rw [Char.ofNat, dif_neg valid]
      exact set.nul
  · simpa using tried code (List.mem_range'_1.mpr ⟨range.1, by omega⟩)

/-- A character outside ASCII is mapped to no character of a set that the tables avoid. -/
theorem eq_false_of_mem_mapped {among : Char → Bool} (set : IsAsciiSet among)
    (listed : (sequences.all fun entry => entry.2.all fun code => !among (Char.ofNat code)) = true)
    (moved : shifts.all (Shift.avoids among) = true) (beyond : 128 ≤ c.toNat) {d : Char}
    (member : d ∈ mapped sequences shifts c) : among d = false := by
  rw [List.all_eq_true] at listed moved
  unfold mapped at member
  split at member
  · next codes found =>
      obtain ⟨code, inside, rfl⟩ := List.mem_map.mp member
      simpa using List.all_eq_true.mp (listed _ (mem_of_lookup_eq_some found)) code inside
  · split at member
    · next shift found =>
        rw [List.mem_singleton.mp member]
        exact Shift.eq_false_of_avoids set (moved shift (List.mem_of_find?_eq_some found))
          (by simpa using List.find?_some found)
    · rw [List.mem_singleton.mp member]
      exact set.eq_false beyond

end

theorem toLowercase_ne_nil (c : Char) : toLowercase c ≠ [] := by
  unfold toLowercase
  split
  · exact List.cons_ne_nil _ _
  · exact mapped_ne_nil (by decide)

theorem toUppercase_ne_nil (c : Char) : toUppercase c ≠ [] := by
  unfold toUppercase
  split
  · exact List.cons_ne_nil _ _
  · exact mapped_ne_nil (by decide)

end Text

namespace Naming

/-! ## Separators -/

/-- The separators, together with the letters of one case. -/
theorem isAsciiSet_separators (isLetter : Char → Bool)
    (letter : ∀ c, isLetter c = true → Text.isAsciiLetter c = true) :
    Text.IsAsciiSet fun c => isSeparator c || isLetter c where
  nul := by
    have letterless : isLetter '\x00' = false :=
      Bool.eq_false_iff.mpr fun member => absurd (letter _ member) (by decide)
    rw [letterless]
    rfl
  ascii c member := by
    rcases Bool.or_eq_true_iff.mp member with separator | among
    · simp only [isSeparator, Bool.or_eq_true, beq_iff_eq] at separator
      rcases separator with ((rfl | rfl) | rfl) | rfl <;> decide
    · apply toNat_lt_of_isWord
      rw [isWord, Text.isAsciiAlphanumeric, letter c among, Bool.true_or, Bool.true_or]

/-- In lower case there are neither separators that were not there nor capitals of ASCII. -/
theorem eq_false_of_mem_toLowercase {c d : Char} (letter : isSeparator c = false)
    (member : d ∈ Text.toLowercase c) : isSeparator d = false ∧ Text.isAsciiUpper d = false := by
  rw [← Bool.or_eq_false_iff]
  by_cases ascii : c.toNat < 128
  · have all := Text.forall_ascii
      (fun c => isSeparator c = false →
        ((Text.toLowercase c).any fun d => isSeparator d || Text.isAsciiUpper d) = false)
      (by decide) ascii letter
    exact Bool.eq_false_iff.mpr (List.any_eq_false.mp all d member)
  · rw [Text.toLowercase, if_neg ascii] at member
    have set := isAsciiSet_separators Text.isAsciiUpper fun c upper => by
      rw [Text.isAsciiLetter, upper, Bool.or_true]
    exact Text.eq_false_of_mem_mapped set (by decide) (by decide +kernel) (Nat.not_lt.mp ascii)
      member

/-- In upper case there are neither separators that were not there nor small letters of
ASCII. -/
theorem eq_false_of_mem_toUppercase {c d : Char} (letter : isSeparator c = false)
    (member : d ∈ Text.toUppercase c) : isSeparator d = false ∧ Text.isAsciiLower d = false := by
  rw [← Bool.or_eq_false_iff]
  by_cases ascii : c.toNat < 128
  · have all := Text.forall_ascii
      (fun c => isSeparator c = false →
        ((Text.toUppercase c).any fun d => isSeparator d || Text.isAsciiLower d) = false)
      (by decide) ascii letter
    exact Bool.eq_false_iff.mpr (List.any_eq_false.mp all d member)
  · rw [Text.toUppercase, if_neg ascii] at member
    have set := isAsciiSet_separators Text.isAsciiLower fun c lower => by
      rw [Text.isAsciiLetter, lower, Bool.true_or]
    exact Text.eq_false_of_mem_mapped set (by decide +kernel) (by decide +kernel)
      (Nat.not_lt.mp ascii) member

end Naming

end FlatMessage
