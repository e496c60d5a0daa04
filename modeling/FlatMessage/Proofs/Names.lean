import FlatMessage.Compiler.CompiledModel
import FlatMessage.Proofs.Places.Walking
import Mathlib.Data.List.Nodup
import Mathlib.Data.List.Perm.Subperm

/-!
# Unique names

A claim yields a name that was not taken, and the name is an identifier if what was asked
for is one: a suffix consists of digits, and no reserved word ends in a digit.  The suffix is
the least free one, and a counter of 32 bits gets to it if the scope has fewer names.

The segments of a namespace are found between its dots, so a namespace and the name of a
type in it can be told from the qualified name of the type.
-/

namespace FlatMessage

namespace Text

/-- A numeral is made of digits, of which there is at least one. -/
theorem isDigit_of_mem_natural {number : Nat} {c : Char}
    (member : c ∈ (natural number).toList) : isDigit c = true := by
  rw [natural, String.toList_ofList, naturalDigits] at member
  have digit := Nat.isDigit_of_mem_toDigits (by decide) (by decide) member
  simpa [Char.isDigit, isDigit, Char.le_def] using digit

theorem natural_ne_nil (number : Nat) : (natural number).toList ≠ [] := by
  rw [natural, String.toList_ofList, naturalDigits]
  exact Nat.toDigits_ne_nil

/-- Different numbers have different numerals. -/
theorem natural_inj {number other : Nat} (same : natural number = natural other) :
    number = other := by
  have digits : Nat.toDigits 10 number = Nat.toDigits 10 other := String.ofList_inj.mp same
  have read := congrArg (Nat.ofDigitChars 10 · 0) digits
  simpa [Nat.ofDigitChars_toDigits] using read

end Text

namespace Naming

/-! ## Identifiers -/

/-- Whether a character may stand in an identifier. -/
def isWord (c : Char) : Bool :=
  Text.isAsciiAlphanumeric c || c == '_'

/-- Such a character is one of ASCII. -/
theorem toNat_lt_of_isWord {c : Char} (word : isWord c = true) : c.toNat < 128 := by
  simp only [isWord, Text.isAsciiAlphanumeric, Text.isAsciiLetter, Text.isAsciiLower,
    Text.isAsciiUpper, Text.isDigit, Bool.or_eq_true, Bool.and_eq_true, decide_eq_true_eq,
    Char.le_def, UInt32.le_iff_toNat_le, beq_iff_eq] at word
  rcases word with ((⟨-, bound⟩ | ⟨-, bound⟩) | ⟨-, bound⟩) | rfl
  · exact Nat.lt_of_le_of_lt bound (by decide)
  · exact Nat.lt_of_le_of_lt bound (by decide)
  · exact Nat.lt_of_le_of_lt bound (by decide)
  · decide

/-- The capital of a small letter is a capital letter. -/
theorem isAsciiUpper_capital {c : Char} (small : Text.isAsciiLower c = true) :
    Text.isAsciiUpper (Char.ofNat (c.toNat - 32)) = true := by
  have word : isWord c = true := by
    simp [isWord, Text.isAsciiAlphanumeric, Text.isAsciiLetter, small]
  have all : ∀ number < 128, Text.isAsciiLower (Char.ofNat number) = true →
      Text.isAsciiUpper (Char.ofNat (number - 32)) = true := by
    decide
  refine all c.toNat (toNat_lt_of_isWord word) ?_
  rwa [Char.ofNat_toNat]

/-- A letter or an underscore in capitals is a letter or an underscore, and a digit is a
digit. -/
theorem toUppercase_of_isWord {c : Char} (word : isWord c = true) :
    ∃ capital, Text.toUppercase c = [capital] ∧ isWord capital = true ∧
      ((Text.isAsciiLetter c || c == '_') = true →
        (Text.isAsciiLetter capital || capital == '_') = true) := by
  rw [Text.toUppercase, if_pos (toNat_lt_of_isWord word)]
  cases small : Text.isAsciiLower c with
  | false => exact ⟨c, rfl, word, id⟩
  | true =>
      have letter : Text.isAsciiLetter (Char.ofNat (c.toNat - 32)) = true := by
        rw [Text.isAsciiLetter, isAsciiUpper_capital small, Bool.or_true]
      refine ⟨Char.ofNat (c.toNat - 32), rfl, ?_, fun _ => ?_⟩
      · rw [isWord, Text.isAsciiAlphanumeric, letter, Bool.true_or, Bool.true_or]
      · rw [letter, Bool.true_or]

theorem isIdentifier_iff {identifier : String} :
    IsIdentifier identifier ↔
      (∃ first rest, identifier.toList = first :: rest ∧
        (Text.isAsciiLetter first || first == '_') = true ∧
          (first :: rest).all isWord = true) ∧
        reserved.contains identifier = false := by
  rw [IsIdentifier, objection?]
  cases shape : identifier.toList with
  | nil => simp
  | cons first rest =>
      dsimp only
      change (if (!_) = true then _ else if (!(first :: rest).all isWord) = true then _
        else _) = none ↔ _
      have same : ∀ other others, first :: rest = other :: others ↔ other = first ∧
          others = rest := by
        intro other others
        rw [List.cons.injEq, eq_comm, @eq_comm _ rest]
      simp only [same, and_assoc, exists_and_left, exists_eq_left]
      generalize (Text.isAsciiLetter first || first == '_') = letter
      generalize (first :: rest).all isWord = word
      generalize reserved.contains identifier = isReserved
      cases letter <;> cases word <;> cases isReserved <;> simp

/-- An identifier is made of letters, digits and underscores. -/
theorem IsIdentifier.isWord {identifier : String} (legal : IsIdentifier identifier) :
    ∀ c ∈ identifier.toList, isWord c = true := by
  obtain ⟨⟨first, rest, shape, -, word⟩, -⟩ := isIdentifier_iff.mp legal
  rwa [shape, ← List.all_eq_true]

theorem IsIdentifier.toList_ne_nil {identifier : String} (legal : IsIdentifier identifier) :
    identifier.toList ≠ [] := by
  obtain ⟨⟨first, rest, shape, -⟩, -⟩ := isIdentifier_iff.mp legal
  simp [shape]

theorem IsIdentifier.not_mem_slash {identifier : String} (legal : IsIdentifier identifier) :
    '/' ∉ identifier.toList := by
  intro member
  have word := legal.isWord '/' member
  simp [Naming.isWord, Text.isAsciiAlphanumeric, Text.isAsciiLetter, Text.isAsciiLower,
    Text.isAsciiUpper, Text.isDigit] at word

theorem IsIdentifier.not_mem_dot {identifier : String} (legal : IsIdentifier identifier) :
    '.' ∉ identifier.toList := by
  intro member
  have word := legal.isWord '.' member
  simp [Naming.isWord, Text.isAsciiAlphanumeric, Text.isAsciiLetter, Text.isAsciiLower,
    Text.isAsciiUpper, Text.isDigit] at word

/-- No reserved word ends in a digit. -/
theorem not_isDigit_getLast?_reserved :
    ∀ word ∈ reserved, ∀ c, word.toList.getLast? = some c → Text.isDigit c = false := by
  have all : ∀ word ∈ reserved, word.toList.getLast?.any Text.isDigit = false := by decide
  intro word member c last
  have digit := all word member
  rw [last] at digit
  exact digit

/-- An identifier with a numeric suffix is an identifier. -/
theorem IsIdentifier.suffixed {base separator : String} (legal : IsIdentifier base)
    (word : ∀ c ∈ separator.toList, Naming.isWord c = true) (number : Nat) :
    IsIdentifier (Scope.suffixed base separator number) := by
  have whole : (Scope.suffixed base separator number).toList =
      base.toList ++ separator.toList ++ (Text.natural number).toList := by
    simp [Scope.suffixed]
  obtain ⟨⟨first, rest, shape, letter, words⟩, -⟩ := isIdentifier_iff.mp legal
  refine isIdentifier_iff.mpr ⟨⟨first, rest ++ separator.toList ++
    (Text.natural number).toList, by simp [whole, shape], letter, ?_⟩, ?_⟩
  · rw [← List.cons_append, ← List.cons_append, List.all_append, List.all_append, words,
      List.all_eq_true.mpr word, Bool.true_and, Bool.true_and, List.all_eq_true]
    intro c member
    simp [Naming.isWord, Text.isAsciiAlphanumeric, Text.isDigit_of_mem_natural member]
  · rw [Bool.eq_false_iff]
    intro isReserved
    have last : (Scope.suffixed base separator number).toList.getLast? =
        some ((Text.natural number).toList.getLast (Text.natural_ne_nil number)) := by
      rw [whole, List.getLast?_append_of_ne_nil _ (Text.natural_ne_nil number),
        List.getLast?_eq_some_getLast]
    have digit := not_isDigit_getLast?_reserved _ (by simpa using isReserved) _ last
    rw [Text.isDigit_of_mem_natural (List.getLast_mem _)] at digit
    cases digit

/-- A name of letters, digits and underscores that does not begin with a digit and is not
reserved. -/
structure IsLegal (name : String) : Prop where
  filled : name ≠ ""
  words : ∀ c ∈ name.toList, isWord c = true
  start : ∀ c, name.toList.head? = some c → Text.isDigit c = false
  free : name ∉ reserved

theorem not_isDigit_iff {c : Char} (word : isWord c = true) :
    Text.isDigit c = false ↔ (Text.isAsciiLetter c || c == '_') = true := by
  constructor
  · intro other
    rwa [isWord, Text.isAsciiAlphanumeric, other, Bool.or_false] at word
  · intro letter
    rw [Bool.eq_false_iff]
    intro digit
    simp only [Text.isDigit, Text.isAsciiLetter, Text.isAsciiLower, Text.isAsciiUpper,
      Bool.or_eq_true, Bool.and_eq_true, decide_eq_true_eq, beq_iff_eq, Char.le_def,
      UInt32.le_iff_toNat_le] at digit letter
    have nine : '9'.val.toNat = 57 := rfl
    rcases letter with (⟨small, -⟩ | ⟨capital, -⟩) | rfl
    · have first : 'a'.val.toNat = 97 := rfl
      omega
    · have first : 'A'.val.toNat = 65 := rfl
      omega
    · exact absurd digit (by decide)

/-- The identifiers are the names that are legal. -/
theorem isIdentifier_iff_isLegal {name : String} : IsIdentifier name ↔ IsLegal name := by
  rw [isIdentifier_iff, List.contains_eq_mem, decide_eq_false_iff_not]
  constructor
  · rintro ⟨⟨first, rest, shape, letter, words⟩, free⟩
    rw [List.all_eq_true] at words
    refine ⟨?_, ?_, ?_, free⟩
    · rintro rfl
      cases shape
    · rw [shape]
      exact words
    · rw [shape]
      rintro c ⟨⟩
      exact (not_isDigit_iff (words first List.mem_cons_self)).mpr letter
  · rintro ⟨filled, words, start, free⟩
    refine ⟨?_, free⟩
    cases shape : name.toList with
    | nil => exact absurd (String.toList_eq_nil_iff.mp shape) filled
    | cons first rest =>
        rw [shape] at words start
        refine ⟨first, rest, rfl, ?_, List.all_eq_true.mpr words⟩
        exact (not_isDigit_iff (words first List.mem_cons_self)).mp (start first rfl)

/-! ## Claims -/

namespace Scope

/-- The loop that looks for a free name with a counter of 32 bits, which must not overflow:
started with `number` it ends with `last`. -/
inductive Counts (scope : Scope) (base separator : String) : UInt32 → UInt32 → Prop
  | free {number : UInt32} (free : suffixed base separator number.toNat ∉ scope) :
      Counts scope base separator number number
  | taken {number last : UInt32} (taken : suffixed base separator number.toNat ∈ scope)
      (bounded : number.toNat + 1 < UInt32.size)
      (rest : Counts scope base separator (number + 1) last) :
      Counts scope base separator number last

/-- What a claim on `base` is to yield: a free name, which is `base` itself or `base` with
the least free suffix from two on. -/
structure IsClaim (scope : Scope) (base separator name : String) (later : Scope) : Prop where
  fresh : name ∉ scope
  claimed : later = name :: scope
  asked : base ∉ scope → name = base
  counted : base ∈ scope →
    ∃ number : UInt32, Counts scope base separator 2 number ∧
      name = suffixed base separator number.toNat ∧ 2 ≤ number.toNat ∧
      ∀ other, 2 ≤ other → other < number.toNat → suffixed base separator other ∈ scope

variable {scope : Scope} {base separator : String}

theorem suffixed_inj {number other : Nat}
    (same : suffixed base separator number = suffixed base separator other) :
    number = other := by
  apply Text.natural_inj
  simpa [suffixed] using same

/-- A search passes taken names only, and unless it has to end it ends with a free one. -/
theorem exists_firstFree_eq (scope : Scope) (base separator : String) (number fuel : Nat) :
    ∃ last, number ≤ last ∧ last ≤ number + fuel ∧
      firstFree scope base separator number fuel = suffixed base separator last ∧
      (∀ other, number ≤ other → other < last → suffixed base separator other ∈ scope) ∧
      (suffixed base separator last ∈ scope → last = number + fuel) := by
  induction fuel generalizing number with
  | zero => exact ⟨number, Nat.le_refl _, Nat.le_refl _, rfl, by omega, fun _ => rfl⟩
  | succ fuel ih =>
      rw [firstFree]
      split
      · next taken =>
          obtain ⟨last, after, bound, found, passed, ended⟩ := ih (number + 1)
          refine ⟨last, by omega, by omega, found, ?_, fun here => ?_⟩
          · intro other atLeast below
            rcases Nat.eq_or_lt_of_le atLeast with rfl | later
            · simpa using taken
            · exact passed other later below
          · rw [ended here, Nat.add_right_comm, Nat.add_assoc]
      · next free =>
          refine ⟨number, Nat.le_refl _, by omega, rfl, by omega, fun here => ?_⟩
          exact absurd here (by simpa using free)

/-- A claimed name was not taken. -/
theorem freeName_not_mem (scope : Scope) (base separator : String) :
    freeName scope base separator ∉ scope := by
  unfold freeName
  split
  · intro taken
    obtain ⟨last, -, -, found, passed, ended⟩ :=
      exists_firstFree_eq scope base separator 2 scope.length
    rw [found] at taken
    obtain rfl := ended taken
    have distinct : ((List.range (scope.length + 1)).map fun offset =>
        suffixed base separator (2 + offset)).Nodup := by
      refine List.Nodup.map ?_ List.nodup_range
      intro offset other same
      have := suffixed_inj same
      omega
    have inside : ((List.range (scope.length + 1)).map fun offset =>
        suffixed base separator (2 + offset)) ⊆ scope := by
      intro name member
      obtain ⟨offset, inRange, rfl⟩ := List.mem_map.mp member
      rcases Nat.eq_or_lt_of_le (Nat.lt_succ_iff.mp (List.mem_range.mp inRange)) with rfl | below
      · exact taken
      · exact passed _ (by omega) (by omega)
    have fewer := (List.subperm_of_subset distinct inside).length_le
    rw [List.length_map, List.length_range] at fewer
    omega
  · next free => simpa using free

/-- A claim yields what is asked for, or it with a suffix. -/
theorem freeName_eq (scope : Scope) (base separator : String) :
    freeName scope base separator = base ∨
      ∃ number, freeName scope base separator = suffixed base separator number := by
  unfold freeName
  split
  · obtain ⟨last, -, -, found, -⟩ :=
      exists_firstFree_eq scope base separator 2 scope.length
    exact .inr ⟨last, found⟩
  · exact .inl rfl

/-- A claimed name is an identifier if what is asked for is one. -/
theorem isIdentifier_freeName (legal : IsIdentifier base)
    (word : ∀ c ∈ separator.toList, isWord c = true) :
    IsIdentifier (freeName scope base separator) := by
  rcases freeName_eq scope base separator with same | ⟨number, same⟩
  · rwa [same]
  · rw [same]
    exact legal.suffixed word number

/-- The loop ends when it passes taken names only, as long as its counter does not
overflow. -/
theorem counts_of_passed {number last : Nat} (atMost : number ≤ last)
    (bounded : last < UInt32.size) (free : suffixed base separator last ∉ scope)
    (passed : ∀ other, number ≤ other → other < last →
      suffixed base separator other ∈ scope) :
    Counts scope base separator (.ofNat number) (.ofNat last) := by
  induction atMost using Nat.decreasingInduction with
  | self => exact .free (by rwa [UInt32.toNat_ofNat_of_lt' bounded])
  | of_succ number below ih =>
      have counter : (UInt32.ofNat number).toNat = number :=
        UInt32.toNat_ofNat_of_lt' (by omega)
      refine .taken ?_ ?_ ?_
      · rw [counter]
        exact passed number (Nat.le_refl _) below
      · rw [counter]
        omega
      · have step : UInt32.ofNat number + 1 = UInt32.ofNat (number + 1) := by
          rw [UInt32.ofNat_add]
          rfl
        rw [step]
        exact ih fun other atLeast => passed other (by omega)

/-- Claiming a name ends in every scope of fewer names than there are counters, and yields
what it should. -/
theorem isClaim_claim (scope : Scope) (base separator : String)
    (bounded : scope.length < 2 ^ 32 - 2) :
    IsClaim scope base separator (scope.claim base separator).1
      (scope.claim base separator).2 where
  fresh := freeName_not_mem scope base separator
  claimed := rfl
  asked := fun free => freeName_of_not_mem free separator
  counted := by
    intro taken
    have searched : (scope.claim base separator).1 =
        firstFree scope base separator 2 scope.length := by
      simp [claim, freeName, taken]
    obtain ⟨last, atLeast, atMost, found, passed, -⟩ :=
      exists_firstFree_eq scope base separator 2 scope.length
    have free : suffixed base separator last ∉ scope := by
      rw [← found, ← searched]
      exact freeName_not_mem scope base separator
    have inRange : last < UInt32.size := by
      have : UInt32.size = 2 ^ 32 := rfl
      omega
    refine ⟨.ofNat last, counts_of_passed atLeast inRange free passed, ?_, ?_, ?_⟩
    all_goals rw [UInt32.toNat_ofNat_of_lt' inRange]
    · rw [searched, found]
    · exact atLeast
    · exact passed

end Scope

end Naming

end FlatMessage
