import FlatMessage.Text.Blank
import Mathlib.Data.List.DropRight

/-!
# Trimming

What trimming leaves has no blank ends, and only blank characters were around it.  Both
together determine it.
-/

namespace FlatMessage.Text

/-- All characters are blank. -/
def IsBlank (chars : List Char) : Prop :=
  ∀ c ∈ chars, isBlank c = true

/-- Neither the first nor the last character is blank. -/
structure IsTrimmed (chars : List Char) : Prop where
  head : ∀ c ∈ chars.head?, isBlank c = false
  last : ∀ c ∈ chars.getLast?, isBlank c = false

instance (chars : List Char) : Decidable (IsBlank chars) :=
  decidable_of_iff (chars.all isBlank = true) List.all_eq_true

instance (chars : List Char) : Decidable (IsTrimmed chars) :=
  decidable_of_iff
    ((chars.head?.all fun c => !isBlank c) = true ∧ (chars.getLast?.all fun c => !isBlank c) = true)
    ⟨fun ⟨head, last⟩ => ⟨by simpa [Option.all_eq_true] using head,
        by simpa [Option.all_eq_true] using last⟩,
      fun trimmed => ⟨by simpa [Option.all_eq_true] using trimmed.head,
        by simpa [Option.all_eq_true] using trimmed.last⟩⟩

theorem isBlank_nil : IsBlank [] :=
  nofun

theorem isTrimmed_nil : IsTrimmed [] :=
  ⟨nofun, nofun⟩

theorem IsBlank.append {chars more : List Char} (blank : IsBlank chars) (later : IsBlank more) :
    IsBlank (chars ++ more) := by
  intro c member
  rcases List.mem_append.mp member with first | second
  · exact blank c first
  · exact later c second

/-- Characters without blanks have no blank ends. -/
theorem isTrimmed_of_forall {chars : List Char} (none : ∀ c ∈ chars, isBlank c = false) :
    IsTrimmed chars :=
  ⟨fun c first => none c (List.mem_of_mem_head? first),
    fun c last => none c (List.mem_of_mem_getLast? last)⟩

theorem trimChars_eq (chars : List Char) :
    trimChars chars = (chars.dropWhile isBlank).rdropWhile isBlank :=
  rfl

/-- Trimming leaves no blank ends. -/
theorem isTrimmed_trimChars (chars : List Char) : IsTrimmed (trimChars chars) where
  head c first := by
    rw [trimChars_eq] at first
    obtain ⟨ending, whole⟩ := List.rdropWhile_prefix isBlank (l := chars.dropWhile isBlank)
    have start : (chars.dropWhile isBlank).head? = some c := by
      rw [← whole, List.head?_append, Option.mem_def.mp first]
      rfl
    have kept := List.head?_dropWhile_not isBlank chars
    rw [start] at kept
    simpa using kept
  last c last := by
    have kept := List.head?_dropWhile_not isBlank (chars.dropWhile isBlank).reverse
    rw [trimChars, List.getLast?_reverse] at last
    rw [Option.mem_def.mp last] at kept
    simpa using kept

/-- Only blank characters are trimmed. -/
theorem exists_blanks (chars : List Char) :
    ∃ before after, IsBlank before ∧ IsBlank after ∧
      chars = before ++ trimChars chars ++ after := by
  refine ⟨chars.takeWhile isBlank, (chars.dropWhile isBlank).rtakeWhile isBlank,
    fun c => List.mem_takeWhile_imp, fun c => List.mem_rtakeWhile_imp, ?_⟩
  rw [trimChars_eq, List.append_assoc, List.rdropWhile_append_rtakeWhile,
    List.takeWhile_append_dropWhile]

/-- Blank characters around what has no blank ends are trimmed. -/
theorem trimChars_append {before core after : List Char} (blank : IsBlank before)
    (trimmed : IsTrimmed core) (later : IsBlank after) :
    trimChars (before ++ core ++ after) = core := by
  rw [trimChars, List.append_assoc, List.dropWhile_append_of_pos blank]
  cases core with
  | nil =>
      rw [List.nil_append, List.dropWhile_eq_nil_iff.mpr later]
      rfl
  | cons c rest =>
      have start : isBlank c = false := trimmed.head c rfl
      have ending : ((c :: rest).reverse.dropWhile isBlank).reverse = c :: rest := by
        rw [← List.rdropWhile, List.rdropWhile_eq_self_iff]
        intro some_
        rw [trimmed.last _ (List.getLast?_eq_getLast_of_ne_nil some_)]
        decide
      rw [List.cons_append, List.dropWhile_cons_of_neg (by simp [start]), ← List.cons_append,
        List.reverse_append,
        List.dropWhile_append_of_pos fun c member => later c (List.mem_reverse.mp member), ending]

/-- Trimming leaves what has no blank ends and only blank characters around it. -/
theorem trimChars_eq_iff {chars core : List Char} :
    trimChars chars = core ↔ IsTrimmed core ∧
      ∃ before after, IsBlank before ∧ IsBlank after ∧ chars = before ++ core ++ after := by
  constructor
  · rintro rfl
    exact ⟨isTrimmed_trimChars chars, exists_blanks chars⟩
  · rintro ⟨trimmed, before, after, blank, later, rfl⟩
    exact trimChars_append blank trimmed later

/-- Blank characters around a text have no part in what trimming leaves of it. -/
theorem trimChars_blanks {before after : List Char} (blank : IsBlank before)
    (later : IsBlank after) (chars : List Char) :
    trimChars (before ++ chars ++ after) = trimChars chars := by
  obtain ⟨first, last, firstBlank, lastBlank, whole⟩ := exists_blanks chars
  have spread : before ++ chars ++ after =
      before ++ first ++ trimChars chars ++ (last ++ after) := by
    conv_lhs => rw [whole]
    simp only [List.append_assoc]
  rw [spread, trimChars_append (blank.append firstBlank) (isTrimmed_trimChars chars)
    (lastBlank.append later)]

/-- Only blank characters are trimmed to nothing. -/
theorem trimChars_eq_nil_iff {chars : List Char} : trimChars chars = [] ↔ IsBlank chars := by
  rw [trimChars_eq_iff]
  constructor
  · rintro ⟨-, before, after, blank, later, rfl⟩
    rw [List.append_nil]
    exact blank.append later
  · intro blank
    exact ⟨isTrimmed_nil, chars, [], blank, isBlank_nil, by simp⟩

/-- What has no blank ends is left as it is. -/
theorem trimChars_of_isTrimmed {chars : List Char} (trimmed : IsTrimmed chars) :
    trimChars chars = chars :=
  trimChars_eq_iff.mpr ⟨trimmed, [], [], isBlank_nil, isBlank_nil, by simp⟩

end FlatMessage.Text
