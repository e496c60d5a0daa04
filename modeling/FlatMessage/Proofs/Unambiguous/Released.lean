import FlatMessage.Delimiter.Escape
import FlatMessage.Text.Split
import Mathlib.Data.List.Nodup

/-!
# Released characters

A delimiter table with an escape marks text by single characters.  The character after
an escape is released: it belongs to the text around it, whatever it is.  A text is cut
at the marks that are not released, and taking the escapes out of a part gives back what
was written there.

Escaping a value leaves no mark in it that is not released.
-/

namespace FlatMessage.Delimiter

/-! ## Reading released characters -/

/-- Cut at the characters `mark` that are not released; `released` says whether the next
character is. -/
def cutFrom (escape mark : Char) (released : Bool) : List Char → List (List Char)
  | [] => [[]]
  | c :: rest =>
      if released then (cutFrom escape mark false rest).modifyHead (c :: ·)
      else if c = escape then (cutFrom escape mark true rest).modifyHead (c :: ·)
      else if c = mark then [] :: cutFrom escape mark false rest
      else (cutFrom escape mark false rest).modifyHead (c :: ·)

/-- Cut a text at the characters `mark` that are not released. -/
def cut (escape mark : Char) (chars : List Char) : List (List Char) :=
  cutFrom escape mark false chars

/-- Take the escapes out of a text; `released` says whether the next character is
released. -/
def unescapeFrom (escape : Char) (released : Bool) : List Char → List Char
  | [] => []
  | c :: rest =>
      if released then c :: unescapeFrom escape false rest
      else if c = escape then unescapeFrom escape true rest
      else c :: unescapeFrom escape false rest

/-- Take the escapes out of a text. -/
def unescape (escape : Char) (chars : List Char) : List Char :=
  unescapeFrom escape false chars

/-! ## Texts without marks -/

/-- A text in which every escape releases a character, and in which the characters that
are not released are allowed. -/
inductive Closed (escape : Char) (allowed : Char → Prop) : List Char → Prop
  | nil : Closed escape allowed []
  | plain {c : Char} {rest : List Char} (isAllowed : allowed c) (other : c ≠ escape)
      (closed : Closed escape allowed rest) : Closed escape allowed (c :: rest)
  | released {c : Char} {rest : List Char} (closed : Closed escape allowed rest) :
      Closed escape allowed (escape :: c :: rest)

namespace Closed

variable {escape mark : Char} {allowed wider : Char → Prop} {first second : List Char}

theorem append (firstClosed : Closed escape allowed first)
    (secondClosed : Closed escape allowed second) :
    Closed escape allowed (first ++ second) := by
  induction firstClosed with
  | nil => exact secondClosed
  | plain isAllowed other closed ih => exact .plain isAllowed other ih
  | released closed ih => exact .released ih

theorem mono (closed : Closed escape allowed first)
    (widen : ∀ c, allowed c → wider c) : Closed escape wider first := by
  induction closed with
  | nil => exact .nil
  | plain isAllowed other closed ih => exact .plain (widen _ isAllowed) other ih
  | released closed ih => exact .released ih

/-- A text without escapes is closed if its characters are allowed. -/
theorem of_forall {chars : List Char} (each : ∀ c ∈ chars, allowed c ∧ c ≠ escape) :
    Closed escape allowed chars := by
  induction chars with
  | nil => exact .nil
  | cons c rest ih =>
      rw [List.forall_mem_cons] at each
      exact .plain each.1.1 each.1.2 (ih each.2)

/-- A text without a mark goes to the first part. -/
theorem cut_append (closed : Closed escape (· ≠ mark) first) (rest : List Char) :
    cut escape mark (first ++ rest) = (cut escape mark rest).modifyHead (first ++ ·) := by
  induction closed with
  | nil =>
      rw [List.nil_append]
      cases cut escape mark rest <;> rfl
  | @plain c inner isAllowed other closed ih =>
      have step : cut escape mark (c :: inner ++ rest) =
          (cut escape mark (inner ++ rest)).modifyHead (c :: ·) := by
        simp [cut, cutFrom, other, isAllowed]
      rw [step, ih, List.modifyHead_modifyHead]
      rfl
  | @released c inner closed ih =>
      have step : cut escape mark (escape :: c :: inner ++ rest) =
          ((cut escape mark (inner ++ rest)).modifyHead (c :: ·)).modifyHead
            (escape :: ·) := by
        simp [cut, cutFrom]
      rw [step, ih, List.modifyHead_modifyHead, List.modifyHead_modifyHead]
      rfl

/-- A text without a mark is not cut. -/
theorem cut_eq (closed : Closed escape (· ≠ mark) first) :
    cut escape mark first = [first] := by
  have none : cut escape mark [] = [[]] := rfl
  have whole := closed.cut_append []
  rwa [none, List.append_nil, List.modifyHead_cons, List.append_nil] at whole

/-- A text without a mark is cut off at a mark after it. -/
theorem cut_append_mark (closed : Closed escape (· ≠ mark) first) (other : mark ≠ escape)
    (rest : List Char) :
    cut escape mark (first ++ mark :: rest) = first :: cut escape mark rest := by
  have step : cut escape mark (mark :: rest) = [] :: cut escape mark rest := by
    simp [cut, cutFrom, other]
  rw [closed.cut_append, step, List.modifyHead_cons, List.append_nil]

end Closed

/-- A text without escapes is left as it is. -/
theorem unescape_eq_self {escape : Char} {chars : List Char}
    (plain : ∀ c ∈ chars, c ≠ escape) : unescape escape chars = chars := by
  induction chars with
  | nil => rfl
  | cons c rest ih =>
      rw [List.forall_mem_cons] at plain
      rw [unescape] at ih
      rw [unescape, unescapeFrom, if_neg Bool.false_ne_true, if_neg plain.1, ih plain.2]

/-! ## Joined texts -/

theorem toList_join_cons_cons (mark : Char) (text next : String) (others : List String) :
    (Text.join (String.singleton mark) (text :: next :: others)).toList =
      text.toList ++ mark ::
        (Text.join (String.singleton mark) (next :: others)).toList := by
  have joined : Text.join (String.singleton mark) (text :: next :: others) =
      text ++ String.singleton mark ++
        Text.join (String.singleton mark) (next :: others) := rfl
  rw [joined, String.toList_append, String.toList_append, String.toList_singleton,
    List.append_assoc, List.singleton_append]

/-- What is joined from closed texts is closed if the mark is allowed. -/
theorem closed_join {escape mark : Char} {allowed : Char → Prop} (other : mark ≠ escape)
    (isAllowed : allowed mark) {texts : List String}
    (closed : ∀ text ∈ texts, Closed escape allowed text.toList) :
    Closed escape allowed (Text.join (String.singleton mark) texts).toList := by
  induction texts with
  | nil => exact .nil
  | cons text rest ih =>
      rw [List.forall_mem_cons] at closed
      cases rest with
      | nil => exact closed.1
      | cons next others =>
          rw [toList_join_cons_cons]
          exact closed.1.append (.plain isAllowed other (ih closed.2))

/-- Texts without a mark are given back when what is joined is cut. -/
theorem cut_join {escape mark : Char} (other : mark ≠ escape) {texts : List String}
    (filled : texts ≠ []) (closed : ∀ text ∈ texts, Closed escape (· ≠ mark) text.toList) :
    cut escape mark (Text.join (String.singleton mark) texts).toList =
      texts.map String.toList := by
  induction texts with
  | nil => contradiction
  | cons text rest ih =>
      rw [List.forall_mem_cons] at closed
      cases rest with
      | nil => exact closed.1.cut_eq
      | cons next others =>
          rw [toList_join_cons_cons, closed.1.cut_append_mark other,
            ih (List.cons_ne_nil next others) closed.2]
          rfl

/-! ## Tables of single characters -/

/-- The marks of a table: the structural levels that are used and the escape are single
characters, no two of them the same. -/
structure Marks (table : Table) where
  segment : Char
  field : Char
  fieldRepeat : Option Char
  component : Char
  subComponent : Char
  escape : Char
  segment_eq : table.segment = String.singleton segment
  field_eq : table.field = String.singleton field
  fieldRepeat_eq : table.fieldRepeat = fieldRepeat.elim "" String.singleton
  component_eq : table.component = String.singleton component
  subComponent_eq : table.subComponent = String.singleton subComponent
  escape_eq : table.escape = some (String.singleton escape)
  distinct : ([segment, field] ++ fieldRepeat.toList ++
    [component, subComponent, escape]).Nodup

namespace Marks

variable {table : Table} (marks : Marks table)

/-- The characters that a value must not have unreleased. -/
def all : List Char :=
  [marks.segment, marks.field] ++ marks.fieldRepeat.toList ++
    [marks.component, marks.subComponent, marks.escape]

/-- A character written into a text: marks are released. -/
def release (c : Char) : List Char :=
  if c ∈ marks.all then [marks.escape, c] else [c]

end Marks

section

variable {specials : List (List Char)}

/-- Special texts of single characters match such a character alone. -/
theorem match?_of_singletons (single : ∀ special ∈ specials, ∃ mark, special = [mark])
    (c : Char) (rest : List Char) :
    Escape.match? specials (c :: rest) = if [c] ∈ specials then some ([c], rest) else none := by
  induction specials with
  | nil => rfl
  | cons special others ih =>
      rw [List.forall_mem_cons] at single
      obtain ⟨⟨mark, rfl⟩, single⟩ := single
      rw [Escape.match?] at ih
      rw [Escape.match?, List.findSome?_cons, ih single]
      by_cases same : mark = c
      · subst same
        simp [List.isPrefixOf?]
      · have apart : c ≠ mark := Ne.symm same
        simp [List.isPrefixOf?, same, apart]

/-- Special texts of single characters are released one by one. -/
theorem chars_of_singletons (single : ∀ special ∈ specials, ∃ mark, special = [mark])
    (escape text : List Char) :
    Escape.chars escape specials 0 text =
      text.flatMap fun c => if [c] ∈ specials then escape ++ [c] else [c] := by
  induction text with
  | nil => rfl
  | cons c rest ih =>
      rw [Escape.chars, match?_of_singletons single, List.flatMap_cons, ← ih]
      by_cases special : [c] ∈ specials <;> simp [special]

end

namespace Marks

variable {table : Table} (marks : Marks table)

/-- The special texts of the table are its marks. -/
theorem mem_specials_iff (special : List Char) :
    special ∈ (Escape.specials table (String.singleton marks.escape)).map String.toList ↔
      ∃ mark ∈ marks.all, special = [mark] := by
  have used : (Level.structural.map table.get).filter (· ≠ "") ++
      [String.singleton marks.escape] = marks.all.map String.singleton := by
    have levels : Level.structural.map table.get =
        [table.segment, table.field, table.fieldRepeat, table.component,
          table.subComponent] := rfl
    have filled : ∀ c, String.singleton c ≠ "" := by
      intro c
      simp
    rw [levels, marks.segment_eq, marks.field_eq, marks.fieldRepeat_eq, marks.component_eq,
      marks.subComponent_eq, all]
    cases marks.fieldRepeat <;> simp [filled]
  rw [Escape.specials, used, Escape.longestFirst, List.mem_map]
  simp only [List.mem_mergeSort, List.mem_map]
  constructor
  · rintro ⟨_, ⟨mark, member, rfl⟩, rfl⟩
    exact ⟨mark, member, String.toList_singleton mark⟩
  · rintro ⟨mark, member, rfl⟩
    exact ⟨_, ⟨mark, member, rfl⟩, String.toList_singleton mark⟩

/-- A value is written with every mark in it released. -/
theorem toList_escapeText (text : String) :
    (table.escapeText text).toList = text.toList.flatMap marks.release := by
  have release : table.release? = some (String.singleton marks.escape) := by
    rw [Table.release?, marks.escape_eq]
    simp
  have single : ∀ special ∈
      (Escape.specials table (String.singleton marks.escape)).map String.toList,
      ∃ mark, special = [mark] := by
    intro special member
    obtain ⟨mark, -, same⟩ := (marks.mem_specials_iff special).mp member
    exact ⟨mark, same⟩
  rw [Table.escapeText, release]
  dsimp only
  rw [String.toList_ofList, chars_of_singletons single]
  apply List.flatMap_congr
  intro c _
  rw [Marks.release]
  simp only [marks.mem_specials_iff, String.toList_singleton]
  simp

/-- A character that is not a mark, or one of `finer`. -/
def Within (finer : List Char) (c : Char) : Prop :=
  c ∉ marks.all ∨ c ∈ finer

theorem escape_mem_all : marks.escape ∈ marks.all := by
  simp [all]

/-- An escaped text has no mark that is not released. -/
theorem closed_flatMap_release (chars : List Char) :
    Closed marks.escape (marks.Within []) (chars.flatMap marks.release) := by
  induction chars with
  | nil => exact .nil
  | cons c rest ih =>
      rw [List.flatMap_cons, release]
      split
      · exact .released ih
      · next bare =>
          have other : c ≠ marks.escape := by
            rintro rfl
            exact bare marks.escape_mem_all
          exact .plain (.inl bare) other ih

/-- Taking the escapes out of an escaped text gives the text back. -/
theorem unescape_flatMap_release (chars : List Char) :
    unescape marks.escape (chars.flatMap marks.release) = chars := by
  induction chars with
  | nil => rfl
  | cons c rest ih =>
      rw [unescape] at ih
      rw [unescape, List.flatMap_cons, release]
      split
      · simp [unescapeFrom, ih]
      · next bare =>
          have other : c ≠ marks.escape := by
            rintro rfl
            exact bare marks.escape_mem_all
          simp [unescapeFrom, other, ih]

/-- The marks that separate and the escape are different characters. -/
theorem nodup_separators :
    [marks.segment, marks.field, marks.component, marks.subComponent, marks.escape].Nodup := by
  exact marks.distinct.sublist (by simp)

end Marks

end FlatMessage.Delimiter
