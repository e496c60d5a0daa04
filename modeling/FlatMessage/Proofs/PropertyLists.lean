import FlatMessage.Encoder.Options
import FlatMessage.Proofs.Lookups.Tables
import FlatMessage.Proofs.Pieces
import FlatMessage.Proofs.Places.Walking
import FlatMessage.Proofs.Trimming

/-!
# Property lists read back

A table of options is written as a property list: entries between semicolons or line
feeds, in any order, with blank entries among them and blank space around keys and values.
Every such list is read as the table, and reading yields only tables that can be written.

Reading fails at the first entry that is not blank and has no key: it has no equals sign,
or only blank space before the first one.
-/

namespace FlatMessage

namespace Text

/-- A cut is made at the first mark. -/
theorem cutChars?_eq_some_iff {mark : Char} {chars before after : List Char} :
    cutChars? mark chars = some (before, after) ↔
      chars = before ++ mark :: after ∧ mark ∉ before := by
  constructor
  · intro cut
    refine ⟨eq_append_of_cutChars? cut, ?_⟩
    induction chars generalizing before with
    | nil => cases cut
    | cons c rest ih =>
        rw [cutChars?] at cut
        split at cut
        · cases cut
          exact List.not_mem_nil
        · next other =>
            obtain ⟨parts, found, whole⟩ := Option.map_eq_some_iff.mp cut
            cases whole
            rw [List.mem_cons, not_or]
            exact ⟨Ne.symm other, ih found⟩
  · rintro ⟨rfl, absent⟩
    induction before with
    | nil => simp [cutChars?]
    | cons c rest ih =>
        rw [List.mem_cons, not_or] at absent
        rw [List.cons_append, cutChars?, if_neg (Ne.symm absent.1), ih absent.2]
        rfl

theorem cutChars?_eq_none_iff {mark : Char} {chars : List Char} :
    cutChars? mark chars = none ↔ mark ∉ chars := by
  constructor
  · intro none_ member
    obtain ⟨before, after, whole, absent⟩ := List.eq_append_cons_of_mem member
    rw [cutChars?_eq_some_iff.mpr ⟨whole, absent⟩] at none_
    cases none_
  · intro absent
    cases cut : cutChars? mark chars with
    | none => rfl
    | some parts =>
        have whole : chars = parts.1 ++ mark :: parts.2 := eq_append_of_cutChars? cut
        rw [whole] at absent
        simp at absent

/-- Either a text has no mark and is one piece, or it is cut at its first mark. -/
theorem splitChars_cases (isMark : Char → Bool) (chars : List Char) :
    (∀ c ∈ chars, isMark c = false) ∧ splitChars isMark chars = [chars] ∨
      ∃ first mark rest, chars = first ++ mark :: rest ∧ isMark mark = true ∧
        (∀ c ∈ first, isMark c = false) ∧
        splitChars isMark chars = first :: splitChars isMark rest := by
  cases found : chars.find? isMark with
  | none =>
      have plain : ∀ c ∈ chars, isMark c = false := by simpa using found
      exact .inl ⟨plain, splitChars_of_forall_not plain⟩
  | some mark =>
      obtain ⟨marks, first, rest, rfl, plain⟩ := List.find?_eq_some_iff_append.mp found
      have plain : ∀ c ∈ first, isMark c = false := by simpa using plain
      refine .inr ⟨first, mark, rest, rfl, marks, plain, ?_⟩
      rw [splitChars_append marks, splitChars_of_forall_not plain, List.singleton_append]

end Text

namespace Keyed

variable {α : Type}

/-- The last binding of a key wins. -/
theorem get?_ofList_eq (key : String) (bindings : List (String × α)) :
    get? key (ofList bindings) =
      (bindings.filter fun binding => binding.1 = key).getLast?.map Prod.snd := by
  induction bindings using List.reverseRecOn with
  | nil => rfl
  | append_singleton bindings last ih =>
      rw [ofList_concat, List.filter_append]
      by_cases same : last.1 = key
      · subst same
        simp
      · rw [get?_insert_of_ne (Ne.symm same), ih]
        simp [same]

theorem mem_of_mem_insert {key : String} {value : α} {table : List (String × α)}
    {binding : String × α} (member : binding ∈ insert key value table) :
    binding = (key, value) ∨ binding ∈ table := by
  induction table with
  | nil => exact .inl (List.mem_singleton.mp member)
  | cons first rest ih =>
      rw [insert] at member
      split at member
      · exact (List.mem_cons.mp member).imp_right (List.mem_cons_of_mem _)
      · split at member
        · exact List.mem_cons.mp member
        · rcases List.mem_cons.mp member with rfl | later
          · exact .inr List.mem_cons_self
          · exact (ih later).imp_right (List.mem_cons_of_mem _)

/-- A table has no other bindings than were made. -/
theorem ofList_subset (bindings : List (String × α)) : ofList bindings ⊆ bindings := by
  induction bindings using List.reverseRecOn with
  | nil => exact List.Subset.refl _
  | append_singleton bindings last ih =>
      intro binding member
      rw [ofList_concat] at member
      rw [List.mem_append, List.mem_singleton]
      exact (mem_of_mem_insert member).symm.imp_left (@ih binding)

/-- A table has all of its bindings in any order. -/
theorem ofList_of_perm {bindings table : List (String × α)} (ordered : Ordered table)
    (perm : bindings.Perm table) : ofList bindings = table := by
  rw [ordered_iff_pairwise] at ordered
  have distinct : (bindings.map Prod.fst).Nodup :=
    (perm.map Prod.fst).nodup_iff.mpr (ordered.imp ne_of_lt)
  have ascending : ∀ {table : List (String × α)}, (table.map Prod.fst).Pairwise (· < ·) →
      table.Pairwise fun first second => first.1 < second.1 := List.pairwise_map.mp
  refine ((perm_ofList distinct).trans perm).eq_of_pairwise ?_
    (ascending (ordered_iff_pairwise.mp (ordered_ofList bindings))) (ascending ordered)
  intro first second _ _ before after
  exact absurd (before.trans after) (lt_irrefl _)

end Keyed

namespace Encoder.Options

open Text (IsBlank IsTrimmed)

/-! ## Writing property lists -/

/-- Blank characters other than line feeds. -/
def IsSpace (chars : List Char) : Prop :=
  IsBlank chars ∧ '\n' ∉ chars

/-- A key and its value can be written as an entry. -/
structure IsWritable (binding : String × String) : Prop where
  key_ne : binding.1.toList ≠ []
  key_trimmed : IsTrimmed binding.1.toList
  key_plain : ∀ c ∈ binding.1.toList, c ≠ '=' ∧ isEntryEnd c = false
  value_trimmed : IsTrimmed binding.2.toList
  value_plain : ∀ c ∈ binding.2.toList, isEntryEnd c = false

instance (chars : List Char) : Decidable (IsSpace chars) :=
  inferInstanceAs (Decidable (_ ∧ _))

instance (binding : String × String) : Decidable (IsWritable binding) :=
  decidable_of_iff
    (binding.1.toList ≠ [] ∧ IsTrimmed binding.1.toList ∧
      (binding.1.toList.all fun c => c != '=' && !isEntryEnd c) = true ∧
      IsTrimmed binding.2.toList ∧ (binding.2.toList.all fun c => !isEntryEnd c) = true)
    ⟨fun ⟨some_, key, keyPlain, value, valuePlain⟩ =>
        ⟨some_, key, by simpa using keyPlain, value, by simpa using valuePlain⟩,
      fun writable => ⟨writable.key_ne, writable.key_trimmed, by simpa using writable.key_plain,
        writable.value_trimmed, by simpa using writable.value_plain⟩⟩

/-- The writings of a binding as an entry; a blank entry is one of no binding. -/
inductive IsEntry : List Char → List (String × String) → Prop
  | blank {chars : List Char} (space : IsSpace chars) : IsEntry chars []
  | binding (key value : String) {first second third fourth : List Char}
      (beforeKey : IsSpace first) (afterKey : IsSpace second) (beforeValue : IsSpace third)
      (afterValue : IsSpace fourth) :
      IsEntry (first ++ key.toList ++ second ++ '=' :: (third ++ value.toList ++ fourth))
        [(key, value)]

/-- The writings of bindings as entries with semicolons or line feeds between them. -/
inductive IsWriting : List Char → List (String × String) → Prop
  | entry {chars : List Char} {bindings : List (String × String)}
      (entry : IsEntry chars bindings) : IsWriting chars bindings
  | append {chars rest : List Char} {bindings others : List (String × String)} (mark : Char)
      (ends : isEntryEnd mark = true) (entry : IsEntry chars bindings)
      (writing : IsWriting rest others) :
      IsWriting (chars ++ mark :: rest) (bindings ++ others)

/-- An entry has no key: no equals sign, or only blank characters before the first one. -/
def IsFaulty (chars : List Char) : Prop :=
  '=' ∉ chars ∨ ∃ before after, chars = before ++ '=' :: after ∧ IsBlank before

/-! ## One entry -/

theorem not_mem_of_isBlank {chars : List Char} (blank : IsBlank chars) : '=' ∉ chars := by
  intro member
  exact absurd (blank '=' member) (by decide)

theorem isEntryEnd_eq_false_iff {c : Char} : isEntryEnd c = false ↔ c ≠ ';' ∧ c ≠ '\n' := by
  simp [isEntryEnd]

/-- Blank space has no end of an entry. -/
theorem IsSpace.plain {chars : List Char} (space : IsSpace chars) :
    ∀ c ∈ chars, isEntryEnd c = false := by
  intro c member
  rw [isEntryEnd_eq_false_iff]
  constructor
  · rintro rfl
    exact absurd (space.1 _ member) (by decide)
  · rintro rfl
    exact space.2 member

theorem trim_ofList (chars : List Char) :
    Text.trim (String.ofList chars) = String.ofList (Text.trimChars chars) := by
  rw [Text.trim, String.toList_ofList]

theorem readEntry_of_not_mem {chars : List Char} (absent : '=' ∉ chars) :
    readEntry (String.ofList chars) = .error (.invalidEntry (String.ofList chars)) := by
  rw [readEntry, Text.cut?, String.toList_ofList, Text.cutChars?_eq_none_iff.mpr absent]
  rfl

theorem readEntry_of_cut {before after : List Char} (absent : '=' ∉ before) :
    readEntry (String.ofList (before ++ '=' :: after)) =
      if Text.trimChars before = [] then
        .error (.invalidEntry (String.ofList (before ++ '=' :: after)))
      else
        .ok (String.ofList (Text.trimChars before), String.ofList (Text.trimChars after)) := by
  rw [readEntry, Text.cut?, String.toList_ofList,
    Text.cutChars?_eq_some_iff.mpr ⟨rfl, absent⟩]
  simp [trim_ofList]

/-- The first equals sign of an entry is the first one of what trimming leaves. -/
theorem exists_cut_trimChars {before : List Char} (after : List Char) (absent : '=' ∉ before) :
    ∃ key value, Text.trimChars (before ++ '=' :: after) = key ++ '=' :: value ∧ '=' ∉ key ∧
      Text.trimChars key = Text.trimChars before ∧
      Text.trimChars value = Text.trimChars after := by
  obtain ⟨first, last, firstBlank, lastBlank, whole⟩ :=
    Text.exists_blanks (before ++ '=' :: after)
  have inside : '=' ∈ Text.trimChars (before ++ '=' :: after) := by
    have member : '=' ∈ before ++ '=' :: after := by simp
    rw [whole] at member
    simpa [not_mem_of_isBlank firstBlank, not_mem_of_isBlank lastBlank] using member
  obtain ⟨key, value, core, plain⟩ := List.eq_append_cons_of_mem inside
  rw [core] at whole
  have cut : Text.cutChars? '=' (before ++ '=' :: after) = some (before, after) :=
    Text.cutChars?_eq_some_iff.mpr ⟨rfl, absent⟩
  have other : Text.cutChars? '=' (before ++ '=' :: after) = some (first ++ key, value ++ last) := by
    rw [Text.cutChars?_eq_some_iff]
    refine ⟨by rw [whole]; simp, ?_⟩
    rw [List.mem_append, not_or]
    exact ⟨not_mem_of_isBlank firstBlank, plain⟩
  obtain ⟨rfl, rfl⟩ := Prod.mk.inj (Option.some.inj (cut.symm.trans other))
  refine ⟨key, value, core, plain, ?_, ?_⟩
  · simpa using (Text.trimChars_blanks firstBlank Text.isBlank_nil key).symm
  · simpa using (Text.trimChars_blanks Text.isBlank_nil lastBlank value).symm

/-- What has no key is refused. -/
theorem readEntry_of_isFaulty {piece : String} (faulty : IsFaulty piece.toList) :
    readEntry (Text.trim piece) = .error (.invalidEntry (Text.trim piece)) := by
  rw [Text.trim]
  rcases faulty with absent | ⟨before, after, whole, blank⟩
  · refine readEntry_of_not_mem fun member => absent ?_
    obtain ⟨first, last, -, -, whole⟩ := Text.exists_blanks piece.toList
    rw [whole]
    simp [member]
  · obtain ⟨key, value, core, plain, same, -⟩ :=
      exists_cut_trimChars after (not_mem_of_isBlank blank)
    rw [whole, core, readEntry_of_cut plain, same, if_pos (Text.trimChars_eq_nil_iff.mpr blank)]

/-- What is not faulty has a key before its first equals sign. -/
theorem exists_of_not_isFaulty {chars : List Char} (sound : ¬ IsFaulty chars) :
    ∃ before after, chars = before ++ '=' :: after ∧ '=' ∉ before ∧ ¬ IsBlank before := by
  rw [IsFaulty, not_or, not_not] at sound
  obtain ⟨before, after, whole, absent⟩ := List.eq_append_cons_of_mem sound.1
  exact ⟨before, after, whole, absent, fun blank => sound.2 ⟨before, after, whole, blank⟩⟩

/-- What has a key is read as the key and the value. -/
theorem readEntry_trim {before after : List Char} (absent : '=' ∉ before)
    (some_ : ¬ IsBlank before) :
    readEntry (Text.trim (String.ofList (before ++ '=' :: after))) =
      .ok (String.ofList (Text.trimChars before), String.ofList (Text.trimChars after)) := by
  obtain ⟨key, value, core, plain, sameKey, sameValue⟩ :=
    exists_cut_trimChars after absent
  rw [trim_ofList, core, readEntry_of_cut plain, sameKey, sameValue,
    if_neg fun nothing => some_ (Text.trimChars_eq_nil_iff.mp nothing)]

/-- A writable entry has no end of an entry. -/
theorem IsEntry.plain {piece : List Char} {bindings : List (String × String)}
    (entry : IsEntry piece bindings) (writable : ∀ binding ∈ bindings, IsWritable binding) :
    ∀ c ∈ piece, isEntryEnd c = false := by
  cases entry with
  | blank space => exact space.plain
  | binding key value beforeKey afterKey beforeValue afterValue =>
      rw [List.forall_mem_singleton] at writable
      simp only [List.forall_mem_append, List.forall_mem_cons]
      exact ⟨⟨⟨beforeKey.plain, fun c member => (writable.key_plain c member).2⟩, afterKey.plain⟩,
        by decide, ⟨beforeValue.plain, writable.value_plain⟩, afterValue.plain⟩

/-! ## Pieces -/

/-- What stands between two ends of entries is nothing if it is blank, and else a binding. -/
def readPiece (piece : List Char) : Except DeclarationError (List (String × String)) :=
  if Text.trimChars piece = [] then .ok []
  else (fun binding => [binding]) <$> readEntry (Text.trim (String.ofList piece))

theorem readPiece_of_isBlank {piece : List Char} (blank : IsBlank piece) :
    readPiece piece = .ok [] :=
  if_pos (Text.trimChars_eq_nil_iff.mpr blank)

theorem readPiece_of_not_isBlank {piece : List Char} (some_ : ¬ IsBlank piece) :
    readPiece piece =
      (fun binding => [binding]) <$> readEntry (Text.trim (String.ofList piece)) :=
  if_neg fun nothing => some_ (Text.trimChars_eq_nil_iff.mp nothing)

/-- Characters that are not blank and have no key are refused, and no others. -/
theorem readPiece_eq_error_iff {piece : List Char} {error : DeclarationError} :
    readPiece piece = .error error ↔
      ¬ IsBlank piece ∧ IsFaulty piece ∧
        error = .invalidEntry (Text.trim (String.ofList piece)) := by
  by_cases blank : IsBlank piece
  · simp [readPiece_of_isBlank blank, blank]
  · rw [readPiece_of_not_isBlank blank]
    by_cases faulty : IsFaulty piece
    · have refused : readEntry (Text.trim (String.ofList piece)) = _ :=
        readEntry_of_isFaulty (by simpa using faulty)
      simp [refused, blank, faulty, Functor.map, Except.map, eq_comm]
    · obtain ⟨before, after, rfl, absent, some_⟩ := exists_of_not_isFaulty faulty
      rw [readEntry_trim absent some_]
      simp [faulty, Functor.map, Except.map]

/-- Blank characters in what has no end of an entry are blank space. -/
theorem isSpace_of_subset {chars piece : List Char} (blank : IsBlank chars)
    (subset : chars ⊆ piece) (plain : ∀ c ∈ piece, isEntryEnd c = false) : IsSpace chars :=
  ⟨blank, fun member => (isEntryEnd_eq_false_iff.mp (plain _ (subset member))).2 rfl⟩

/-- What is read from characters without an end of an entry is written in them. -/
theorem isEntry_of_readPiece {piece : List Char} (plain : ∀ c ∈ piece, isEntryEnd c = false)
    {bindings : List (String × String)} (read : readPiece piece = .ok bindings) :
    IsEntry piece bindings ∧ ∀ binding ∈ bindings, IsWritable binding := by
  by_cases blank : IsBlank piece
  · rw [readPiece_of_isBlank blank] at read
    cases read
    exact ⟨.blank (isSpace_of_subset blank (List.Subset.refl _) plain), nofun⟩
  · have sound : ¬ IsFaulty piece := by
      intro faulty
      rw [readPiece_eq_error_iff.mpr ⟨blank, faulty, rfl⟩] at read
      cases read
    obtain ⟨before, after, rfl, absent, some_⟩ := exists_of_not_isFaulty sound
    rw [readPiece_of_not_isBlank blank, readEntry_trim absent some_] at read
    cases read
    obtain ⟨first, second, firstBlank, secondBlank, wholeKey⟩ := Text.exists_blanks before
    obtain ⟨third, fourth, thirdBlank, fourthBlank, wholeValue⟩ := Text.exists_blanks after
    have keyTrimmed := Text.isTrimmed_trimChars before
    have valueTrimmed := Text.isTrimmed_trimChars after
    have keySome : Text.trimChars before ≠ [] := mt Text.trimChars_eq_nil_iff.mp some_
    generalize Text.trimChars before = key at *
    generalize Text.trimChars after = value at *
    subst wholeKey wholeValue
    simp only [List.forall_mem_append, List.forall_mem_cons] at plain
    obtain ⟨⟨⟨firstPlain, keyPlain⟩, secondPlain⟩, -, ⟨thirdPlain, valuePlain⟩, fourthPlain⟩ :=
      plain
    have space {chars : List Char} (blank : IsBlank chars)
        (plain : ∀ c ∈ chars, isEntryEnd c = false) : IsSpace chars :=
      isSpace_of_subset blank (List.Subset.refl _) plain
    constructor
    · have entry := IsEntry.binding (String.ofList key) (String.ofList value)
        (space firstBlank firstPlain) (space secondBlank secondPlain)
        (space thirdBlank thirdPlain) (space fourthBlank fourthPlain)
      simpa using entry
    · rw [List.forall_mem_singleton]
      exact {
        key_ne := by simpa using keySome
        key_trimmed := by simpa using keyTrimmed
        key_plain := by
          rw [String.toList_ofList]
          intro c member
          refine ⟨?_, keyPlain c member⟩
          rintro rfl
          exact absent (by simp [member])
        value_trimmed := by simpa using valueTrimmed
        value_plain := by simpa using valuePlain }

/-- A writable entry is read as its binding. -/
theorem readPiece_of_isEntry {piece : List Char} {bindings : List (String × String)}
    (entry : IsEntry piece bindings) (writable : ∀ binding ∈ bindings, IsWritable binding) :
    readPiece piece = .ok bindings := by
  cases entry with
  | blank space => exact readPiece_of_isBlank space.1
  | @binding key value first second third fourth beforeKey afterKey beforeValue afterValue =>
      rw [List.forall_mem_singleton] at writable
      have keyTrimmed :=
        Text.trimChars_append beforeKey.1 writable.key_trimmed afterKey.1
      have valueTrimmed :=
        Text.trimChars_append beforeValue.1 writable.value_trimmed afterValue.1
      have some_ : ¬ IsBlank (first ++ key.toList ++ second) := by
        rw [← Text.trimChars_eq_nil_iff, keyTrimmed]
        exact writable.key_ne
      have absent : '=' ∉ first ++ key.toList ++ second := by
        have inKey : '=' ∉ key.toList := fun member => (writable.key_plain _ member).1 rfl
        simp [not_mem_of_isBlank beforeKey.1, not_mem_of_isBlank afterKey.1, inKey]
      have blank : ¬ IsBlank (first ++ key.toList ++ second ++
          '=' :: (third ++ value.toList ++ fourth)) := by
        intro blank
        exact not_mem_of_isBlank blank (by simp)
      rw [readPiece_of_not_isBlank blank, readEntry_trim absent some_, keyTrimmed, valueTrimmed,
        String.ofList_toList, String.ofList_toList]
      rfl

/-! ## The pieces of a list -/

/-- A property list is read piece by piece. -/
theorem parse_eq (list : String) :
    parse list =
      ((Text.splitChars isEntryEnd list.toList).mapM readPiece).map
        fun bindings => Keyed.ofList bindings.flatten := by
  have pieces : ∀ pieces : List (List Char),
      (((pieces.map String.ofList).map Text.trim).filter (· ≠ "")).mapM readEntry =
        (pieces.mapM readPiece).map List.flatten := by
    intro pieces
    induction pieces with
    | nil => rfl
    | cons piece rest ih =>
        rw [List.map_cons, List.map_cons, List.filter_cons, List.mapM_cons, readPiece]
        by_cases blank : Text.trimChars piece = []
        · rw [if_pos blank, if_neg (by simp [trim_ofList, blank]), ih]
          cases rest.mapM readPiece <;> rfl
        · rw [if_neg blank, if_pos (by simp [trim_ofList, blank]), List.mapM_cons, ih]
          cases readEntry (Text.trim (String.ofList piece)) with
          | error error => rfl
          | ok binding => cases rest.mapM readPiece <;> rfl
  rw [parse, entries, Text.split, pieces]
  cases (Text.splitChars isEntryEnd list.toList).mapM readPiece <;> rfl

/-- The pieces of a writing are writings of the bindings in turn. -/
theorem IsWriting.pieces {chars : List Char} {bindings : List (String × String)}
    (writing : IsWriting chars bindings) (writable : ∀ binding ∈ bindings, IsWritable binding) :
    ∃ parts, (Text.splitChars isEntryEnd chars).mapM readPiece = .ok parts ∧
      parts.flatten = bindings := by
  induction writing with
  | @entry chars bindings entry =>
      refine ⟨[bindings], ?_, by simp⟩
      rw [Text.splitChars_of_forall_not (entry.plain writable), Reading.mapM_eq_ok_iff]
      exact .cons (readPiece_of_isEntry entry writable) .nil
  | @append chars rest bindings others mark ends entry _ ih =>
      rw [List.forall_mem_append] at writable
      obtain ⟨parts, read, rfl⟩ := ih writable.2
      refine ⟨bindings :: parts, ?_, rfl⟩
      rw [Text.splitChars_append ends, Text.splitChars_of_forall_not (entry.plain writable.1),
        Reading.mapM_eq_ok_iff]
      exact .cons (readPiece_of_isEntry entry writable.1) (Reading.mapM_eq_ok_iff.mp read)

/-- What is read piece by piece is written in the list. -/
theorem isWriting_of_pieces {chars : List Char} {parts : List (List (String × String))}
    (read : (Text.splitChars isEntryEnd chars).mapM readPiece = .ok parts) :
    IsWriting chars parts.flatten ∧ ∀ binding ∈ parts.flatten, IsWritable binding := by
  rw [Reading.mapM_eq_ok_iff] at read
  induction parts generalizing chars with
  | nil => exact absurd (List.forall₂_nil_right_iff.mp read) (Text.splitChars_ne_nil _ _)
  | cons bindings parts ih =>
      rcases Text.splitChars_cases isEntryEnd chars with
        ⟨plain, pieces⟩ | ⟨first, mark, rest, rfl, ends, plain, pieces⟩
      · rw [pieces, List.forall₂_cons] at read
        obtain ⟨entry, writable⟩ := isEntry_of_readPiece plain read.1
        obtain rfl := List.forall₂_nil_left_iff.mp read.2
        simpa using And.intro (IsWriting.entry entry) writable
      · rw [pieces, List.forall₂_cons] at read
        obtain ⟨entry, writable⟩ := isEntry_of_readPiece plain read.1
        obtain ⟨writing, others⟩ := ih read.2
        rw [List.flatten_cons, List.forall_mem_append]
        exact ⟨.append mark ends entry writing, writable, others⟩

/-- A property list is read exactly when it is a writing of bindings, as their table. -/
theorem parse_eq_ok_iff {list : String} {options : Options} :
    parse list = .ok options ↔
      ∃ bindings, IsWriting list.toList bindings ∧ (∀ binding ∈ bindings, IsWritable binding) ∧
        options = Keyed.ofList bindings := by
  rw [parse_eq]
  constructor
  · intro read
    cases parts : (Text.splitChars isEntryEnd list.toList).mapM readPiece with
    | error error => rw [parts] at read; cases read
    | ok bindings =>
        rw [parts] at read
        cases read
        obtain ⟨writing, writable⟩ := isWriting_of_pieces parts
        exact ⟨_, writing, writable, rfl⟩
  · rintro ⟨bindings, writing, writable, rfl⟩
    obtain ⟨parts, read, rfl⟩ := writing.pieces writable
    rw [read]
    rfl

/-- A property list is refused for the first entry that is not blank and has no key. -/
theorem parse_eq_error_iff {list : String} {error : DeclarationError} :
    parse list = .error error ↔
      ∃ before entry after,
        Text.splitChars isEntryEnd list.toList = before ++ entry :: after ∧
        (∀ other ∈ before, IsBlank other ∨ ¬ IsFaulty other) ∧
        ¬ IsBlank entry ∧ IsFaulty entry ∧
        error = .invalidEntry (Text.trim (String.ofList entry)) := by
  have readable (piece : List Char) :
      (∃ bindings, readPiece piece = .ok bindings) ↔ IsBlank piece ∨ ¬ IsFaulty piece := by
    cases read : readPiece piece with
    | ok bindings =>
        have fine : ¬ (¬ IsBlank piece ∧ IsFaulty piece) := by
          rintro ⟨some_, faulty⟩
          rw [readPiece_eq_error_iff.mpr ⟨some_, faulty, rfl⟩] at read
          cases read
        exact iff_of_true ⟨bindings, rfl⟩ ((not_and_or.mp fine).imp_left not_not.mp)
    | error error =>
        obtain ⟨some_, faulty, -⟩ := readPiece_eq_error_iff.mp read
        simp [some_, faulty]
  rw [parse_eq]
  trans (Text.splitChars isEntryEnd list.toList).mapM readPiece = .error error
  · cases (Text.splitChars isEntryEnd list.toList).mapM readPiece <;> simp [Except.map]
  · simp only [Reading.mapM_eq_error_iff, readable, readPiece_eq_error_iff]

/-- Every binding can be written. -/
theorem exists_isWriting (bindings : List (String × String)) :
    ∃ list : String, IsWriting list.toList bindings := by
  have none_ : IsSpace [] := ⟨Text.isBlank_nil, List.not_mem_nil⟩
  induction bindings with
  | nil => exact ⟨"", .entry (.blank none_)⟩
  | cons binding rest ih =>
      obtain ⟨list, writing⟩ := ih
      refine ⟨binding.1 ++ "=" ++ binding.2 ++ ";" ++ list, ?_⟩
      have entry := IsEntry.binding binding.1 binding.2 none_ none_ none_ none_
      have whole := IsWriting.append ';' (by decide) entry writing
      simpa using whole

/-- Property lists and tables of options.

A table whose keys and values can be written is read from every writing of it: with its
bindings in any order, with blank entries, with blank space around keys and values, and with
a semicolon or a line feed at each end of an entry.  There are such writings, and what is
read is always such a table.

Of several entries with one key the last one counts.

A list is refused exactly when an entry that is not blank has no equals sign or only blank
characters before the first one, and the first such entry is named. -/
theorem property_lists_read_back :
    (∀ options : Options, Keyed.Ordered options → (∀ binding ∈ options, IsWritable binding) →
      ∀ (list : String) (bindings : List (String × String)), bindings.Perm options →
        IsWriting list.toList bindings → parse list = .ok options) ∧
    (∀ bindings, ∃ list : String, IsWriting list.toList bindings) ∧
    (∀ list options, parse list = .ok options →
      Keyed.Ordered options ∧ ∀ binding ∈ options, IsWritable binding) ∧
    (∀ (list : String) (bindings : List (String × String)), IsWriting list.toList bindings →
      (∀ binding ∈ bindings, IsWritable binding) →
        ∃ options, parse list = .ok options ∧ ∀ key, Keyed.get? key options =
          (bindings.filter fun binding => binding.1 = key).getLast?.map Prod.snd) ∧
    ∀ list error, parse list = .error error ↔
      ∃ before entry after,
        Text.splitChars isEntryEnd list.toList = before ++ entry :: after ∧
        (∀ other ∈ before, IsBlank other ∨ ¬ IsFaulty other) ∧
        ¬ IsBlank entry ∧ IsFaulty entry ∧
        error = .invalidEntry (Text.trim (String.ofList entry)) := by
  refine ⟨?_, exists_isWriting, ?_, ?_, fun _ _ => parse_eq_error_iff⟩
  · intro options ordered writable list bindings perm writing
    refine parse_eq_ok_iff.mpr ⟨bindings, writing, ?_, (Keyed.ofList_of_perm ordered perm).symm⟩
    exact fun binding member => writable binding (perm.subset member)
  · intro list options read
    obtain ⟨bindings, -, writable, rfl⟩ := parse_eq_ok_iff.mp read
    exact ⟨Keyed.ordered_ofList bindings,
      fun binding member => writable binding (Keyed.ofList_subset bindings member)⟩
  · intro list bindings writing writable
    exact ⟨_, parse_eq_ok_iff.mpr ⟨bindings, writing, writable, rfl⟩,
      fun key => Keyed.get?_ofList_eq key bindings⟩

/-- A table with an empty value and a value with an equals sign is read from a list with a
blank entry, and the second of two entries of one key is the one that counts. -/
theorem property_lists_of_two_options_read_back :
    parse "\tb c = 1=2 \n;a=" = .ok [("a", ""), ("b c", "1=2")] ∧
      (∃ options, parse "b c=0;b c=1=2" = .ok options ∧
        Keyed.get? "b c" options = some "1=2") ∧
      ∃ before entry after,
        Text.splitChars isEntryEnd "a=1; =2;b".toList = before ++ entry :: after ∧
        (∀ other ∈ before, IsBlank other ∨ ¬ IsFaulty other) ∧
        ¬ IsBlank entry ∧ IsFaulty entry ∧
        DeclarationError.invalidEntry "=2" = .invalidEntry (Text.trim (String.ofList entry)) := by
  have first : IsWritable ("a", "") := by decide
  have second : IsWritable ("b c", "1=2") := by decide
  have third : IsWritable ("b c", "0") := by decide
  have none_ : IsSpace [] := ⟨Text.isBlank_nil, List.not_mem_nil⟩
  have blank : IsSpace [' '] := by decide
  have tab : IsSpace ['\t'] := by decide
  have writing : IsWriting "\tb c = 1=2 \n;a=".toList [("b c", "1=2"), ("a", "")] :=
    .append '\n' (by decide) (.binding "b c" "1=2" tab blank blank blank)
      (.append ';' (by decide) (.blank none_) (.entry (.binding "a" "" none_ none_ none_ none_)))
  have again : IsWriting "b c=0;b c=1=2".toList [("b c", "0"), ("b c", "1=2")] :=
    .append ';' (by decide) (.binding "b c" "0" none_ none_ none_ none_)
      (.entry (.binding "b c" "1=2" none_ none_ none_ none_))
  obtain ⟨table, -, -, last, faults⟩ := property_lists_read_back
  refine ⟨?_, ?_, (faults _ _).mp (by decide)⟩
  · have ordered : Keyed.Ordered [("a", ""), ("b c", "1=2")] :=
      ⟨String.lt_iff_toList_lt.mpr (by decide), trivial⟩
    refine table _ ordered ?_ _ _ (.swap _ _ _) writing
    simpa using And.intro first second
  · obtain ⟨options, read, found⟩ := last _ _ again (by simpa using And.intro third second)
    exact ⟨options, read, found "b c"⟩

end Encoder.Options

end FlatMessage
