import FlatMessage.Proofs.Spelling.Letters
import Mathlib.Data.List.DropRight
import Mathlib.Data.List.Chain

/-!
# Normal forms of names

A name in snake case consists of words with single underscores between them.  Its other
characters are those of the name it was made of, and where it is written in ASCII it is a
normal form: writing it in snake case again leaves it as it is.

So an identifier in snake case is derived from itself, and likewise one in Pascal case, which
has no separators and does not begin with a small letter.
-/

namespace FlatMessage.Naming

open Text (toLowercase toUppercase)

/-! ## Words with underscores between them -/

/-- What may follow the last character written: characters that are no separators, and
underscores, each of which stands after another character. -/
inductive IsJoinedAfter : Option Char → List Char → Prop
  | nil {written : Option Char} : IsJoinedAfter written []
  | underscore {last : Char} {rest : List Char} (other : last ≠ '_')
      (joined : IsJoinedAfter (some '_') rest) : IsJoinedAfter (some last) ('_' :: rest)
  | letter {written : Option Char} {c : Char} {rest : List Char} (letter : isSeparator c = false)
      (joined : IsJoinedAfter (some c) rest) : IsJoinedAfter written (c :: rest)

variable {written : Option Char} {chars : List Char}

theorem ne_underscore {c : Char} (letter : isSeparator c = false) : c ≠ '_' := by
  rintro rfl
  cases letter

namespace IsJoinedAfter

/-- After a word goes on what may follow its last character. -/
theorem word {word : List Char} (letters : ∀ c ∈ word, isSeparator c = false)
    (joined : IsJoinedAfter (word.getLast?.or written) chars) :
    IsJoinedAfter written (word ++ chars) := by
  induction word generalizing written with
  | nil => exact joined
  | cons c word ih =>
      rw [List.forall_mem_cons] at letters
      refine .letter letters.1 (ih letters.2 ?_)
      rw [List.getLast?_cons, Option.some_or] at joined
      cases last : word.getLast? <;> simpa [last] using joined

theorem of_prefix {start : List Char} (joined : IsJoinedAfter written chars)
    (within : start <+: chars) : IsJoinedAfter written start := by
  induction joined generalizing start with
  | nil =>
      rw [List.prefix_nil.mp within]
      exact .nil
  | underscore other _ ih =>
      cases start with
      | nil => exact .nil
      | cons c start =>
          obtain ⟨rfl, inRest⟩ := List.cons_prefix_cons.mp within
          exact .underscore other (ih inRest)
  | letter letter _ ih =>
      cases start with
      | nil => exact .nil
      | cons c start =>
          obtain ⟨rfl, inRest⟩ := List.cons_prefix_cons.mp within
          exact .letter letter (ih inRest)

theorem eq_underscore (joined : IsJoinedAfter written chars) :
    ∀ c ∈ chars, isSeparator c = true → c = '_' := by
  induction joined with
  | nil => nofun
  | underscore _ _ ih => exact List.forall_mem_cons.mpr ⟨fun _ => rfl, ih⟩
  | letter letter _ ih =>
      refine List.forall_mem_cons.mpr ⟨fun separator => ?_, ih⟩
      rw [letter] at separator
      cases separator

theorem isChain (joined : IsJoinedAfter written chars) :
    (written.toList ++ chars).IsChain fun c next => c = '_' → next ≠ '_' := by
  induction joined with
  | @nil written => cases written <;> simp
  | underscore other _ ih => exact .cons_cons (fun same => absurd same other) ih
  | @letter written c rest letter _ ih =>
      cases written with
      | none => exact ih
      | some last => exact .cons_cons (fun _ => ne_underscore letter) ih

theorem head?_ne (joined : IsJoinedAfter none chars) : chars.head? ≠ some '_' := by
  cases joined with
  | nil => nofun
  | letter letter _ => simpa using ne_underscore letter

end IsJoinedAfter

/-! ## Snake case -/

/-- Only after a letter or a digit does a word begin at a capital. -/
theorem beginsWord_eq_false {previous next : Option Char} {c : Char}
    (separators : ∀ p ∈ previous, isSeparator p = true) : beginsWord previous c next = false := by
  cases previous with
  | none => rfl
  | some p =>
      have among : p = '_' ∨ p = '-' ∨ p = '.' ∨ p = ' ' := by
        simpa [isSeparator, or_assoc] using separators p rfl
      have lower : Text.isLowercase p = false := by
        rcases among with rfl | rfl | rfl | rfl <;> decide
      have upper : Text.isUppercase p = false := by
        rcases among with rfl | rfl | rfl | rfl <;> decide
      have digit : Text.isDigit p = false := by
        rcases among with rfl | rfl | rfl | rfl <;> decide
      simp [beginsWord, lower, upper, digit]

/-- What is written is joined to what was written before, of which there is some unless only
separators have been read. -/
theorem isJoinedAfter_snakeFrom {previous : Option Char}
    (started : written = none → ∀ p ∈ previous, isSeparator p = true) :
    IsJoinedAfter written (snakeFrom previous written chars) := by
  induction chars generalizing previous written with
  | nil => exact .nil
  | cons c rest ih =>
      rw [snakeFrom]
      split
      · next separator =>
          have skipped (before : Option Char) :
              IsJoinedAfter before (snakeFrom (some c) before rest) :=
            ih fun _ p same => by
              obtain rfl := Option.some.inj same
              exact separator
          split
          · exact skipped written
          · next fresh =>
              simp only [Bool.or_eq_true, decide_eq_true_eq, not_or] at fresh
              cases written with
              | none => exact absurd rfl fresh.1
              | some last =>
                  refine .underscore ?_ (skipped (some '_'))
                  rintro rfl
                  exact fresh.2 rfl
      · next letter =>
          rw [Bool.not_eq_true] at letter
          have letters : ∀ d ∈ toLowercase c, isSeparator d = false :=
            fun d member => (eq_false_of_mem_toLowercase letter member).1
          obtain ⟨final, last⟩ : ∃ final, (toLowercase c).getLast? = some final :=
            Option.ne_none_iff_exists'.mp
              (mt List.getLast?_eq_none_iff.mp (Text.toLowercase_ne_nil c))
          have later (before : Option Char) :
              IsJoinedAfter before (toLowercase c ++ snakeFrom (some c) (some final) rest) := by
            refine .word letters ?_
            rw [last, Option.some_or]
            exact ih nofun
          simp only [last, Option.some_or]
          split
          · next begins =>
              cases written with
              | none =>
                  rw [beginsWord_eq_false (started rfl)] at begins
                  cases begins.2
              | some before =>
                  refine .underscore ?_ (later (some '_'))
                  rintro rfl
                  exact begins.1 rfl
          · exact later written

/-- What is written in lower case letters and joined is written as it is. -/
theorem snakeFrom_eq_self {previous : Option Char} (joined : IsJoinedAfter written chars)
    (small : ∀ c ∈ chars, c.toNat < 128 ∧ Text.isAsciiUpper c = false) :
    snakeFrom previous written chars = chars := by
  induction joined generalizing previous with
  | nil => rfl
  | @underscore last rest other _ ih =>
      rw [List.forall_mem_cons] at small
      rw [snakeFrom, if_pos (by decide), if_neg (by simpa using other), ih small.2]
  | @letter written c rest letter _ ih =>
      rw [List.forall_mem_cons] at small
      obtain ⟨⟨ascii, noCapital⟩, small⟩ := small
      have begins : beginsWord previous c rest.head? = false := by
        have upper : Text.isUppercase c = false := by rwa [Text.isUppercase_of_ascii ascii]
        cases previous <;> simp [beginsWord, upper]
      rw [snakeFrom, if_neg (by simp [letter])]
      simp [Text.toLowercase_eq_self ascii noCapital, begins, ih small]

/-- The characters of a name in snake case are those in lower case of the characters that are
no separators, apart from underscores. -/
theorem filter_snakeFrom (previous written : Option Char) (chars : List Char) :
    (snakeFrom previous written chars).filter (· != '_') =
      (chars.filter fun c => !isSeparator c).flatMap toLowercase := by
  induction chars generalizing previous written with
  | nil => rfl
  | cons c rest ih =>
      rw [snakeFrom]
      split
      · next separator =>
          rw [List.filter_cons_of_neg (by simp [separator])]
          split
          · exact ih _ _
          · rw [List.filter_cons_of_neg (by simp), ih]
      · next letter =>
          rw [Bool.not_eq_true] at letter
          have word : (toLowercase c).filter (· != '_') = toLowercase c := by
            rw [List.filter_eq_self]
            intro d member
            simpa using ne_underscore (eq_false_of_mem_toLowercase letter member).1
          rw [List.filter_cons_of_pos (by simp [letter]), List.flatMap_cons]
          split
          · rw [List.filter_cons_of_neg (by simp), List.filter_append, word, ih]
          · rw [List.filter_append, word, ih]

theorem dropTrailing_eq (chars : List Char) :
    dropTrailing chars = chars.rdropWhile (· == '_') :=
  rfl

theorem filter_dropTrailing (chars : List Char) :
    (dropTrailing chars).filter (· != '_') = chars.filter (· != '_') := by
  have dropped : (chars.rtakeWhile (· == '_')).filter (· != '_') = [] := by
    rw [List.filter_eq_nil_iff]
    intro c member
    simpa using List.mem_rtakeWhile_imp member
  conv_rhs => rw [← List.rdropWhile_append_rtakeWhile (p := (· == '_')) (l := chars)]
  rw [List.filter_append, dropped, List.append_nil, dropTrailing_eq]

theorem isJoinedAfter_snakeCase (name : String) : IsJoinedAfter none (snakeCase name).toList := by
  rw [snakeCase, String.toList_ofList, dropTrailing_eq]
  have joined : IsJoinedAfter none (snakeFrom none none name.toList) :=
    isJoinedAfter_snakeFrom (by simp)
  exact joined.of_prefix (List.rdropWhile_prefix _ _)

theorem getLast?_snakeCase (name : String) : (snakeCase name).toList.getLast? ≠ some '_' := by
  rw [snakeCase, String.toList_ofList, dropTrailing]
  rw [List.getLast?_reverse]
  intro last
  have kept := List.head?_dropWhile_not (· == '_')
    (snakeFrom none none name.toList).reverse
  rw [last] at kept
  cases kept

theorem filter_snakeCase (name : String) :
    (snakeCase name).toList.filter (· != '_') =
      (name.toList.filter fun c => !isSeparator c).flatMap toLowercase := by
  rw [snakeCase, String.toList_ofList, filter_dropTrailing, filter_snakeFrom]

/-- A character of a name in snake case is an underscore or comes from a character of the
name that is no separator. -/
theorem exists_of_mem_snakeCase {name : String} {d : Char} (member : d ∈ (snakeCase name).toList)
    (other : d ≠ '_') :
    ∃ c ∈ name.toList, isSeparator c = false ∧ d ∈ toLowercase c := by
  have kept : d ∈ (snakeCase name).toList.filter (· != '_') :=
    List.mem_filter.mpr ⟨member, by simpa using other⟩
  rw [filter_snakeCase] at kept
  obtain ⟨c, among, inside⟩ := List.mem_flatMap.mp kept
  rw [List.mem_filter] at among
  exact ⟨c, among.1, by simpa using among.2, inside⟩

theorem isAsciiUpper_of_mem_snakeCase {name : String} {d : Char}
    (member : d ∈ (snakeCase name).toList) : Text.isAsciiUpper d = false := by
  by_cases underscore : d = '_'
  · rw [underscore]
    decide
  · obtain ⟨c, -, letter, inside⟩ := exists_of_mem_snakeCase member underscore
    exact (eq_false_of_mem_toLowercase letter inside).2

/-- A name in snake case that is written in ASCII is a normal form. -/
theorem snakeCase_snakeCase {name : String}
    (ascii : ∀ c ∈ (snakeCase name).toList, c.toNat < 128) :
    snakeCase (snakeCase name) = snakeCase name := by
  have written : snakeFrom none none (snakeCase name).toList = (snakeCase name).toList :=
    snakeFrom_eq_self (isJoinedAfter_snakeCase name) fun c member =>
      ⟨ascii c member, isAsciiUpper_of_mem_snakeCase member⟩
  have kept : dropTrailing (snakeCase name).toList = (snakeCase name).toList := by
    rw [dropTrailing_eq, List.rdropWhile_eq_self_iff]
    intro filled ending
    apply getLast?_snakeCase name
    rw [List.getLast?_eq_getLast_of_ne_nil filled, beq_iff_eq.mp ending]
  conv_lhs => rw [snakeCase, written, kept, String.ofList_toList]

/-! ## Pascal case -/

theorem isSeparator_of_mem_pascalFrom {atStart : Bool} {d : Char}
    (member : d ∈ pascalFrom atStart chars) : isSeparator d = false := by
  induction chars generalizing atStart with
  | nil => cases member
  | cons c rest ih =>
      rw [pascalFrom] at member
      split at member
      · exact ih member
      · next letter =>
          rw [Bool.not_eq_true] at letter
          split at member
          · rcases List.mem_append.mp member with inside | later
            · exact (eq_false_of_mem_toUppercase letter inside).1
            · exact ih later
          · rcases List.mem_cons.mp member with rfl | later
            · exact letter
            · exact ih later

/-- A name in Pascal case does not begin with a small letter of ASCII. -/
theorem isAsciiLower_head_pascalFrom {d : Char} (first : (pascalFrom true chars).head? = some d) :
    Text.isAsciiLower d = false := by
  induction chars with
  | nil => cases first
  | cons c rest ih =>
      rw [pascalFrom] at first
      split at first
      · exact ih first
      · next letter =>
          rw [Bool.not_eq_true] at letter
          rw [if_pos rfl, List.head?_append_of_ne_nil _ (Text.toUppercase_ne_nil c)] at first
          exact (eq_false_of_mem_toUppercase letter (List.mem_of_mem_head? first)).2

theorem pascalFrom_false_eq_self (letters : ∀ c ∈ chars, isSeparator c = false) :
    pascalFrom false chars = chars := by
  induction chars with
  | nil => rfl
  | cons c rest ih =>
      rw [List.forall_mem_cons] at letters
      simp [pascalFrom, letters.1, ih letters.2]

/-- A name in Pascal case that is written in ASCII is a normal form. -/
theorem pascalCase_pascalCase {name : String}
    (ascii : ∀ c ∈ (pascalCase name).toList, c.toNat < 128) :
    pascalCase (pascalCase name) = pascalCase name := by
  have letters : ∀ c ∈ (pascalCase name).toList, isSeparator c = false := by
    rw [pascalCase, String.toList_ofList]
    exact fun c => isSeparator_of_mem_pascalFrom
  have start : ∀ c, (pascalCase name).toList.head? = some c → Text.isAsciiLower c = false := by
    rw [pascalCase, String.toList_ofList]
    exact fun c => isAsciiLower_head_pascalFrom
  have written : pascalFrom true (pascalCase name).toList = (pascalCase name).toList := by
    cases shape : (pascalCase name).toList with
    | nil => rfl
    | cons c rest =>
        rw [shape] at ascii letters start
        rw [List.forall_mem_cons] at ascii letters
        rw [pascalFrom, if_neg (by simp [letters.1]), if_pos rfl,
          Text.toUppercase_eq_self ascii.1 (start c rfl), pascalFrom_false_eq_self letters.2]
        rfl
  conv_lhs => rw [pascalCase, written, String.ofList_toList]

/-! ## Derived names -/

/-- A name in snake case: it has no capitals, no separators but underscores, and no
underscore at its ends or beside another one. -/
structure IsSnakeCase (name : String) : Prop where
  small : ∀ c ∈ name.toList, Text.isUppercase c = false
  separators : ∀ c ∈ name.toList, isSeparator c = true → c = '_'
  first : name.toList.head? ≠ some '_'
  last : name.toList.getLast? ≠ some '_'
  single : name.toList.IsChain fun c next => c = '_' → next ≠ '_'

theorem toNat_lt_of_mem_snakeCase {name : String} (ascii : ∀ c ∈ name.toList, c.toNat < 128)
    {d : Char} (member : d ∈ (snakeCase name).toList) : d.toNat < 128 := by
  by_cases underscore : d = '_'
  · rw [underscore]
    decide
  · obtain ⟨c, among, -, inside⟩ := exists_of_mem_snakeCase member underscore
    rw [Text.toLowercase_of_ascii (ascii c among), List.mem_singleton] at inside
    rw [inside]
    exact Text.forall_ascii (fun c => c.toLower.toNat < 128) (by decide) (ascii c among)

theorem isSnakeCase_snakeCase {name : String} (ascii : ∀ c ∈ name.toList, c.toNat < 128) :
    IsSnakeCase (snakeCase name) where
  small c member := by
    rw [Text.isUppercase_of_ascii (toNat_lt_of_mem_snakeCase ascii member)]
    exact isAsciiUpper_of_mem_snakeCase member
  separators := (isJoinedAfter_snakeCase name).eq_underscore
  first := (isJoinedAfter_snakeCase name).head?_ne
  last := getLast?_snakeCase name
  single := by
    have chain := (isJoinedAfter_snakeCase name).isChain
    rwa [Option.toList_none, List.nil_append] at chain

/-- Names in snake case and derived identifiers.

What is made of a name in ASCII is in snake case, has apart from underscores the characters
of the name without its separators, in order and in lower case, and is left as it is if it is
written in snake case again.

An identifier that is derived from a name is derived from itself in the same way, whatever
characters the name has. -/
theorem derived_names_are_normal :
    (∀ name : String, (∀ c ∈ name.toList, c.toNat < 128) →
      IsSnakeCase (snakeCase name) ∧
        (snakeCase name).toList.filter (· != '_') =
          (name.toList.filter fun c => !isSeparator c).map Char.toLower ∧
        snakeCase (snakeCase name) = snakeCase name) ∧
    (∀ name identifier, propertyIdentifier name = .ok identifier →
      propertyIdentifier identifier = .ok identifier) ∧
    ∀ name identifier, typeIdentifier name = .ok identifier →
      typeIdentifier identifier = .ok identifier := by
  refine ⟨fun name ascii => ⟨isSnakeCase_snakeCase ascii, ?_,
    snakeCase_snakeCase fun c => toNat_lt_of_mem_snakeCase ascii⟩, ?_, ?_⟩
  · rw [filter_snakeCase, List.map_eq_flatMap]
    refine List.flatMap_congr fun c member => ?_
    exact Text.toLowercase_of_ascii (ascii c (List.mem_of_mem_filter member))
  · intro name identifier derived
    obtain ⟨rfl, legal⟩ := check_eq_ok_iff.mp derived
    have normal := snakeCase_snakeCase fun c member => toNat_lt_of_isWord (legal.isWord c member)
    rw [propertyIdentifier, normal, check_eq_ok_iff]
    exact ⟨rfl, legal⟩
  · intro name identifier derived
    obtain ⟨rfl, legal⟩ := check_eq_ok_iff.mp derived
    have normal := pascalCase_pascalCase fun c member =>
      toNat_lt_of_isWord (legal.isWord c member)
    rw [typeIdentifier, normal, check_eq_ok_iff]
    exact ⟨rfl, legal⟩

/-- A name with a run of capitals, with separators at its ends and beside one another and
with a digit; a property named with the Kelvin sign and a type named with a long s. -/
theorem derived_names_of_samples_are_normal :
    (snakeCase "_HTTPServer-2.-partyID " = "http_server_2_party_id" ∧
        IsSnakeCase "http_server_2_party_id" ∧
        "http_server_2_party_id".toList.filter (· != '_') =
          ("_HTTPServer-2.-partyID ".toList.filter fun c => !isSeparator c).map Char.toLower ∧
        snakeCase "http_server_2_party_id" = "http_server_2_party_id") ∧
      (propertyIdentifier "party\u212a" = .ok "party_k" ∧
        propertyIdentifier "party_k" = .ok "party_k") ∧
      typeIdentifier "\u017fegment-party" = .ok "SegmentParty" ∧
        typeIdentifier "SegmentParty" = .ok "SegmentParty" := by
  obtain ⟨spelled, properties, types⟩ := derived_names_are_normal
  have written : snakeCase "_HTTPServer-2.-partyID " = "http_server_2_party_id" := by
    decide +kernel
  have property : propertyIdentifier "party\u212a" = .ok "party_k" := by decide +kernel
  have type : typeIdentifier "\u017fegment-party" = .ok "SegmentParty" := by decide +kernel
  have sample := spelled "_HTTPServer-2.-partyID " (by simp)
  rw [written] at sample
  exact ⟨⟨written, sample⟩, ⟨property, properties _ _ property⟩, type, types _ _ type⟩

end FlatMessage.Naming
