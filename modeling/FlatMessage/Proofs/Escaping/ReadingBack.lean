import FlatMessage.Proofs.Escaping.Scanning
import FlatMessage.Schema.Validation
import Mathlib

/-!
# Reading escaped values back

An escaped value is read from left to right.  The escape text with a special text after it
stands for the longest such special text; where a separator begins otherwise, the value would
end; every other character stands for itself.

Distinct special texts are not enough for every value to be read back: what is written for
two neighbouring tokens may contain a separator, or a longer special text, that is in neither
of them.  This shows in the critical texts of a table already, of which there are finitely
many.  It does not happen in a table whose escape does not meet the inside of a special text.
-/

namespace FlatMessage.Delimiter

namespace Escape

open Token (textOf writtenOf)

/-! ## Reading -/

/-- The longest of some texts that begins what is read. -/
def longest? (texts : List (List Char)) (chars : List Char) : Option (List Char) :=
  (texts.filter (·.isPrefixOf chars)).argmax List.length

/-- The texts that an escape releases. -/
def releasable (escape : List Char) (separators : List (List Char)) : List (List Char) :=
  separators ++ [escape]

/-- The special text that is released at the beginning of what is read. -/
def released? (escape : List Char) (separators : List (List Char)) (chars : List Char) :
    Option (List Char) :=
  (escape.isPrefixOf? chars).bind (longest? (releasable escape separators))

/-- Read an escaped value, or nothing if a separator is met in it.  `skip` counts the
characters that are read already. -/
def readFrom (escape : List Char) (separators : List (List Char)) (skip : Nat) :
    List Char → Option (List Char)
  | [] => some []
  | c :: rest =>
      match skip with
      | n + 1 => readFrom escape separators n rest
      | 0 =>
          match released? escape separators (c :: rest) with
          | some special =>
              (readFrom escape separators (escape.length + special.length - 1) rest).map
                (special ++ ·)
          | none =>
              if separators.any (·.isPrefixOf (c :: rest)) then none
              else (readFrom escape separators 0 rest).map (c :: ·)

/-- Read an escaped value. -/
def read? (escape : List Char) (separators : List (List Char)) (chars : List Char) :
    Option (List Char) :=
  readFrom escape separators 0 chars

section

variable {texts : List (List Char)} {chars special : List Char}

theorem isLongest_of_longest? (found : longest? texts chars = some special) :
    IsLongest texts chars special := by
  have member := List.argmax_mem (Option.mem_def.mpr found)
  rw [List.mem_filter, List.isPrefixOf_iff_prefix] at member
  refine ⟨member.1, member.2, fun other inTexts begins => ?_⟩
  have candidate : other ∈ texts.filter (·.isPrefixOf chars) := by
    rw [List.mem_filter, List.isPrefixOf_iff_prefix]
    exact ⟨inTexts, begins⟩
  have shorter := List.le_of_mem_argmax candidate (Option.mem_def.mpr found)
  exact List.prefix_of_prefix_length_le begins member.2 shorter

theorem longest?_eq_some_iff : longest? texts chars = some special ↔
    IsLongest texts chars special := by
  refine ⟨isLongest_of_longest?, fun isLongest => ?_⟩
  cases found : longest? texts chars with
  | none =>
      rw [longest?, List.argmax_eq_none, List.filter_eq_nil_iff] at found
      refine absurd ?_ (found special isLongest.member)
      rw [List.isPrefixOf_iff_prefix]
      exact isLongest.begins
  | some other => rw [isLongest.unique (isLongest_of_longest? found)]

theorem longest?_eq_none_iff : longest? texts chars = none ↔ IsPlain texts chars := by
  rw [longest?, List.argmax_eq_none, List.filter_eq_nil_iff]
  refine forall₂_congr fun special _ => ?_
  rw [List.isPrefixOf_iff_prefix]

end

section

variable {escape : List Char} {separators : List (List Char)}

theorem released?_eq_some_iff {chars special : List Char} :
    released? escape separators chars = some special ↔
      ∃ rest, chars = escape ++ rest ∧
        IsLongest (releasable escape separators) rest special := by
  simp only [released?, Option.bind_eq_some_iff, isPrefixOf?_eq_some_iff,
    longest?_eq_some_iff]

/-- Nothing is released where the escape or a special text after it is missing. -/
theorem released?_eq_none_iff {chars : List Char} :
    released? escape separators chars = none ↔
      ∀ special ∈ releasable escape separators, ¬escape ++ special <+: chars := by
  rw [released?, Option.bind_eq_none_iff]
  simp only [isPrefixOf?_eq_some_iff, longest?_eq_none_iff]
  constructor
  · rintro plain special member ⟨rest, rfl⟩
    exact plain (special ++ rest) (List.append_assoc _ _ _) special member
      (List.prefix_append _ _)
  · rintro none_ rest rfl special member begins
    exact none_ special member ((List.prefix_append_right_inj escape).mpr begins)

/-- Characters that are read already are passed over. -/
theorem readFrom_append (before rest : List Char) :
    readFrom escape separators before.length (before ++ rest) =
      read? escape separators rest := by
  induction before with
  | nil => rfl
  | cons c before ih => exact ih

theorem read?_released (some_ : escape ≠ []) {special rest : List Char}
    (found : released? escape separators (escape ++ special ++ rest) = some special) :
    read? escape separators (escape ++ special ++ rest) =
      (read? escape separators rest).map (special ++ ·) := by
  obtain ⟨c, inner, rfl⟩ := List.exists_cons_of_ne_nil some_
  have length : (c :: inner).length + special.length - 1 = (inner ++ special).length := by
    rw [List.length_cons, List.length_append]
    omega
  rw [List.cons_append, List.cons_append] at found ⊢
  rw [read?, readFrom, found]
  dsimp only
  rw [length, readFrom_append]

theorem read?_cons {c : Char} {rest : List Char}
    (none_ : released? escape separators (c :: rest) = none) :
    read? escape separators (c :: rest) =
      if separators.any (·.isPrefixOf (c :: rest)) then none
      else (read? escape separators rest).map (c :: ·) := by
  rw [read?, readFrom, none_]
  rfl

/-! ## Misread tokens -/

/-- With `after` written after it, a token is not read as what it was written for. -/
def Token.IsMisread (escape : List Char) (separators : List (List Char))
    (after : List Char) : Token → Prop
  | plain c =>
      (∃ special ∈ releasable escape separators, escape ++ special <+: c :: after) ∨
        ∃ separator ∈ separators, separator <+: c :: after
  | released special =>
      ∃ other ∈ releasable escape separators,
        special.length < other.length ∧ other <+: special ++ after

variable {token : Token} {value after : List Char}

/-- A token that is not misread is read first. -/
theorem read?_written (some_ : escape ≠ [])
    (isNext : token.IsNext (releasable escape separators) value)
    (read : ¬token.IsMisread escape separators after) :
    read? escape separators (token.written escape ++ after) =
      (read? escape separators after).map (token.text ++ ·) := by
  cases token with
  | plain c =>
      rw [Token.IsMisread, not_or] at read
      have none_ : released? escape separators (c :: after) = none := by
        rw [released?_eq_none_iff]
        intro special member begins
        exact read.1 ⟨special, member, begins⟩
      have other : separators.any (·.isPrefixOf (c :: after)) = false := by
        rw [List.any_eq_false]
        intro separator member begins
        rw [List.isPrefixOf_iff_prefix] at begins
        exact read.2 ⟨separator, member, begins⟩
      have whole : Token.written escape (.plain c) ++ after = c :: after := rfl
      rw [whole, read?_cons none_, other]
      rfl
  | released special =>
      have found : released? escape separators (escape ++ special ++ after) = some special := by
        rw [released?_eq_some_iff]
        refine ⟨special ++ after, List.append_assoc _ _ _, isNext.member,
          List.prefix_append _ _, fun other member begins => ?_⟩
        refine List.prefix_of_prefix_length_le begins (List.prefix_append _ _) ?_
        by_contra longer
        exact read ⟨other, member, Nat.lt_of_not_le longer, begins⟩
      exact read?_released some_ found

/-- A misread token does not lead to the value that was written, by no accident after it. -/
theorem read?_written_ne (some_ : escape ≠ [])
    (isNext : token.IsNext (releasable escape separators) value)
    (misread : token.IsMisread escape separators after) :
    read? escape separators (token.written escape ++ after) ≠ some (token.text ++ value) := by
  intro same
  cases token with
  | plain c =>
      have whole : Token.written escape (.plain c) ++ after = c :: after := rfl
      rw [whole] at same
      cases found : released? escape separators (c :: after) with
      | some special =>
          obtain ⟨rest, cut, isLongest⟩ := released?_eq_some_iff.mp found
          obtain ⟨last, rfl⟩ := isLongest.begins
          rw [← List.append_assoc] at cut
          rw [cut] at same found
          rw [read?_released some_ found] at same
          obtain ⟨read, -, text⟩ := Option.map_eq_some_iff.mp same
          exact isNext special isLongest.member ⟨read, text⟩
      | none =>
          rw [read?_cons found] at same
          rcases misread with ⟨special, member, begins⟩ | ⟨separator, member, begins⟩
          · exact released?_eq_none_iff.mp found special member begins
          · have met : separators.any (·.isPrefixOf (c :: after)) = true := by
              rw [List.any_eq_true]
              exact ⟨separator, member, List.isPrefixOf_iff_prefix.mpr begins⟩
            rw [if_pos met] at same
            cases same
  | released special =>
      obtain ⟨other, member, longer, begins⟩ := misread
      have whole : Token.written escape (.released special) ++ after =
          escape ++ (special ++ after) := List.append_assoc _ _ _
      rw [whole] at same
      cases found : released? escape separators (escape ++ (special ++ after)) with
      | none =>
          refine released?_eq_none_iff.mp found other member ?_
          exact (List.prefix_append_right_inj escape).mpr begins
      | some taken =>
          obtain ⟨rest, cut, isLongest⟩ := released?_eq_some_iff.mp found
          obtain rfl := List.append_cancel_left cut
          obtain ⟨last, parts⟩ := isLongest.begins
          rw [← parts, ← List.append_assoc] at same found
          rw [read?_released some_ found] at same
          obtain ⟨read, -, text⟩ := Option.map_eq_some_iff.mp same
          have shorter := (isNext.longest taken isLongest.member ⟨read, text⟩).length_le
          have further := (isLongest.longest other member begins).length_le
          omega

/-- The last token of a scan is not misread. -/
theorem not_isMisread_nil (isNext : token.IsNext (releasable escape separators) []) :
    ¬token.IsMisread escape separators [] := by
  cases token with
  | plain c =>
      rintro (⟨special, -, begins⟩ | ⟨separator, member, begins⟩)
      · refine isNext escape ?_ ((List.prefix_append _ special).trans begins)
        exact List.mem_append_right _ List.mem_cons_self
      · exact isNext separator (List.mem_append_left _ member) begins
  | released special =>
      rintro ⟨other, -, longer, begins⟩
      have shorter := begins.length_le
      rw [List.append_nil] at shorter
      omega

/-! ## Reading scans back -/

/-- What is written for tokens is read as the value that they are the parts of. -/
def ReadsBack (escape : List Char) (separators : List (List Char)) (tokens : List Token) :
    Prop :=
  read? escape separators (writtenOf escape tokens) = some (textOf tokens)

/-- A scan is read back if its first token is not misread and the others are read back. -/
theorem readsBack_cons_iff (some_ : escape ≠ []) {rest : List Token}
    (isScan : IsScan (releasable escape separators) (token :: rest)) :
    ReadsBack escape separators (token :: rest) ↔
      ¬token.IsMisread escape separators (writtenOf escape rest) ∧
        ReadsBack escape separators rest := by
  rw [ReadsBack, Token.writtenOf_cons, Token.textOf_cons]
  by_cases misread : token.IsMisread escape separators (writtenOf escape rest)
  · exact iff_of_false (read?_written_ne some_ isScan.1 misread) fun both => both.1 misread
  · rw [read?_written some_ isScan.1 misread, and_iff_right misread, ReadsBack]
    constructor
    · intro read
      obtain ⟨text, read, same⟩ := Option.map_eq_some_iff.mp read
      rw [read, List.append_cancel_left same]
    · intro read
      rw [read]
      rfl

/-! ## Critical texts -/

/-- What must not begin in an escaped value where it does not begin in the value: separators,
and the escape with a special text after it. -/
def patterns (escape : List Char) (separators : List (List Char)) : List (List Char) :=
  separators ++ (releasable escape separators).map (escape ++ ·)

/-- The texts whose escaped form may end in the course of a pattern: what the beginning of a
pattern is read as, with the rest of the pattern or with a special text. -/
def critical (escape : List Char) (separators : List (List Char)) : List (List Char) :=
  (patterns escape separators).flatMap fun pattern =>
    pattern.inits.flatMap fun start =>
      match read? escape separators start with
      | some text =>
          (pattern.drop start.length :: releasable escape separators).map (text ++ ·)
      | none => []

/-- A token that is misread because of what comes last has a pattern from it on, which ends
in what comes last. -/
theorem exists_pattern {before more : List Char}
    (misread : token.IsMisread escape separators (before ++ more))
    (read : ¬token.IsMisread escape separators before) :
    ∃ pattern ∈ patterns escape separators, ∃ rest, rest ≠ [] ∧ rest <+: more ∧
      pattern = token.written escape ++ before ++ rest := by
  -- A pattern from the token on ends behind `before`: else the token is misread without
  -- what comes last.
  have within : ∀ pattern, pattern <+: token.written escape ++ (before ++ more) →
      ¬pattern <+: token.written escape ++ before →
        ∃ rest, rest ≠ [] ∧ rest <+: more ∧
          pattern = token.written escape ++ before ++ rest := by
    intro pattern begins short
    rw [← List.append_assoc] at begins
    rcases List.prefix_or_prefix_of_prefix begins (List.prefix_append _ more) with
      inside | ⟨rest, rfl⟩
    · exact absurd inside short
    · refine ⟨rest, ?_, (List.prefix_append_right_inj _).mp begins, rfl⟩
      rintro rfl
      exact short (by rw [List.append_nil])
  cases token with
  | plain c =>
      rw [Token.IsMisread, not_or] at read
      rcases misread with ⟨special, member, begins⟩ | ⟨separator, member, begins⟩
      · refine ⟨escape ++ special, ?_, within _ begins fun inside => read.1 ⟨special, member,
          inside⟩⟩
        exact List.mem_append_right _ (List.mem_map_of_mem member)
      · refine ⟨separator, List.mem_append_left _ member, within _ begins fun inside =>
          read.2 ⟨separator, member, inside⟩⟩
  | released special =>
      obtain ⟨other, member, longer, begins⟩ := misread
      refine ⟨escape ++ other, List.mem_append_right _ (List.mem_map_of_mem member),
        within _ ?_ fun inside => read ⟨other, member, longer, ?_⟩⟩
      · rw [Token.written, List.append_assoc]
        exact (List.prefix_append_right_inj escape).mpr begins
      · rw [Token.written, List.append_assoc] at inside
        exact (List.prefix_append_right_inj escape).mp inside

/-- The value is critical if its first token is misread, but not without its last one. -/
theorem textOf_mem_critical {tokens : List Token} {last : Token}
    (isScan : IsScan (releasable escape separators) (tokens ++ [last]))
    (read : ReadsBack escape separators tokens) {pattern rest : List Char}
    (isPattern : pattern ∈ patterns escape separators) (some_ : rest ≠ [])
    (inLast : rest <+: last.written escape)
    (whole : pattern = writtenOf escape tokens ++ rest) :
    textOf (tokens ++ [last]) ∈ critical escape separators := by
  rw [critical, List.mem_flatMap]
  refine ⟨pattern, isPattern, ?_⟩
  rw [List.mem_flatMap]
  refine ⟨writtenOf escape tokens, ?_, ?_⟩
  · rw [List.mem_inits, whole]
    exact List.prefix_append _ _
  rw [read]
  dsimp only
  rw [List.mem_map, whole, List.drop_left, Token.textOf_append]
  refine ⟨last.text, ?_, by simp [textOf]⟩
  cases last with
  | plain c =>
      -- What is written for a plain character is the character, so nothing of it is left.
      have same : rest = [c] := by
        refine inLast.eq_of_length_le ?_
        have := List.length_pos_of_ne_nil some_
        simp [Token.written]
        omega
      rw [same]
      exact List.mem_cons_self
  | released special =>
      have isNext : IsScan (releasable escape separators) [.released special] := by
        clear read whole
        induction tokens with
        | nil => exact isScan
        | cons token others ih => exact ih isScan.2
      exact List.mem_cons_of_mem _ isNext.1.member

/-- If the critical texts are read back, so is every scan. -/
theorem readsBack_of_critical (some_ : escape ≠ [])
    (good : ∀ tokens, IsScan (releasable escape separators) tokens →
      textOf tokens ∈ critical escape separators → ReadsBack escape separators tokens)
    (tokens : List Token) (isScan : IsScan (releasable escape separators) tokens) :
    ReadsBack escape separators tokens := by
  -- A shortest scan that is not read back misreads its first token because of its last one.
  induction size : tokens.length using Nat.strong_induction_on generalizing tokens with
  | _ size ih =>
      subst size
      cases tokens with
      | nil => rfl
      | cons token rest =>
          have readRest := ih rest.length (by simp) rest isScan.2 rfl
          by_contra unread
          have misread : token.IsMisread escape separators (writtenOf escape rest) := by
            by_contra read
            exact unread ((readsBack_cons_iff some_ isScan).mpr ⟨read, readRest⟩)
          rcases List.eq_nil_or_concat' rest with rfl | ⟨before, last, rfl⟩
          · exact not_isMisread_nil isScan.1 misread
          · have start : IsScan (releasable escape separators) (token :: before) :=
              IsScan.of_append isScan
            have readStart := ih (token :: before).length (by simp) (token :: before) start rfl
            have read := ((readsBack_cons_iff some_ start).mp readStart).1
            rw [Token.writtenOf_append] at misread
            obtain ⟨pattern, isPattern, tail, some_', inLast, whole⟩ := exists_pattern misread read
            refine unread (good _ isScan ?_)
            refine textOf_mem_critical isScan readStart isPattern some_' ?_ whole
            simpa [writtenOf] using inLast

/-! ## Tables that keep special texts apart -/

/-- The escape does not meet the inside of a special text: what is left of one after its
first characters does not begin the escape or begin with it. -/
def KeepsApart (escape : List Char) (separators : List (List Char)) : Prop :=
  ∀ special ∈ releasable escape separators, ∀ rest ∈ special.tail.tails, rest ≠ [] →
    ¬rest <+: escape ∧ ¬escape <+: rest

instance (escape : List Char) (separators : List (List Char)) :
    Decidable (KeepsApart escape separators) :=
  inferInstanceAs (Decidable (∀ special ∈ releasable escape separators,
    ∀ rest ∈ special.tail.tails, rest ≠ [] → ¬rest <+: escape ∧ ¬escape <+: rest))

/-- What is left of a special text begins in an escaped value only where it begins in the
value. -/
theorem KeepsApart.prefix_textOf (apart : KeepsApart escape separators) {special : List Char}
    (member : special ∈ releasable escape separators) {rest : List Char}
    (isRest : rest <:+ special.tail) {tokens : List Token}
    (begins : rest <+: writtenOf escape tokens) : rest <+: textOf tokens := by
  induction tokens generalizing rest with
  | nil => exact begins
  | cons token others ih =>
      cases rest with
      | nil => exact List.nil_prefix
      | cons c rest =>
          rw [Token.writtenOf_cons] at begins
          rw [Token.textOf_cons]
          cases token with
          | plain d =>
              obtain ⟨same, begins⟩ := List.cons_prefix_cons.mp begins
              exact List.cons_prefix_cons.mpr
                ⟨same, ih ((List.suffix_cons c rest).trans isRest) begins⟩
          | released other =>
              have meets := apart special member (c :: rest)
                ((List.mem_tails _ _).mpr isRest) (List.cons_ne_nil c rest)
              rw [Token.written, List.append_assoc] at begins
              exact absurd (List.prefix_or_prefix_of_prefix begins (List.prefix_append escape _))
                (not_or.mpr meets)

/-- Where the escape does not meet the inside of special texts, no token is misread. -/
theorem KeepsApart.not_isMisread (apart : KeepsApart escape separators) (some_ : escape ≠ [])
    (filled : [] ∉ separators) {rest : List Token}
    (isNext : token.IsNext (releasable escape separators) (textOf rest)) :
    ¬token.IsMisread escape separators (writtenOf escape rest) := by
  have filledToo : ∀ special ∈ releasable escape separators, special ≠ [] := by
    intro special member
    rcases List.mem_append.mp member with inSeparators | isEscape
    · rintro rfl
      exact filled inSeparators
    · rwa [List.mem_singleton.mp isEscape]
  have here : escape ∈ releasable escape separators :=
    List.mem_append_right _ List.mem_cons_self
  cases token with
  | plain c =>
      -- A special text that begins at the character begins there in the value as well.
      have plain : ∀ special ∈ releasable escape separators,
          ¬special <+: c :: writtenOf escape rest := by
        intro special member begins
        obtain ⟨d, inner, rfl⟩ := List.exists_cons_of_ne_nil (filledToo special member)
        obtain ⟨same, begins⟩ := List.cons_prefix_cons.mp begins
        refine isNext _ member (List.cons_prefix_cons.mpr ⟨same, ?_⟩)
        exact apart.prefix_textOf member List.suffix_rfl begins
      rintro (⟨special, -, begins⟩ | ⟨separator, member, begins⟩)
      · exact plain escape here ((List.prefix_append _ special).trans begins)
      · exact plain separator (List.mem_append_left _ member) begins
  | released special =>
      rintro ⟨other, member, longer, begins⟩
      obtain ⟨inner, rfl⟩ := List.prefix_of_prefix_length_le (List.prefix_append special _)
        begins (Nat.le_of_lt longer)
      have isRest : inner <:+ (special ++ inner).tail := by
        rw [List.tail_append_of_ne_nil (filledToo special isNext.member)]
        exact List.suffix_append _ inner
      have inText := apart.prefix_textOf member isRest
        ((List.prefix_append_right_inj special).mp begins)
      have shorter := (isNext.longest _ member
        ((List.prefix_append_right_inj special).mpr inText)).length_le
      omega

/-- Where the escape does not meet the inside of special texts, every scan is read back. -/
theorem KeepsApart.readsBack (apart : KeepsApart escape separators) (some_ : escape ≠ [])
    (filled : [] ∉ separators) {tokens : List Token}
    (isScan : IsScan (releasable escape separators) tokens) :
    ReadsBack escape separators tokens := by
  induction tokens with
  | nil => rfl
  | cons token rest ih =>
      rw [readsBack_cons_iff some_ isScan]
      exact ⟨apart.not_isMisread some_ filled isScan.1, ih isScan.2⟩

end

end Escape

namespace Table

open Escape.Token (textOf writtenOf)

/-- The structural separators that a table uses. -/
def separators (table : Table) : List (List Char) :=
  ((Level.structural.map table.get).filter (· ≠ "")).map String.toList

/-- Read an escaped value of a table with an escape text. -/
def readValue? (table : Table) (escape text : String) : Option String :=
  (Escape.read? escape.toList table.separators text.toList).map String.ofList

/-- The critical texts of a table with an escape text. -/
def criticalTexts (table : Table) (escape : String) : List String :=
  (Escape.critical escape.toList table.separators).map String.ofList

section

variable {table : Table} {escape : String}

theorem nil_not_mem_separators (table : Table) : [] ∉ table.separators := by
  intro member
  obtain ⟨text, used, none_⟩ := List.mem_map.mp member
  rw [String.toList_eq_nil_iff] at none_
  simp [none_] at used

theorem ne_empty_of_release? (released : table.release? = some escape) : escape ≠ "" := by
  have used := Option.eq_some_of_filter_eq_some released
  rintro rfl
  simp [release?, used] at released

/-- The texts that are released are the separators in use and the escape. -/
theorem mem_releasable_iff {special : List Char} :
    special ∈ (Escape.specials table escape).map String.toList ↔
      special ∈ Escape.releasable escape.toList table.separators := by
  have parts : Escape.releasable escape.toList table.separators =
      ((Level.structural.map table.get).filter (· ≠ "") ++ [escape]).map String.toList := by
    rw [List.map_append]
    rfl
  rw [parts, Escape.specials, Escape.longestFirst, List.mem_map, List.mem_map]
  simp only [List.mem_mergeSort]

theorem empty_not_mem_specials (some_ : escape ≠ "") :
    "" ∉ Escape.specials table escape := by
  simp [Escape.specials, Escape.longestFirst, Ne.symm some_]

/-- Long special texts come first. -/
theorem pairwise_specials (table : Table) (escape : String) :
    (Escape.specials table escape).Pairwise fun first second =>
      second.utf8ByteSize ≤ first.utf8ByteSize := by
  have sorted : (Escape.specials table escape).Pairwise fun first second =>
      decide (second.utf8ByteSize ≤ first.utf8ByteSize) = true := by
    refine List.pairwise_mergeSort ?_ ?_ _
    · simp only [decide_eq_true_eq]
      omega
    · simp only [Bool.or_eq_true, decide_eq_true_eq]
      omega
  exact sorted.imp of_decide_eq_true

/-- A value is escaped as its scan is written. -/
theorem toList_escapeText_textOf (released : table.release? = some escape)
    {tokens : List Escape.Token}
    (isScan : Escape.IsScan (Escape.releasable escape.toList table.separators) tokens) :
    (table.escapeText (String.ofList (textOf tokens))).toList =
      writtenOf escape.toList tokens := by
  rw [escapeText, released]
  dsimp only
  rw [String.toList_ofList, String.toList_ofList]
  exact Escape.chars_textOf escape.toList (pairwise_specials table escape)
    (empty_not_mem_specials (ne_empty_of_release? released))
    (isScan.of_mem_iff fun _ => mem_releasable_iff.symm)

/-- Every value has a scan. -/
theorem exists_textOf_eq (released : table.release? = some escape) (text : String) :
    ∃ tokens, Escape.IsScan (Escape.releasable escape.toList table.separators) tokens ∧
      String.ofList (textOf tokens) = text := by
  have filled : [] ∉ (Escape.specials table escape).map String.toList := by
    intro member
    obtain ⟨special, inSpecials, none_⟩ := List.mem_map.mp member
    rw [String.toList_eq_nil_iff] at none_
    exact empty_not_mem_specials (ne_empty_of_release? released) (none_ ▸ inSpecials)
  have known : ∀ text, Escape.IsPlain ((Escape.specials table escape).map String.toList) text ∨
      ∃ special,
        Escape.IsLongest ((Escape.specials table escape).map String.toList) text special := by
    intro text
    rcases Escape.match?_cases (pairwise_specials table escape) text with
      ⟨-, isPlain⟩ | ⟨special, -, -, -, isLongest⟩
    · exact .inl isPlain
    · exact .inr ⟨special, isLongest⟩
  obtain ⟨tokens, isScan, same⟩ := Escape.exists_isScan filled known text.toList
  refine ⟨tokens, isScan.of_mem_iff fun _ => mem_releasable_iff, ?_⟩
  rw [same, String.ofList_toList]

/-- A value is read back when its scan is. -/
theorem readValue?_escapeText_iff (released : table.release? = some escape)
    {tokens : List Escape.Token}
    (isScan : Escape.IsScan (Escape.releasable escape.toList table.separators) tokens) :
    table.readValue? escape (table.escapeText (String.ofList (textOf tokens))) =
        some (String.ofList (textOf tokens)) ↔
      Escape.ReadsBack escape.toList table.separators tokens := by
  rw [readValue?, toList_escapeText_textOf released isScan, Escape.ReadsBack,
    Option.map_eq_some_iff]
  simp only [String.ofList_inj, exists_eq_right]

end

/-- With an escape text, every value is read back as it was exactly when the critical texts
of the table are; and every value is, if the escape does not meet the inside of a special
text. -/
theorem escapeText_reads_back {table : Table} {escape : String}
    (released : table.release? = some escape) :
    ((∀ text, table.readValue? escape (table.escapeText text) = some text) ↔
        ∀ text ∈ table.criticalTexts escape,
          table.readValue? escape (table.escapeText text) = some text) ∧
      (Escape.KeepsApart escape.toList table.separators →
        ∀ text, table.readValue? escape (table.escapeText text) = some text) := by
  have some_ : escape.toList ≠ [] := by
    rw [ne_eq, String.toList_eq_nil_iff]
    exact ne_empty_of_release? released
  have each : (∀ tokens,
      Escape.IsScan (Escape.releasable escape.toList table.separators) tokens →
        Escape.ReadsBack escape.toList table.separators tokens) →
      ∀ text, table.readValue? escape (table.escapeText text) = some text := by
    intro all text
    obtain ⟨tokens, isScan, rfl⟩ := exists_textOf_eq released text
    exact (readValue?_escapeText_iff released isScan).mpr (all tokens isScan)
  refine ⟨⟨fun all text _ => all text, fun critical => each ?_⟩, fun apart => each ?_⟩
  · refine Escape.readsBack_of_critical some_ fun tokens isScan member => ?_
    rw [← readValue?_escapeText_iff released isScan]
    exact critical _ (List.mem_map_of_mem member)
  · exact fun tokens isScan => apart.readsBack some_ (nil_not_mem_separators table) isScan

/-- A table whose segments end with an apostrophe and a line feed. -/
def ofLines : Table :=
  { edifact with segment := "'\n" }

/-- A table whose field separator has the escape in the middle. -/
def inlaid : Table :=
  { edifact with field := "+?x" }

/-- Values are read back where no separator meets the escape, and where one does but no
critical text shows it. -/
theorem lines_and_inlaid_read_back :
    (ofLines.release? = some "?" ∧ Escape.KeepsApart ['?'] ofLines.separators ∧
        ∀ text, ofLines.readValue? "?" (ofLines.escapeText text) = some text) ∧
      inlaid.release? = some "?" ∧ ¬Escape.KeepsApart ['?'] inlaid.separators ∧
        ∀ text, inlaid.readValue? "?" (inlaid.escapeText text) = some text := by
  have apart : Escape.KeepsApart ['?'] ofLines.separators := by decide
  have critical : (inlaid.criticalTexts "?").all (fun text =>
      inlaid.readValue? "?" (inlaid.escapeText text) = some text) = true := by
    cbv
  refine ⟨⟨rfl, apart, (escapeText_reads_back rfl).2 apart⟩, rfl, by decide, ?_⟩
  refine (escapeText_reads_back rfl).1.mpr ?_
  simpa using critical

/-- A table whose field separator ends with the escape. -/
def crossed : Table :=
  { edifact with field := "+?" }

/-- The special texts of the table are distinct, but a plus sign before an apostrophe is
read as the beginning of a field separator. -/
theorem field_separator_met_in_value :
    Schema.validateDelimiters crossed = .ok () ∧ crossed.release? = some "?" ∧
      crossed.escapeText "+'" = "+?'" ∧
        crossed.readValue? "?" (crossed.escapeText "+'") = none := by
  have escaped : crossed.escapeText "+'" = "+?'" := by cbv
  have read : crossed.readValue? "?" "+?'" = none := by cbv
  exact ⟨rfl, rfl, escaped, escaped ▸ read⟩

end Table

end FlatMessage.Delimiter
