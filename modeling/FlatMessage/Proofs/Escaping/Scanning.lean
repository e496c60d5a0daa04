import FlatMessage.Delimiter.Escape
import Mathlib.Data.List.Infix

/-!
# Scanning a value for special texts

A value is scanned from left to right into tokens: where special texts begin, the longest of
them is released, and every other character is plain.  The tokens after a place depend only
on what follows it, and what is cut off after a token does not change the tokens before.
-/

namespace FlatMessage.Delimiter.Escape

/-! ## The longest special text -/

/-- No special text begins a text. -/
def IsPlain (specials : List (List Char)) (text : List Char) : Prop :=
  ∀ special ∈ specials, ¬special <+: text

/-- A special text begins a text, and all others that do are beginnings of it. -/
structure IsLongest (specials : List (List Char)) (text special : List Char) : Prop where
  member : special ∈ specials
  begins : special <+: text
  longest : ∀ other ∈ specials, other <+: text → other <+: special

section

variable {specials : List (List Char)} {text special other rest : List Char}

theorem IsLongest.unique (first : IsLongest specials text special)
    (second : IsLongest specials text other) : special = other :=
  (second.longest special first.member first.begins).eq_of_length_le
    (first.longest other second.member second.begins).length_le

/-- The longest special text does not depend on the order of the special texts. -/
theorem IsLongest.of_mem_iff {others : List (List Char)}
    (isLongest : IsLongest specials text special)
    (same : ∀ special, special ∈ specials ↔ special ∈ others) :
    IsLongest others text special where
  member := (same special).mp isLongest.member
  begins := isLongest.begins
  longest := fun other member => isLongest.longest other ((same other).mpr member)

/-- What is cut off after a special text does not make another one the longest. -/
theorem IsLongest.of_append (isLongest : IsLongest specials (special ++ text ++ rest) special) :
    IsLongest specials (special ++ text) special where
  member := isLongest.member
  begins := List.prefix_append special text
  longest := fun other member begins =>
    isLongest.longest other member (begins.trans (List.prefix_append _ rest))

theorem IsPlain.of_append (isPlain : IsPlain specials (text ++ rest)) :
    IsPlain specials text :=
  fun special member begins => isPlain special member (begins.trans (List.prefix_append _ rest))

end

/-! ## Tokens -/

/-- A part of a value: a plain character, or a special text that is released. -/
inductive Token
  | plain (c : Char)
  | released (special : List Char)

namespace Token

/-- The part of the value. -/
def text : Token → List Char
  | plain c => [c]
  | released special => special

/-- What is written for the part. -/
def written (escape : List Char) : Token → List Char
  | plain c => [c]
  | released special => escape ++ special

/-- The value that tokens are the parts of. -/
def textOf (tokens : List Token) : List Char :=
  tokens.flatMap text

/-- What is written for tokens. -/
def writtenOf (escape : List Char) (tokens : List Token) : List Char :=
  tokens.flatMap (written escape)

@[simp]
theorem textOf_cons (token : Token) (rest : List Token) :
    textOf (token :: rest) = token.text ++ textOf rest :=
  List.flatMap_cons

@[simp]
theorem writtenOf_cons (escape : List Char) (token : Token) (rest : List Token) :
    writtenOf escape (token :: rest) = token.written escape ++ writtenOf escape rest :=
  List.flatMap_cons

@[simp]
theorem textOf_append (first second : List Token) :
    textOf (first ++ second) = textOf first ++ textOf second :=
  List.flatMap_append

@[simp]
theorem writtenOf_append (escape : List Char) (first second : List Token) :
    writtenOf escape (first ++ second) = writtenOf escape first ++ writtenOf escape second :=
  List.flatMap_append

end Token

open Token (textOf writtenOf)

/-- The scan of a value before the text `after` makes a token. -/
def Token.IsNext (specials : List (List Char)) (after : List Char) : Token → Prop
  | plain c => IsPlain specials (c :: after)
  | released special => IsLongest specials (special ++ after) special

/-- Tokens are the scan of the value that they are the parts of. -/
def IsScan (specials : List (List Char)) : List Token → Prop
  | [] => True
  | token :: rest => token.IsNext specials (textOf rest) ∧ IsScan specials rest

section

variable {specials : List (List Char)}

theorem Token.IsNext.of_append {token : Token} {after rest : List Char}
    (isNext : token.IsNext specials (after ++ rest)) : token.IsNext specials after := by
  cases token with
  | plain c => exact IsPlain.of_append isNext
  | released special =>
      rw [Token.IsNext, ← List.append_assoc] at isNext
      exact IsLongest.of_append isNext

/-- The first tokens of a scan are the scan of what they are the parts of. -/
theorem IsScan.of_append {tokens more : List Token} (isScan : IsScan specials (tokens ++ more)) :
    IsScan specials tokens := by
  induction tokens with
  | nil => trivial
  | cons token rest ih =>
      rw [List.cons_append, IsScan, Token.textOf_append] at isScan
      exact ⟨isScan.1.of_append, ih isScan.2⟩

/-- A scan does not depend on the order of the special texts. -/
theorem IsScan.of_mem_iff {others : List (List Char)} {tokens : List Token}
    (isScan : IsScan specials tokens)
    (same : ∀ special, special ∈ specials ↔ special ∈ others) : IsScan others tokens := by
  induction tokens with
  | nil => trivial
  | cons token rest ih =>
      refine ⟨?_, ih isScan.2⟩
      cases token with
      | plain c => exact fun special member => isScan.1 special ((same special).mpr member)
      | released special => exact IsLongest.of_mem_iff isScan.1 same

/-- Every value has a scan, where special texts are not empty and some longest one is known
wherever one begins. -/
theorem exists_isScan (filled : [] ∉ specials)
    (known : ∀ text, IsPlain specials text ∨ ∃ special, IsLongest specials text special)
    (text : List Char) : ∃ tokens, IsScan specials tokens ∧ textOf tokens = text := by
  induction size : text.length using Nat.strong_induction_on generalizing text with
  | _ size ih =>
      subst size
      rcases known text with isPlain | ⟨special, isLongest⟩
      · cases text with
        | nil => exact ⟨[], trivial, rfl⟩
        | cons c rest =>
            obtain ⟨tokens, isScan, rfl⟩ := ih rest.length (by simp) rest rfl
            exact ⟨.plain c :: tokens, ⟨isPlain, isScan⟩, by simp [Token.text]⟩
      · obtain ⟨rest, rfl⟩ := isLongest.begins
        have some_ : special ≠ [] := fun none_ => filled (none_ ▸ isLongest.member)
        have shorter : rest.length < (special ++ rest).length := by
          rw [List.length_append]
          have := List.length_pos_of_ne_nil some_
          omega
        obtain ⟨tokens, isScan, rfl⟩ := ih rest.length shorter rest rfl
        exact ⟨.released special :: tokens, ⟨isLongest, isScan⟩, by simp [Token.text]⟩

end

/-! ## The scan of escaping -/

theorem isPrefixOf?_eq_some_iff {text rest whole : List Char} :
    text.isPrefixOf? whole = some rest ↔ whole = text ++ rest := by
  induction text generalizing whole with
  | nil => simp [List.isPrefixOf?, eq_comm]
  | cons c text ih =>
      cases whole with
      | nil => simp [List.isPrefixOf?]
      | cons d whole =>
          by_cases same : c = d
          · subst same
            simpa [List.isPrefixOf?] using ih
          · simp [List.isPrefixOf?, same, Ne.symm same]

theorem isPrefixOf?_eq_none_iff {text whole : List Char} :
    text.isPrefixOf? whole = none ↔ ¬text <+: whole := by
  rw [Option.eq_none_iff_forall_ne_some]
  simp only [ne_eq, isPrefixOf?_eq_some_iff]
  constructor
  · rintro none_ ⟨rest, same⟩
    exact none_ rest same.symm
  · rintro none_ rest same
    exact none_ ⟨rest, same.symm⟩

/-- Of two beginnings of a text, the one with fewer bytes is a beginning of the other. -/
theorem prefix_of_utf8ByteSize_le {first second : String} {text : List Char}
    (begins : first.toList <+: text) (beginsToo : second.toList <+: text)
    (smaller : first.utf8ByteSize ≤ second.utf8ByteSize) : first.toList <+: second.toList := by
  rcases List.prefix_or_prefix_of_prefix begins beginsToo with inside | ⟨rest, whole⟩
  · exact inside
  · have longer : first = second ++ String.ofList rest := by
      rw [← String.toList_inj, ← whole]
      simp
    have none_ : String.ofList rest = "" := by
      rw [← String.utf8ByteSize_eq_zero_iff]
      rw [longer, String.utf8ByteSize_append] at smaller
      omega
    rw [longer, none_, String.append_empty]

/-- The first special text that begins a text is the longest that does, if long special
texts come first. -/
theorem match?_cases {specials : List String}
    (sorted : specials.Pairwise fun first second =>
      second.utf8ByteSize ≤ first.utf8ByteSize) (text : List Char) :
    (match? (specials.map String.toList) text = none ∧
        IsPlain (specials.map String.toList) text) ∨
      ∃ special rest, match? (specials.map String.toList) text = some (special, rest) ∧
        text = special ++ rest ∧ IsLongest (specials.map String.toList) text special := by
  induction specials with
  | nil => exact .inl ⟨rfl, nofun⟩
  | cons first others ih =>
      rw [List.pairwise_cons] at sorted
      obtain ⟨longer, sorted⟩ := sorted
      rw [match?, List.map_cons, List.findSome?_cons]
      cases found : first.toList.isPrefixOf? text with
      | some rest =>
          rw [isPrefixOf?_eq_some_iff] at found
          refine .inr ⟨first.toList, rest, rfl, found, List.mem_cons_self, ⟨rest, found.symm⟩, ?_⟩
          intro other member begins
          rcases List.mem_cons.mp member with rfl | member
          · exact List.prefix_rfl
          · obtain ⟨second, inOthers, rfl⟩ := List.mem_map.mp member
            exact prefix_of_utf8ByteSize_le begins ⟨rest, found.symm⟩ (longer second inOthers)
      | none =>
          rw [isPrefixOf?_eq_none_iff] at found
          rcases ih sorted with ⟨none_, isPlain⟩ | ⟨special, rest, some_, whole, isLongest⟩
          · exact .inl ⟨none_, List.forall_mem_cons.mpr ⟨found, isPlain⟩⟩
          · refine .inr ⟨special, rest, some_, whole, List.mem_cons_of_mem _ isLongest.member,
              isLongest.begins, ?_⟩
            rw [List.forall_mem_cons]
            exact ⟨fun begins => absurd begins found, isLongest.longest⟩

/-- Characters that are written already are passed over. -/
theorem chars_append (escape : List Char) (specials : List (List Char))
    (written rest : List Char) :
    chars escape specials written.length (written ++ rest) = chars escape specials 0 rest := by
  induction written with
  | nil => rfl
  | cons c written ih => exact ih

/-- What a value is escaped to is what is written for its scan. -/
theorem chars_textOf {specials : List String} (escape : List Char)
    (sorted : specials.Pairwise fun first second =>
      second.utf8ByteSize ≤ first.utf8ByteSize)
    (filled : "" ∉ specials) {tokens : List Token}
    (isScan : IsScan (specials.map String.toList) tokens) :
    chars escape (specials.map String.toList) 0 (textOf tokens) = writtenOf escape tokens := by
  induction tokens with
  | nil => rfl
  | cons token rest ih =>
      obtain ⟨isNext, later⟩ := isScan
      have further := ih later
      rw [Token.textOf_cons, Token.writtenOf_cons]
      cases token with
      | plain c =>
          rw [Token.text, List.singleton_append, chars]
          rcases match?_cases sorted (c :: textOf rest) with
            ⟨none_, -⟩ | ⟨special, _, -, -, isLongest⟩
          · rw [none_]
            dsimp only
            rw [further]
            rfl
          · exact absurd isLongest.begins (isNext special isLongest.member)
      | released special =>
          rw [Token.text]
          rcases match?_cases sorted (special ++ textOf rest) with
            ⟨-, isPlain⟩ | ⟨other, after, some_, -, isLongest⟩
          · exact absurd isNext.begins (isPlain special isNext.member)
          · obtain rfl := isNext.unique isLongest
            cases special with
            | nil =>
                obtain ⟨empty, member, none_⟩ := List.mem_map.mp isNext.member
                rw [String.toList_eq_nil_iff] at none_
                exact absurd (none_ ▸ member) filled
            | cons c inner =>
                rw [List.cons_append] at some_ ⊢
                rw [chars, some_]
                dsimp only
                rw [List.length_cons, Nat.add_sub_cancel, chars_append, further]
                simp [Token.written]

end FlatMessage.Delimiter.Escape
