import FlatMessage.Proofs.Elements.Contents

/-!
# Reading documents

A text is read exactly where it is the contents of a document with one element outside all
others, and that element is the result: with one element for every element of the document, in
the same order and nesting, under the local name, and with the attributes that its tag has.

The attributes of a tag without faults are all that is written in it but the namespace
declarations.  A fault does not keep the document from being read; the element is then without
the attribute that is not well-formed or comes a second time.
-/

namespace FlatMessage.Xml

/-- The attributes of an element are all those that are written in its tag, which has no other
text. -/
def CarriesWritten (chars : List Char) (attributes : List (String × String)) : Prop :=
  ∃ written, IsAttributes [] chars written ∧ Carries written attributes

/-- The text after the name of a tag that opens an element. -/
def Mark.attributes? : Mark → Option (List Char)
  | .opening _ attributes => some attributes
  | .empty _ attributes => some attributes
  | _ => none

/-- Every tag has nothing but attributes with different names after its own name. -/
def Faultless (found : List Mark) : Prop :=
  ∀ mark ∈ found, ∀ chars ∈ mark.attributes?, ∃ written, IsAttributes [] chars written

theorem eq_map_ok {ε α : Type} {items : List (Except ε α)}
    (whole : ∀ item ∈ items, item.isOk = true) :
    items = (items.filterMap Except.toOption).map .ok := by
  induction items with
  | nil => rfl
  | cons item items ih =>
      rw [List.forall_mem_cons] at whole
      cases item with
      | error _ => cases whole.1
      | ok value => exact congrArg _ (ih whole.2)

/-- A text has nothing but attributes exactly where no fault is found in it. -/
theorem exists_isAttributes_iff {chars : List Char} :
    (∃ written, IsAttributes [] chars written) ↔
      ∀ item ∈ attributeItemsOf chars, item.isOk = true := by
  constructor
  · rintro ⟨written, text⟩ item within
    rw [attributeItemsOf_eq_iff.mpr text] at within
    obtain ⟨_, -, rfl⟩ := List.mem_map.mp within
    rfl
  · exact fun whole => ⟨_, attributeItemsOf_eq_iff.mp (eq_map_ok whole)⟩

instance (chars : List Char) : Decidable (∃ written, IsAttributes [] chars written) :=
  decidable_of_iff _ exists_isAttributes_iff.symm

instance (found : List Mark) : Decidable (Faultless found) :=
  inferInstanceAs (Decidable (∀ mark ∈ found, ∀ chars ∈ mark.attributes?,
    ∃ written, IsAttributes [] chars written))

/-! ## What a tag says of its attributes -/

section

variable {chars : List Char} {carried : List (String × String)}

theorem carriesRead_iff {written : List (List Char × List Char)}
    (text : IsAttributes [] chars written) :
    CarriesRead chars carried ↔ Carries written carried := by
  rw [CarriesRead, ← attributesOf_eq_filterMap, text.attributesOf_eq]

theorem CarriesWritten.carriesRead (carries : CarriesWritten chars carried) :
    CarriesRead chars carried := by
  obtain ⟨written, text, carries⟩ := carries
  exact (carriesRead_iff text).mpr carries

theorem CarriesRead.carriesWritten (faultless : ∃ written, IsAttributes [] chars written)
    (carries : CarriesRead chars carried) : CarriesWritten chars carried := by
  obtain ⟨written, text⟩ := faultless
  exact ⟨written, text, (carriesRead_iff text).mp carries⟩

end

section

variable {carries others : List Char → List (String × String) → Prop} {found : List Mark}
  {elements : List Element} {words : String}

/-- What is said of the attributes may be exchanged tag by tag. -/
theorem Nests.imp (nests : Nests carries found elements words)
    (keeps : ∀ mark ∈ found, ∀ chars ∈ mark.attributes?, ∀ carried,
      carries chars carried → others chars carried) : Nests others found elements words := by
  induction nests with
  | nil => exact .nil
  | text _ ih => exact .text (ih fun mark within => keeps mark (List.mem_cons_of_mem _ within))
  | empty named carry _ ih =>
      exact .empty named (keeps _ List.mem_cons_self _ rfl _ carry)
        (ih fun mark within => keeps mark (List.mem_cons_of_mem _ within))
  | element named carry _ _ inner later =>
      refine .element named (keeps _ List.mem_cons_self _ rfl _ carry) (inner ?_) (later ?_)
      · exact fun mark within => keeps mark (by simp [within])
      · exact fun mark within => keeps mark (by simp [within])

/-- Elements that carry all that is written in their tags have tags without faults. -/
theorem Nests.faultless (nests : Nests CarriesWritten found elements words) : Faultless found := by
  induction nests with
  | nil => exact nofun
  | text _ ih => exact List.forall_mem_cons.mpr ⟨nofun, ih⟩
  | empty _ carry _ ih =>
      obtain ⟨written, text, -⟩ := carry
      refine List.forall_mem_cons.mpr ⟨?_, ih⟩
      rintro chars ⟨⟩
      exact ⟨written, text⟩
  | element _ carry _ _ inner later =>
      obtain ⟨written, text, -⟩ := carry
      refine List.forall_mem_cons.mpr ⟨?_, List.forall_mem_append.mpr
        ⟨inner, List.forall_mem_cons.mpr ⟨nofun, later⟩⟩⟩
      rintro chars ⟨⟩
      exact ⟨written, text⟩

theorem Nests.broken_not_mem (nests : Nests carries found elements words) :
    Mark.broken ∉ found := by
  induction nests <;> simp_all

end

/-! ## Byte order marks -/

section

variable {carries : List Char → List (String × String) → Prop} {c : Char} {chars : List Char}
  {elements : List Element}

theorem IsSilent.isPlain_head (silent : IsSilent chars) : ∀ c ∈ chars.head?, isPlain c = false := by
  cases silent <;> rintro c ⟨⟩ <;> rfl

theorem Contains.of_cons_plain {words : String} (plain : isPlain c = true)
    (contains : Contains carries (c :: chars) elements words) :
    ∃ words, Contains carries chars elements words := by
  generalize same : c :: chars = whole at contains
  cases contains with
  | nil => cases same
  | @silent markup rest _ _ silent later =>
      have first : c ∈ markup.head? := by
        obtain ⟨d, markup, rfl⟩ := List.exists_cons_of_ne_nil silent.ne_nil
        rw [(List.cons.inj same).1]
        rfl
      rw [silent.isPlain_head c first] at plain
      cases plain
  | @text run rest _ words filled inside ends later =>
      obtain ⟨d, run, rfl⟩ := List.exists_cons_of_ne_nil filled
      obtain ⟨rfl, rfl⟩ := List.cons.inj same
      cases run with
      | nil => exact ⟨words, later⟩
      | cons d run =>
          exact ⟨_, .text (List.cons_ne_nil _ _) (List.forall_mem_cons.mp inside).2 ends later⟩
  | empty =>
      rw [(List.cons.inj same).1] at plain
      cases plain
  | element =>
      rw [(List.cons.inj same).1] at plain
      cases plain

theorem Contains.cons_plain {words : String} (plain : isPlain c = true)
    (contains : Contains carries chars elements words) :
    ∃ words, Contains carries (c :: chars) elements words := by
  have single : ∀ d ∈ [c], isPlain d = true := by simpa using plain
  by_cases ends : ∀ d ∈ chars.head?, isPlain d = false
  · exact ⟨_, .text (List.cons_ne_nil c []) single ends contains⟩
  · cases contains with
    | nil => exact absurd nofun ends
    | text filled inside behind later =>
        exact ⟨_, .text (List.cons_ne_nil c _) (List.forall_mem_cons.mpr ⟨plain, inside⟩) behind
          later⟩
    | @silent markup rest _ _ silent later =>
        rw [List.head?_append_of_ne_nil _ silent.ne_nil] at ends
        exact absurd silent.isPlain_head ends
    | empty => exact absurd (by rintro d ⟨⟩; rfl) ends
    | element => exact absurd (by rintro d ⟨⟩; rfl) ends

end

/-! ## Documents that are read -/

/-- The marks are those of the text, without the mark of its byte order. -/
theorem exists_marksOf_eq (text : String) :
    ∃ chars, marksOf text = marks (chars.length + 1) chars ∧
      (text.toList = chars ∨ text.toList = '\ufeff' :: chars) := by
  rw [marksOf]
  split
  · next chars marked => exact ⟨chars, rfl, .inr marked⟩
  · exact ⟨text.toList, rfl, .inl rfl⟩

/-- A text denotes elements exactly where its marks do. -/
theorem exists_contains_iff {carries : List Char → List (String × String) → Prop} {text : String}
    {elements : List Element} :
    (∃ words, Contains carries text.toList elements words) ↔
      ∃ words, Nests carries (marksOf text) elements words := by
  obtain ⟨chars, marked, start⟩ := exists_marksOf_eq text
  have enough := Nat.lt_succ_self chars.length
  rw [marked]
  constructor
  · rintro ⟨words, contains⟩
    obtain ⟨words, contains⟩ : ∃ words, Contains carries chars elements words := by
      rcases start with same | same <;> rw [same] at contains
      · exact ⟨words, contains⟩
      · exact contains.of_cons_plain rfl
    obtain ⟨found, lexes, nests⟩ := contains_iff.mp contains
    rw [lexes.marks_eq enough]
    exact ⟨words, nests⟩
  · rintro ⟨words, nests⟩
    have contains := (lexes_marks enough nests.broken_not_mem).contains nests
    rcases start with same | same <;> rw [same]
    · exact ⟨words, contains⟩
    · exact contains.cons_plain rfl

/-- A text is read exactly where it is a document with one element outside all others, and that
element is the result.  The element has all that is written in the tags exactly where they have
no faults. -/
theorem read_eq_ok_iff_contains (text : String) (element : Element) :
    (read text = .ok element ↔ ∃ words, Contains CarriesRead text.toList [element] words) ∧
      ((∃ words, Contains CarriesWritten text.toList [element] words) ↔
        read text = .ok element ∧ Faultless (marksOf text)) := by
  have reading : read text = .ok element ↔
      ∃ words, Nests CarriesRead (marksOf text) [element] words := assemble_eq_ok_iff
  rw [exists_contains_iff, exists_contains_iff, reading]
  refine ⟨Iff.rfl, ?_, ?_⟩
  · rintro ⟨words, nests⟩
    exact ⟨⟨words, nests.imp fun _ _ _ _ _ => CarriesWritten.carriesRead⟩, nests.faultless⟩
  · rintro ⟨⟨words, nests⟩, faultless⟩
    exact ⟨words, nests.imp fun mark within chars here carried =>
      CarriesRead.carriesWritten (faultless mark within chars here)⟩

/-- Elements keep their nesting, their local names and their attributes. -/
theorem nested_document_is_read :
    ∃ words, Contains CarriesWritten
      "<a xmlns:s='urn:x' k='1 &lt; 2'>x <s:b k=\"\"/> y<!-- <c/> --></a>".toList
      [.mk "a" [("k", "1 < 2")] [.mk "b" [("k", "")] [] ""] "xy"] words :=
  (read_eq_ok_iff_contains _ _).2.mpr ⟨rfl, by decide⟩

/-- The element of a segment with these attributes. -/
def partySegment : Element :=
  .mk "segment" [("segcode", "NAD"), ("xmltag", "party")] [] ""

/-- A document is read although an attribute in it has no quotes or is there twice, and the
element does not have that attribute. -/
theorem faulty_attributes_are_passed_over :
    (read "<segment segcode=\"NAD\" minOccurs=1 xmltag=\"party\"/>" = .ok partySegment ∧
        ¬ ∃ words, Contains CarriesWritten
          "<segment segcode=\"NAD\" minOccurs=1 xmltag=\"party\"/>".toList
          [partySegment] words) ∧
      read "<segment segcode=\"NAD\" xmltag=\"party\" xmltag=\"buyer\"/>" = .ok partySegment ∧
        ¬ ∃ words, Contains CarriesWritten
          "<segment segcode=\"NAD\" xmltag=\"party\" xmltag=\"buyer\"/>".toList
          [partySegment] words := by
  have refused {text : String} {element : Element} (faulty : ¬ Faultless (marksOf text)) :
      ¬ ∃ words, Contains CarriesWritten text.toList [element] words := by
    rw [exists_contains_iff]
    exact fun ⟨_, nests⟩ => faulty nests.faultless
  exact ⟨⟨rfl, refused (by decide)⟩, rfl, refused (by decide)⟩

end FlatMessage.Xml
