import FlatMessage.Proofs.Compilation
import FlatMessage.Proofs.Separators.Moves
import FlatMessage.Proofs.Unambiguous.Released

/-!
# Levels without a separator

Validation compares the delimiters of a model with each other and with the escape, but
not with the tree: a level may be used without having a separator.  There, a text that
moves to the next slot is written as before.  With separators and an escape of one
character each, this happens only there: no value is written with a separator alone.
-/

namespace FlatMessage

namespace Delimiter

/-! ## Tables of single characters -/

/-- The separators that are used and the escape are single characters. -/
structure Table.HasSingleMarks (table : Table) : Prop where
  separators : ∀ level ∈ Level.structural, table.get level ≠ "" →
    ∃ mark, table.get level = String.singleton mark
  escape : ∃ escape, table.escape = some (String.singleton escape)

namespace Table.HasSingleMarks

variable {table : Table}

theorem singletons (marks : table.HasSingleMarks) (escape : Char) :
    ∀ special ∈ (Escape.specials table (String.singleton escape)).map String.toList,
      ∃ mark, special = [mark] := by
  intro special member
  obtain ⟨text, inSpecials, rfl⟩ := List.mem_map.mp member
  rw [Escape.specials, Escape.longestFirst, List.mem_mergeSort, List.mem_append,
    List.mem_filter, List.mem_map, List.mem_singleton] at inSpecials
  rcases inSpecials with ⟨⟨level, structural, rfl⟩, used⟩ | rfl
  · obtain ⟨mark, same⟩ := marks.separators level structural (by simpa using used)
    exact ⟨mark, by rw [same, String.toList_singleton]⟩
  · exact ⟨escape, String.toList_singleton escape⟩

/-- No value that is not empty is written with one separator alone: where its first
character is a mark, the escape is written. -/
theorem exists_ne (marks : table.HasSingleMarks) {level : Level}
    (structural : level ∈ Level.structural) {mark : Char}
    (separator : table.get level = String.singleton mark)
    (apart : table.escape ≠ some (String.singleton mark)) {text : String}
    (filled : text ≠ "") : ∃ c ∈ (table.escapeText text).toList, c ≠ mark := by
  obtain ⟨escape, escapes⟩ := marks.escape
  have special : [mark] ∈
      (Escape.specials table (String.singleton escape)).map String.toList := by
    rw [List.mem_map]
    refine ⟨table.get level, ?_, by rw [separator, String.toList_singleton]⟩
    rw [Escape.specials, Escape.longestFirst, List.mem_mergeSort, List.mem_append,
      List.mem_filter]
    left
    exact ⟨List.mem_map_of_mem structural, by simp [separator]⟩
  have release : table.release? = some (String.singleton escape) := by
    rw [Table.release?, escapes]
    simp
  rw [Table.escapeText, release]
  dsimp only
  rw [String.toList_ofList, chars_of_singletons (marks.singletons escape)]
  cases chars : text.toList with
  | nil => exact absurd (String.toList_eq_nil_iff.mp chars) filled
  | cons first rest =>
      rw [List.flatMap_cons]
      by_cases isSpecial : [first] ∈
          (Escape.specials table (String.singleton escape)).map String.toList
      · refine ⟨escape, by simp [isSpecial], ?_⟩
        rintro rfl
        exact apart escapes
      · refine ⟨first, by simp [isSpecial], ?_⟩
        rintro rfl
        exact isSpecial special

end Table.HasSingleMarks

end Delimiter

namespace Schema

open Delimiter (Level Table)

/-! ## Validated tables -/

/-- What is seen of the delimiters are those that are used. -/
theorem mem_of_checkDistinct {table : Table} {levels : List Level} {before seen : List String}
    (run : checkDistinct table before levels = .ok seen) :
    before ⊆ seen ∧ ∀ level ∈ levels, table.get level ≠ "" → table.get level ∈ seen := by
  induction levels generalizing before with
  | nil =>
      cases run
      exact ⟨List.Subset.refl _, List.forall_mem_nil _⟩
  | cons level rest ih =>
      rw [checkDistinct] at run
      by_cases unused : table.get level = ""
      · rw [if_pos unused] at run
        obtain ⟨kept, used⟩ := ih run
        exact ⟨kept, List.forall_mem_cons.mpr ⟨fun isUsed => absurd unused isUsed, used⟩⟩
      · rw [if_neg unused] at run
        by_cases shared : before.contains (table.get level) = true
        · rw [if_pos shared] at run
          cases run
        · rw [if_neg shared] at run
          obtain ⟨kept, used⟩ := ih run
          rw [List.cons_subset] at kept
          exact ⟨kept.2, List.forall_mem_cons.mpr ⟨fun _ => kept.1, used⟩⟩

/-- The escape of a validated model is none of the delimiters that it uses. -/
theorem escape_ne_of_validate {model : Model} (valid : model.validate = .ok ()) {level : Level}
    (structural : level ∈ Level.structural) (used : model.delimiters.get level ≠ "") :
    model.delimiters.escape ≠ some (model.delimiters.get level) := by
  rw [Model.validate, andThen_eq_ok_iff, validateDelimiters, bind_eq_ok_iff] at valid
  obtain ⟨⟨seen, run, apart⟩, -⟩ := valid
  intro escapes
  rw [escapes] at apart
  have isSeen := (mem_of_checkDistinct run).2 level structural used
  simp [isSeen] at apart

/-! ## Tables of documents -/

/-- A table has separators for segments and fields. -/
def SeparatesFields (table : Table) : Prop :=
  table.segment ≠ "" ∧ table.field ≠ ""

theorem separatesFields_of_declaredTable {element : Xml.Element} {table : Table}
    (run : declaredTable element = .ok table) : SeparatesFields table := by
  rw [declaredTable, bind_eq_ok_iff] at run
  obtain ⟨declared, -, run⟩ := run
  split at run
  · cases run
  · next complete =>
      cases run
      exact not_or.mp complete

/-- Reading one element of a header keeps its table, or declares one. -/
theorem Header.delimiters_of_read {header next : Header} {element : Xml.Element}
    (run : header.read element = .ok next) :
    next.delimiters = header.delimiters ∨ SeparatesFields next.delimiters := by
  unfold Header.read at run
  split_ifs at run
  · obtain ⟨resource, -, run⟩ := bind_eq_ok_iff.mp run
    obtain ⟨space, -, run⟩ := bind_eq_ok_iff.mp run
    cases run
    exact .inl rfl
  · obtain ⟨name, -, run⟩ := bind_eq_ok_iff.mp run
    obtain ⟨version, -, run⟩ := bind_eq_ok_iff.mp run
    cases run
    exact .inl rfl
  · obtain ⟨table, declared, run⟩ := bind_eq_ok_iff.mp run
    cases run
    exact .inr (separatesFields_of_declaredTable declared)
  · obtain ⟨type, -, run⟩ := bind_eq_ok_iff.mp run
    obtain ⟨version, -, run⟩ := bind_eq_ok_iff.mp run
    cases run
    exact .inl rfl
  · cases run
    exact .inl rfl
  · cases run
    exact .inl rfl

theorem Header.separatesFields_of_readAll {header final : Header} {elements : List Xml.Element}
    (run : header.readAll elements = .ok final) (before : SeparatesFields header.delimiters) :
    SeparatesFields final.delimiters := by
  induction elements generalizing header with
  | nil =>
      cases run
      exact before
  | cons element rest ih =>
      obtain ⟨next, first, run⟩ := bind_eq_ok_iff.mp run
      apply ih run
      rcases Header.delimiters_of_read first with same | declared
      · rw [same]
        exact before
      · exact declared

/-- The table of a document always has separators for segments and fields, so that only
the levels of composites may lack one. -/
theorem Document.separatesFields_of_parse {text : String} {document : Document}
    (parsed : Document.parse text = .ok document) : SeparatesFields document.delimiters := by
  unfold Document.parse at parsed
  split at parsed
  · unfold Document.ofElement at parsed
    split_ifs at parsed
    obtain ⟨header, run, parsed⟩ := bind_eq_ok_iff.mp parsed
    have separates := Header.separatesFields_of_readAll run ⟨by decide, by decide⟩
    split at parsed
    · cases parsed
    · cases parsed
    · cases parsed
      exact separates
  · cases parsed

/-! ## A small schema of composites -/

/-- The place of an address: a component of two sub-components. -/
def place : Container where
  id := ⟨"parties", [0, 0, 0]⟩
  kind := .component
  name := "place"
  code := none
  truncatable := false
  documentation := none
  children :=
    [⟨.once, .value ⟨"street", .subComponent, none, []⟩⟩,
      ⟨.once, .value ⟨"city", .subComponent, none, []⟩⟩]
  segments := []

/-- The address of a party. -/
def address : Container where
  id := ⟨"parties", [0, 0]⟩
  kind := .field
  name := "address"
  code := none
  truncatable := false
  documentation := none
  children := [⟨.once, .container place⟩]
  segments := []

/-- A party with an address. -/
def party : Container where
  id := ⟨"parties", [0]⟩
  kind := .segment
  name := "party"
  code := some "NAD"
  truncatable := false
  documentation := none
  children := [⟨.once, .container address⟩]
  segments := []

/-- A message of one party, as a container. -/
def partiesRoot : Container where
  id := ⟨"parties", []⟩
  kind := .segmentGroup
  name := "Parties"
  code := none
  truncatable := false
  documentation := none
  children := []
  segments := [⟨.once, .container party⟩]

/-- Messages of one party, under the customary table, which has no separator for
sub-components. -/
def parties : Model where
  description := ⟨"PARTIES", "1"⟩
  delimiters := .edifact
  root := .container partiesRoot
  source := none

/-- The same messages under a table that has a separator for sub-components. -/
def separatedParties : Model where
  description := parties.description
  delimiters := Table.edifact.set .subComponent "&"
  root := parties.root
  source := none

theorem separatedParties_hasSingleMarks : separatedParties.delimiters.HasSingleMarks where
  separators := by
    intro level structural used
    cases level with
    | segment => exact ⟨'\'', rfl⟩
    | field => exact ⟨'+', rfl⟩
    | fieldRepeat => exact ⟨'*', rfl⟩
    | component => exact ⟨':', rfl⟩
    | subComponent => exact ⟨'&', rfl⟩
    | decimalSeparator => exact ⟨'.', rfl⟩
  escape := ⟨'?', rfl⟩

theorem containers_parties : parties.root.containers = [partiesRoot, party, address, place] :=
  rfl

/-- The containers of the model by their identities. -/
def partiesStore (id : NodeId) : Option Container :=
  parties.root.containers.find? (·.id = id)

theorem parties_storedIn : parties.root.StoredIn partiesStore := by
  intro container member
  simp only [containers_parties, List.mem_cons, List.not_mem_nil, or_false] at member
  rcases member with rfl | rfl | rfl | rfl <;> rfl

end Schema

namespace Reading

open Delimiter (Level Table)

/-- A text that commutes with a mark has no other characters. -/
theorem eq_of_append_singleton {mark : Char} {chars : List Char}
    (commutes : chars ++ [mark] = mark :: chars) : ∀ c ∈ chars, c = mark := by
  induction chars with
  | nil => exact List.forall_mem_nil _
  | cons first rest ih =>
      rw [List.cons_append, List.cons.injEq] at commutes
      obtain ⟨rfl, later⟩ := commutes
      exact List.forall_mem_cons.mpr ⟨rfl, ih later⟩

namespace Part

section

variable {table : Table} {level : Level} {filled part moved : Part}

/-- Without a separator nothing is shifted. -/
theorem Shifts.eq_of_empty (shifts : Shifts table level filled part moved)
    (unused : table.get level = "") :
    charsOf table part.trim.pieces = charsOf table moved.trim.pieces := by
  obtain ⟨first, last, middle, text, textMoved, changes⟩ := shifts
  rw [text, textMoved, unused]
  rcases changes with rfl | rfl <;> simp [unused]

/-- A text whose shift is not seen commutes with the separator. -/
theorem Shifts.commutes (shifts : Shifts table level filled part moved)
    (same : charsOf table part.trim.pieces = charsOf table moved.trim.pieces) :
    charsOf table filled.trim.pieces ++ (table.get level).toList =
      (table.get level).toList ++ charsOf table filled.trim.pieces := by
  obtain ⟨first, last, middle, text, textMoved, changes⟩ := shifts
  rw [text, textMoved, List.append_cancel_right_eq, List.append_cancel_left_eq] at same
  rcases changes with rfl | rfl
  · exact same
  · have none : (table.get level).toList = [] := by
      have lengths := congrArg List.length same
      rw [List.length_append] at lengths
      exact List.eq_nil_of_length_eq_zero (by omega)
    rw [none]
    simp

end

/-- The characters of a slot are among those of its row. -/
theorem mem_charsOf_between {slots : List (List Codec.Piece)} {slot : List Codec.Piece}
    (member : slot ∈ slots) {c : Char} (inSlot : c ∈ charsOf table slot)
    (before : Option Level) (level : Level) : c ∈ charsOf table (between before level slots) := by
  obtain ⟨first, last, rfl⟩ := List.append_of_mem member
  obtain ⟨earlier, around⟩ := exists_between_append_cons before level first
  rw [around, charsOf_append, charsOf_append]
  exact List.mem_append_left _ (List.mem_append_right _ inSlot)

/-- A slot that holds a value has other characters than one separator. -/
theorem FitsSlot.exists_ne {kind : Schema.ContainerKind} (fits : FitsSlot kind filled)
    (holds : filled.holds = true) (marks : table.HasSingleMarks)
    (structural : level ∈ Level.structural) {mark : Char}
    (separator : table.get level = String.singleton mark)
    (apart : table.escape ≠ some (String.singleton mark)) :
    ∃ c ∈ charsOf table filled.trim.pieces, c ≠ mark := by
  induction fits with
  | empty kind => cases holds
  | value kind rendered =>
      have text : rendered.text table ≠ "" := by
        intro none
        have empty := rendered.isEmpty_text table
        rw [none] at empty
        rw [Part.holds, ← empty] at holds
        cases holds
      obtain ⟨c, member, other⟩ := marks.exists_ne structural separator apart text
      have written : charsOf table (Part.value rendered).trim.pieces =
          (table.escapeText (rendered.text table)).toList := by
        simp [Part.trim, Part.pieces, charsOf, Codec.Piece.textOf, Codec.Piece.text]
      exact ⟨c, by rw [written]; exact member, other⟩
  | @composite kind head slots childLevel fit ih =>
      have plain : head.isCoded = false := isCoded_of_composite childLevel
      obtain ⟨slot, member, slotHolds⟩ : ∃ slot ∈ slots, slot.holds = true := by
        simpa [Part.holds, anyHolds_eq_any, plain] using holds
      obtain ⟨c, inSlot, other⟩ := ih slot member slotHolds
      have inKept : slot ∈ kept head slots := by
        obtain ⟨dropped, all, blank⟩ := exists_kept_append head slots
        rw [all, List.mem_append] at member
        rcases member with isKept | isDropped
        · exact isKept
        · rw [blank slot isDropped] at slotHolds
          cases slotHolds
      obtain ⟨inner, delimited⟩ : ∃ inner, head.kind.childLevel? = some inner := by
        rcases composite_kind childLevel with ⟨-, same⟩ | ⟨-, same⟩ <;> rw [same] <;>
          exact ⟨_, rfl⟩
      have inRow := mem_charsOf_between (List.mem_map_of_mem (f := (·.trim.pieces)) inKept) inSlot
        head.leading inner
      refine ⟨c, ?_, other⟩
      rw [pieces_trim_container delimited]
      simp [inRow]

/-- Slots are of a structural level. -/
theorem Moves.structural (moves : Moves level filled part moved) :
    level ∈ Level.structural := by
  induction moves with
  | @here head before after nested delimited =>
      cases kind : head.kind <;> rw [kind] at delimited <;> cases delimited <;> decide
  | slot delimited inner ih => exact ih
  | segment inner ih => exact ih

/-- The part that moves fits a slot, if the reading is sound. -/
theorem Moves.fitsSlot (moves : Moves level filled part moved) :
    (∀ kind, FitsSlot kind part → ∃ kind, FitsSlot kind filled) ∧
      (IsSegment part → ∃ kind, FitsSlot kind filled) := by
  induction moves with
  | @here head before after nested delimited =>
      constructor
      · intro kind fits
        cases fits with
        | composite childLevel fit => exact ⟨head.kind, fit filled (by simp)⟩
      · intro stands
        cases stands with
        | segment childLevel unused fit inner => exact ⟨head.kind, fit filled (by simp)⟩
  | @slot head outer before after nested part moved delimited inner ih =>
      constructor
      · intro kind fits
        cases fits with
        | composite childLevel fit => exact ih.1 head.kind (fit part (by simp))
      · intro stands
        cases stands with
        | segment childLevel unused fit inner => exact ih.1 head.kind (fit part (by simp))
  | @segment head slots before after part moved inner ih =>
      constructor
      · intro kind fits
        generalize nested : before ++ part :: after = segments at fits
        cases fits
        simp at nested
      · intro stands
        cases stands with
        | segment childLevel unused fit inner => exact ih.2 (inner part (by simp))

end Part

end Reading

namespace Compiler

open Delimiter (Level)
open Reading
open Schema (Container Model NodeId address containers_parties parties partiesRoot
  parties_storedIn party place separatedParties separatedParties_hasSingleMarks)

/-- Under the table of a validated model, a text that moves to the next slot is written as
before where the level has no separator.  If separators and escape are single characters,
this happens nowhere else. -/
theorem unseen_iff_no_separator {store : NodeId → Option Container} {registry : Registry}
    (reached : Reached store registry) {target : Target} {model : Model}
    (stored : model.root.StoredIn store) (valid : model.validate = .ok ())
    {compiled : CompiledModel} (success : (compile target model registry).1 = .ok compiled)
    {root : Container} (tree : model.root = .container root) {bean movedBean : Bean}
    {part moved filled : Part} {level : Level}
    (read : readContainer root bean = .ok part)
    (readMoved : readContainer root movedBean = .ok moved)
    (holds : filled.holds = true) (moves : Part.Moves level filled part moved) :
    ∃ text movedText,
      compiled.root.encode model.delimiters bean = .ok text ∧
      compiled.root.encode model.delimiters movedBean = .ok movedText ∧
      (model.delimiters.get level = "" → text = movedText) ∧
      (model.delimiters.HasSingleMarks → text = movedText →
        model.delimiters.get level = "") := by
  obtain ⟨_, same, group, sound⟩ := Model.sound_of_validate valid
  obtain ⟨_, sameRoot, yields⟩ := yields_of_compile reached.sound stored success
  rw [tree] at same sameRoot
  cases same
  cases sameRoot
  have shifts := moves.shifts holds model.delimiters
  refine ⟨_, _, by rw [encode_of_yields yields, read]; rfl,
    by rw [encode_of_yields yields, readMoved]; rfl, ?_, ?_⟩
  · intro unused
    exact String.toList_inj.mp (shifts.eq_of_empty unused)
  · intro marks unseen
    by_contra used
    obtain ⟨mark, separator⟩ := marks.separators level moves.structural used
    have apart := Schema.escape_ne_of_validate valid moves.structural used
    rw [separator] at apart
    obtain ⟨kind, fits⟩ := moves.fitsSlot.2 (isSegment_of_readContainer sound group read)
    obtain ⟨c, member, other⟩ := fits.exists_ne holds marks moves.structural separator apart
    have commutes := shifts.commutes (String.toList_inj.mpr unseen)
    rw [separator, String.toList_singleton] at commutes
    exact other (eq_of_append_singleton commutes c member)

/-! ## A level that is used without a separator -/

/-- A party of whose address one part is known. -/
def partyWith (name text : String) : Bean :=
  [("party", .bean [("address", .bean [("place", .bean [(name, .scalar (.text text))])])])]

/-- The reading of a party with some slots of its place. -/
def partyReading (slots : List Part) : Part :=
  .container (headOf partiesRoot) [] [.container (headOf party)
    [.container (headOf address) [.container (headOf place) slots []] []] []]

/-- A text may move from the street of a party to its city. -/
theorem moves_partyReading (filled : Part) :
    Part.Moves .subComponent filled (partyReading [filled, .empty])
      (partyReading [.empty, filled]) := by
  have inPlace := @Part.Moves.here .subComponent filled (headOf place) [] [] [] rfl
  have inAddress := @Part.Moves.slot _ _ (headOf address) _ [] [] [] _ _ rfl inPlace
  have inParty := @Part.Moves.slot _ _ (headOf party) _ [] [] [] _ _ rfl inAddress
  exact @Part.Moves.segment _ _ (headOf partiesRoot) [] [] [] _ _ inParty

/-- Street and city of a party are not told apart under the customary table.  They are under
a table that separates sub-components by a single character. -/
theorem unseen_in_place :
    (∃ compiled, (compile ⟨"com.acme", .standalone⟩ parties []).1 = .ok compiled ∧
      ∃ text movedText,
        compiled.root.encode parties.delimiters (partyWith "street" "Main") = .ok text ∧
        compiled.root.encode parties.delimiters (partyWith "city" "Main") = .ok movedText ∧
        text = movedText) ∧
    separatedParties.delimiters.HasSingleMarks ∧
      ∃ compiled, (compile ⟨"com.acme", .standalone⟩ separatedParties []).1 = .ok compiled ∧
        ∃ text movedText,
          compiled.root.encode separatedParties.delimiters (partyWith "street" "Main") =
            .ok text ∧
          compiled.root.encode separatedParties.delimiters (partyWith "city" "Main") =
            .ok movedText ∧
          text ≠ movedText := by
  have read : readContainer partiesRoot (partyWith "street" "Main") =
      .ok (partyReading [.value (.plain "Main"), .empty]) := rfl
  have readMoved : readContainer partiesRoot (partyWith "city" "Main") =
      .ok (partyReading [.empty, .value (.plain "Main")]) := rfl
  refine ⟨?_, separatedParties_hasSingleMarks, ?_⟩
  · obtain ⟨compiled, success⟩ : ∃ compiled,
        (compile ⟨"com.acme", .standalone⟩ parties []).1 = .ok compiled := ⟨_, rfl⟩
    obtain ⟨text, movedText, encodes, encodesMoved, same, -⟩ :=
      unseen_iff_no_separator .empty parties_storedIn rfl success rfl read readMoved rfl
        (moves_partyReading _)
    exact ⟨compiled, success, text, movedText, encodes, encodesMoved, same rfl⟩
  · obtain ⟨compiled, success⟩ : ∃ compiled,
        (compile ⟨"com.acme", .standalone⟩ separatedParties []).1 = .ok compiled := ⟨_, rfl⟩
    have stored : separatedParties.root.StoredIn Schema.partiesStore := parties_storedIn
    obtain ⟨text, movedText, encodes, encodesMoved, -, seen⟩ :=
      unseen_iff_no_separator .empty stored rfl success rfl read readMoved rfl
        (moves_partyReading _)
    refine ⟨compiled, success, text, movedText, encodes, encodesMoved, fun same => ?_⟩
    exact absurd (seen separatedParties_hasSingleMarks same) (by decide)

/-- A model is accepted although its table has no separator for the two sub-components of
a place, and two parties are written alike. -/
theorem parties_lack_separator :
    parties.validate = .ok () ∧
      (∃ container ∈ parties.root.containers,
        1 < container.children.length ∧ container.kind.childLevel? = some .subComponent ∧
          parties.delimiters.get .subComponent = "") ∧
      ∃ compiled, (compile ⟨"com.acme", .standalone⟩ parties []).1 = .ok compiled ∧
        ∃ text,
          compiled.root.encode parties.delimiters (partyWith "street" "Main") = .ok text ∧
          compiled.root.encode parties.delimiters (partyWith "city" "Main") = .ok text := by
  refine ⟨rfl, ⟨place, by simp [containers_parties], by decide, rfl, rfl⟩, _, rfl,
    _, rfl, ?_⟩
  change Except.ok (Codec.Piece.textOf .edifact
    [.code "NAD", .delimiter .field, .delimiter .subComponent, .value (.plain "Main"),
      .delimiter .segment]) = Except.ok (Codec.Piece.textOf .edifact
    [.code "NAD", .delimiter .field, .value (.plain "Main"), .delimiter .subComponent,
      .delimiter .segment])
  simp [Codec.Piece.textOf, Codec.Piece.text, Delimiter.Table.edifact, Delimiter.Table.get]

end Compiler

end FlatMessage
