import FlatMessage.Codec.Writing
import FlatMessage.Proofs.Pieces

/-!
# Writing agrees with reading

What an emission has written at its end, apart from flush marks, is its result with
its pieces, or its error.  Running emissions one after the other puts their pieces one
after the other.

Each way of writing slots, streaming them with their delimiters or collecting them as
tokens, writes what is read from them: it fails where reading fails, with the same
error, and otherwise writes the pieces of the trimmed parts.
-/

namespace FlatMessage

/-- A decimal separator leaves nothing empty and nothing filled that was not. -/
theorem Rendered.isEmpty_text (rendered : Rendered) (table : Delimiter.Table) :
    (rendered.text table).isEmpty = rendered.isEmpty := by
  cases rendered with
  | plain text => rfl
  | numeral text =>
      rw [Rendered.text, Rendered.isEmpty]
      by_cases point : table.decimalSeparator = ""
      · rw [if_pos point]
      · have filled : ∀ c : Char,
            (if c = '.' then table.decimalSeparator.toList else [c]) ≠ [] := by
          intro c
          by_cases mark : c = '.'
          · simpa [mark] using point
          · simp [mark]
        rw [if_neg point, Bool.eq_iff_iff, String.isEmpty_iff, String.isEmpty_iff,
          ← String.toList_eq_nil_iff, ← String.toList_eq_nil_iff, Text.substitute,
          String.toList_ofList, List.flatMap_eq_nil_iff]
        constructor
        · intro none
          exact List.eq_nil_iff_forall_not_mem.mpr fun c member => filled c (none c member)
        · intro none
          simp [none]

namespace Codec.Emission

variable {α β : Type}

/-- The result of an emission with the pieces it wrote, flush marks left out. -/
def written (emission : Emission α) : Except WriteError (α × List Piece) :=
  emission.outcome.map fun result => (result, emission.pieces.filter (· ≠ .flush))

@[simp]
theorem written_done (result : α) : (done result).written = .ok (result, []) :=
  rfl

@[simp]
theorem written_delimiter? (level : Option Delimiter.Level) :
    (delimiter? level).written = .ok ((), level.toList.map .delimiter) := by
  cases level <;> rfl

/-- The pieces of a sequence are those of its parts, one after the other. -/
@[simp]
theorem written_bind (first : Emission α) (next : α → Emission β) :
    (first >>= next).written =
      first.written.bind fun result =>
        (next result.1).written.map fun final => (final.1, result.2 ++ final.2) := by
  obtain ⟨pieces, outcome⟩ := first
  cases outcome with
  | error error => rfl
  | ok result =>
      change ((⟨pieces, .ok result⟩ : Emission α).andThen next).written = _
      cases last : (next result).outcome <;>
        simp [written, andThen, Except.map, Except.bind, last]

/-- Sequences of emissions may be cut anywhere. -/
theorem bind_assoc {γ : Type} (first : Emission α) (second : α → Emission β)
    (third : β → Emission γ) :
    (first >>= second) >>= third = first >>= fun result => second result >>= third := by
  obtain ⟨pieces, outcome⟩ := first
  cases outcome with
  | error error => rfl
  | ok result =>
      change (andThen (andThen _ second) third) = andThen _ fun _ => andThen _ third
      cases middle : (second result).outcome <;> simp [andThen, middle, List.append_assoc]

@[simp]
theorem written_map (change : α → β) (emission : Emission α) :
    (change <$> emission).written =
      emission.written.map fun result => (change result.1, result.2) := by
  obtain ⟨pieces, outcome⟩ := emission
  cases outcome <;> rfl

/-- A result that is there is passed on. -/
theorem ofExcept_ok_bind (result : α) (next : α → Emission β) :
    (ofExcept (.ok result) >>= next) = next result :=
  done_andThen result next

/-- A result that is computed without writing is passed on. -/
theorem written_ofExcept_bind (result : Except WriteError α) (next : α → Emission β) :
    (ofExcept result >>= next).written = result.bind fun result => (next result).written := by
  cases result with
  | error error => rfl
  | ok result =>
      rw [ofExcept_ok_bind]
      rfl

/-- Withheld pieces belong to the result. -/
@[simp]
theorem written_withheld (emission : Emission α) :
    emission.withheld.written = emission.written.map fun result => (result, []) := by
  obtain ⟨pieces, outcome⟩ := emission
  cases outcome <;> rfl

end Codec.Emission

namespace Codec

/-- Flush marks have no text. -/
theorem Piece.textOf_filter_flush (table : Delimiter.Table) (pieces : List Piece) :
    Piece.textOf table (pieces.filter (· ≠ .flush)) = Piece.textOf table pieces := by
  induction pieces with
  | nil => rfl
  | cons piece rest ih => cases piece <;> simpa [Piece.textOf, Piece.text] using ih

/-- The text of a bean is that of the pieces written for it. -/
theorem CompiledType.encode_eq_written (type : CompiledType) (table : Delimiter.Table)
    (bean : Bean) :
    type.encode table bean =
      (type.write bean).written.map fun result => Piece.textOf table result.2 := by
  rw [CompiledType.encode, Emission.written]
  cases (type.write bean).outcome with
  | error error => rfl
  | ok result =>
      have plain := Piece.textOf_filter_flush table (type.write bean).pieces
      simp only [Except.map, plain]

end Codec

namespace Reading

open Codec
open Delimiter (Level)
open Naming (Scope)
open Schema (Child Node Occurs)

/-- What is written for a part: whether it holds a value, and its pieces. -/
def Part.output (part : Part) : Bool × List Piece :=
  (part.holds, part.trim.pieces)

/-- The token of a part. -/
def Part.token (part : Part) : Token Piece :=
  ⟨part.trim.pieces, part.holds⟩

@[simp]
theorem Part.content_token (part : Part) : part.token.content = part.trim.pieces :=
  rfl

@[simp]
theorem Part.hasValue_token (part : Part) : part.token.hasValue = part.holds :=
  rfl

/-- Writing an item agrees with reading it. -/
def Agrees (write : Value → Emission Bool) (read : Value → Except WriteError Part) : Prop :=
  ∀ value, (write value).written = (read value).map Part.output

/-! ## Slots -/

theorem written_writeSlots {write : Value → Emission Bool}
    {read : Value → Except WriteError Part} (agrees : Agrees write read)
    (before : Option Level) (level : Level) (slots : List (Option Value)) :
    (writeSlots write before (some level) slots).written =
      (slots.mapM (readSlot read)).map fun parts =>
        (parts.any Part.holds, between before level (parts.map (·.trim.pieces))) := by
  induction slots generalizing before with
  | nil => rfl
  | cons slot rest ih =>
      have item : (slot.elim (.done false) write).written =
          (readSlot read slot).map Part.output := by
        cases slot with
        | none => rfl
        | some value => exact agrees value
      simp only [writeSlots, Emission.written_bind, Emission.written_delimiter?,
        Emission.written_map, item, ih, List.mapM_cons]
      cases readSlot read slot with
      | error error => rfl
      | ok part =>
          cases rest.mapM (readSlot read) with
          | error error => rfl
          | ok parts =>
              simp [bind, pure, Except.bind, Except.pure, Except.map, Part.output, between]

theorem written_writeItems {write : Value → Emission Bool}
    {read : Value → Except WriteError Part} (agrees : Agrees write read)
    (items : List Value) :
    (writeItems write items).written =
      (items.mapM read).map fun parts =>
        (parts.any Part.holds, (parts.map (·.trim.pieces)).flatten) := by
  induction items with
  | nil => rfl
  | cons item rest ih =>
      simp only [writeItems, Emission.written_bind, Emission.written_map, agrees item, ih,
        List.mapM_cons]
      cases read item with
      | error error => rfl
      | ok part =>
          cases rest.mapM read with
          | error error => rfl
          | ok parts =>
              simp [bind, pure, Except.bind, Except.pure, Except.map, Part.output]

theorem written_renderSlots {write : Value → Emission Bool}
    {read : Value → Except WriteError Part} (agrees : Agrees write read)
    (slots : List (Option Value)) :
    (renderSlots write slots).written =
      (slots.mapM (readSlot read)).map fun parts => (parts.map Part.token, []) := by
  induction slots with
  | nil => rfl
  | cons slot rest ih =>
      cases slot with
      | none =>
          simp only [renderSlots, Emission.written_map, ih, List.mapM_cons, readSlot]
          cases rest.mapM (readSlot read) <;> rfl
      | some value =>
          simp only [renderSlots, Emission.written_bind, Emission.written_withheld,
            Emission.written_map, agrees value, ih, List.mapM_cons, readSlot]
          cases read value with
          | error error => rfl
          | ok part => cases rest.mapM (readSlot read) <;> rfl

/-! ## Items of a property -/

/-- A property that does not repeat has one slot. -/
theorem slotsOf_of_not_isRepeating {occurs : Occurs} (single : occurs.isRepeating = false)
    (items : List Value) (few : items.length ≤ 1) :
    slotsOf occurs items = [items.head?] := by
  have one : slotCount occurs items.length = 1 := by
    have bound : occurs.max = some 0 ∨ occurs.max = some 1 := by
      by_contra other
      rw [not_or] at other
      simp [Occurs.isRepeating, other] at single
    rcases bound with bound | bound <;> simp [slotCount, bound]
  match items, few with
  | [], _ =>
      rw [List.length_nil] at one
      simp [slotsOf, one]
  | [item], _ =>
      rw [List.length_singleton] at one
      simp [slotsOf, one]

/-- A repeating property may have more than one item. -/
theorem one_lt_of_isRepeating {occurs : Occurs} (repeating : occurs.isRepeating = true)
    {max : Nat} (bound : occurs.max = some max) : 1 < max := by
  simp only [Occurs.isRepeating, bound, ne_eq, Option.some.injEq, Bool.and_eq_true,
    decide_eq_true_eq] at repeating
  omega

/-- The items of a repeating property are those that are read. -/
theorem items_eq_itemsOf {property : Property} (repeating : property.occurs.isRepeating = true)
    (value : Option Value) :
    property.items value = itemsOf property.name property.occurs value := by
  cases bound : property.occurs.max with
  | none =>
      rcases value with _ | (scalar | properties | items) <;>
        simp [Property.items, itemsOf, bound, repeating]
  | some max =>
      have above := one_lt_of_isRepeating repeating bound
      rcases value with _ | (scalar | properties | items)
      · simp [Property.items, itemsOf, bound]
      · simp [Property.items, itemsOf, bound, Nat.not_lt.mpr above.le]
      · simp [Property.items, itemsOf, bound, Nat.not_lt.mpr above.le]
      · by_cases fits : items.length ≤ max
        · simp [Property.items, itemsOf, bound, repeating, fits, Nat.not_lt.mpr fits]
        · simp [Property.items, itemsOf, bound, repeating, fits, Nat.lt_of_not_le fits]

/-- A list that is read keeps to the maximum. -/
theorem length_le_of_itemsOf {name : String} {occurs : Occurs} {value : Option Value}
    {items : List Value} (run : itemsOf name occurs value = .ok items)
    (repeating : occurs.isRepeating = true) {max : Nat} (bound : occurs.max = some max) :
    items.length ≤ max := by
  have above := one_lt_of_isRepeating repeating bound
  rcases value with _ | (scalar | properties | list)
  · cases run
    exact Nat.zero_le max
  · cases run
    exact above.le
  · cases run
    exact above.le
  · simp only [itemsOf, repeating, bound, if_true] at run
    split at run
    · next fits =>
        cases run
        exact fits
    · cases run

/-- The slots of a repeating property are those that are read. -/
theorem slots_eq_slotsOf {property : Property} {items : List Value}
    (fits : ∀ max, property.occurs.max = some max → items.length ≤ max) :
    property.slots items = slotsOf property.occurs items := by
  have same : property.slotCount items.length = slotCount property.occurs items.length := by
    cases bound : property.occurs.max with
    | none =>
        simp only [Property.slotCount, slotCount, bound, Option.getD_none]
        omega
    | some max => simp [Property.slotCount, slotCount, bound, fits max bound]
  simp [Property.slots, slotsOf, same]

/-- The value of a property that does not repeat is its only item. -/
theorem itemsOf_of_not_isRepeating (property : Property)
    (single : property.occurs.isRepeating = false) (value : Value) :
    itemsOf property.name property.occurs (some value) =
      (property.single value).map fun item => [item] := by
  cases value <;> simp [itemsOf, Property.single, single, Except.map]

/-- The parts that are read for a property in its slots. -/
def readProperty (read : Value → Except WriteError Part) (name : String) (occurs : Occurs)
    (bean : Bean) : Except WriteError (List Part) := do
  let items ← itemsOf name occurs (bean.get? name)
  (slotsOf occurs items).mapM (readSlot read)

/-- The parts that are read for a property of nested segments. -/
def readItems (read : Value → Except WriteError Part) (name : String) (occurs : Occurs)
    (bean : Bean) : Except WriteError (List Part) := do
  let items ← itemsOf name occurs (bean.get? name)
  items.mapM read

theorem slotsOf_ne_nil (occurs : Occurs) (items : List Value) :
    slotsOf occurs items ≠ [] := by
  intro none
  have total : (slotsOf occurs items).length = 0 := by rw [none, List.length_nil]
  have counted : 1 ≤ slotCount occurs items.length := Nat.le_max_right _ 1
  rw [slotsOf, List.length_append, List.length_map, List.length_replicate] at total
  omega

/-- The slots of a property are never none. -/
theorem ne_nil_of_readProperty {read : Value → Except WriteError Part} {name : String}
    {occurs : Occurs} {bean : Bean} {parts : List Part}
    (run : readProperty read name occurs bean = .ok parts) : parts ≠ [] := by
  rw [readProperty, bind_eq_ok_iff] at run
  obtain ⟨items, -, run⟩ := run
  rintro rfl
  have none := length_of_mapM run
  rw [List.length_nil, eq_comm, List.length_eq_zero_iff] at none
  exact slotsOf_ne_nil occurs items none

theorem readChildren_cons (scope : Scope) (occurs : Occurs) (node : Node)
    (rest : List Child) (bean : Bean) :
    readChildren scope (⟨occurs, node⟩ :: rest) bean = (do
      let slots ←
        readProperty (readNode node (claimed scope node.name).1) (claimed scope node.name).1
          occurs bean
      let others ← readChildren (claimed scope node.name).2 rest bean
      return slots ++ others) := by
  rw [readProperty, bind_assoc]
  rfl

theorem readSegments_cons (scope : Scope) (occurs : Occurs) (node : Node)
    (rest : List Child) (bean : Bean) :
    readSegments scope (⟨occurs, node⟩ :: rest) bean = (do
      let first ←
        readItems (readNode node (claimed scope node.name).1) (claimed scope node.name).1
          occurs bean
      let others ← readSegments (claimed scope node.name).2 rest bean
      return first ++ others) := by
  rw [readItems, bind_assoc]
  rfl

/-- A repeating property is read item by item and padded. -/
theorem readProperty_of_isRepeating (read : Value → Except WriteError Part)
    {property : Property} (repeating : property.occurs.isRepeating = true) (bean : Bean) :
    readProperty read property.name property.occurs bean =
      (property.items (bean.get? property.name)).bind fun items =>
        (property.slots items).mapM (readSlot read) := by
  rw [readProperty, items_eq_itemsOf repeating]
  cases run : itemsOf property.name property.occurs (bean.get? property.name) with
  | error error => rfl
  | ok items =>
      have slots := slots_eq_slotsOf fun max bound =>
        length_le_of_itemsOf run repeating bound
      simp only [bind, Except.bind, slots]

/-- A property that does not repeat is read from its only slot. -/
theorem readProperty_of_not_isRepeating (read : Value → Except WriteError Part)
    {property : Property} (single : property.occurs.isRepeating = false) (bean : Bean) :
    readProperty read property.name property.occurs bean =
      match bean.get? property.name with
      | none => [none].mapM (readSlot read)
      | some value =>
          (property.single value).bind fun item => [some item].mapM (readSlot read) := by
  rw [readProperty]
  cases bean.get? property.name with
  | none =>
      have absent := slotsOf_of_not_isRepeating single [] (Nat.zero_le 1)
      simp only [itemsOf, bind, Except.bind, absent, List.head?_nil]
  | some value =>
      rw [itemsOf_of_not_isRepeating property single]
      dsimp only
      cases property.single value with
      | error error => rfl
      | ok item =>
          have filled := slotsOf_of_not_isRepeating single [item] le_rfl
          simp only [bind, Except.bind, Except.map, filled, List.head?_cons]

/-! ## Steps -/

/-- One slot is its delimiter and its item. -/
theorem written_slot {write : Value → Emission Bool}
    {read : Value → Except WriteError Part} (agrees : Agrees write read)
    (before : Option Level) (level : Level) (slot : Option Value) :
    (do
      Emission.delimiter? before
      slot.elim (.done false) write).written =
      ([slot].mapM (readSlot read)).map fun parts =>
        (parts.any Part.holds, between before level (parts.map (·.trim.pieces))) := by
  rw [← written_writeSlots agrees before level [slot]]
  simp only [writeSlots, Emission.written_bind, Emission.written_map]
  cases (slot.elim (.done false) write).written <;> simp [Except.map, Except.bind]

/-- A delimited step writes the slots that are read. -/
theorem written_writeStep {write : Value → Emission Bool}
    {read : Value → Except WriteError Part} (agrees : Agrees write read)
    (property : Property) (leading : Option Level) (level : Level) (bean : Bean) :
    (writeStep write property leading (some level) bean).written =
      (readProperty read property.name property.occurs bean).map fun parts =>
        (parts.any Part.holds, between leading level (parts.map (·.trim.pieces))) := by
  unfold writeStep
  cases repeating : property.occurs.isRepeating with
  | true =>
      rw [if_pos rfl, readProperty_of_isRepeating read repeating,
        Emission.written_ofExcept_bind]
      cases property.items (bean.get? property.name) with
      | error error => rfl
      | ok items => exact written_writeSlots agrees leading level (property.slots items)
  | false =>
      rw [if_neg Bool.false_ne_true, readProperty_of_not_isRepeating read repeating]
      cases bean.get? property.name with
      | none => exact written_slot agrees leading level none
      | some value =>
          dsimp only
          cases property.single value with
          | error error => cases leading <;> rfl
          | ok item =>
              rw [Emission.ofExcept_ok_bind]
              exact written_slot agrees leading level (some item)

/-- A rendered step collects the tokens of the slots that are read. -/
theorem written_renderStep {write : Value → Emission Bool}
    {read : Value → Except WriteError Part} (agrees : Agrees write read)
    (property : Property) (bean : Bean) :
    (renderStep write property bean).written =
      (readProperty read property.name property.occurs bean).map fun parts =>
        (parts.map Part.token, []) := by
  unfold renderStep
  cases repeating : property.occurs.isRepeating with
  | true =>
      rw [if_pos rfl, readProperty_of_isRepeating read repeating,
        Emission.written_ofExcept_bind]
      cases property.items (bean.get? property.name) with
      | error error => rfl
      | ok items => exact written_renderSlots agrees (property.slots items)
  | false =>
      rw [if_neg Bool.false_ne_true, readProperty_of_not_isRepeating read repeating]
      cases bean.get? property.name with
      | none => exact written_renderSlots agrees [none]
      | some value =>
          dsimp only
          rw [Emission.written_ofExcept_bind]
          cases property.single value with
          | error error => rfl
          | ok item => exact written_renderSlots agrees [some item]

/-- A step of nested segments writes the items that are read. -/
theorem written_writeStep_segment {write : Value → Emission Bool}
    {read : Value → Except WriteError Part} (agrees : Agrees write read)
    (property : Property) (bean : Bean) :
    (writeStep write property none none bean).written =
      (readItems read property.name property.occurs bean).map fun parts =>
        (parts.any Part.holds, (parts.map (·.trim.pieces)).flatten) := by
  unfold writeStep readItems
  cases repeating : property.occurs.isRepeating with
  | true =>
      rw [if_pos rfl, items_eq_itemsOf repeating, Emission.written_ofExcept_bind]
      cases itemsOf property.name property.occurs (bean.get? property.name) with
      | error error => rfl
      | ok items => exact written_writeItems agrees items
  | false =>
      rw [if_neg Bool.false_ne_true]
      cases bean.get? property.name with
      | none => rfl
      | some value =>
          dsimp only
          rw [itemsOf_of_not_isRepeating property repeating]
          cases property.single value with
          | error error => rfl
          | ok item =>
              rw [Emission.ofExcept_ok_bind]
              change _ = ([item].mapM read).map _
              rw [← written_writeItems agrees [item]]
              simp only [writeItems, Emission.written_bind, Emission.written_map]
              cases (write item).written <;> simp [Except.map, Except.bind]

/-! ## Writing by a layout -/

/-- The code that comes first. -/
def writeCode (code : Option String) : Emission Bool :=
  match code with
  | some code => (fun _ => true) <$> Emission.piece (.code code)
  | none => Emission.done false

theorem written_writeCode (code : Option String) :
    (writeCode code).written = .ok (code.isSome, code.toList.map .code) := by
  cases code <;> rfl

theorem written_writeTerminator (terminator : Option Level) (flush : Bool) :
    (writeTerminator terminator flush).written =
      .ok ((), terminator.toList.map .delimiter) := by
  cases terminator <;> cases flush <;> rfl

theorem truncate_concat (tokens : List (Token Piece)) (token : Token Piece) :
    Token.truncate (tokens ++ [token]) =
      if token.hasValue then tokens ++ [token] else Token.truncate tokens := by
  induction tokens with
  | nil => cases present : token.hasValue <;> simp [Token.truncate, present]
  | cons first rest ih =>
      rw [List.cons_append, Token.truncate, ih]
      cases token.hasValue with
      | false => rfl
      | true =>
          cases rest with
          | nil => rfl
          | cons second others => rfl

/-- What is kept is what dropping empty tokens from the end leaves. -/
theorem truncate_eq_rdropWhile (tokens : List (Token Piece)) :
    Token.truncate tokens = tokens.rdropWhile (!·.hasValue) := by
  induction tokens using List.reverseRecOn with
  | nil => rfl
  | append_singleton tokens token ih =>
      rw [truncate_concat, List.rdropWhile_concat, ih]
      cases token.hasValue <;> rfl

/-- Tokens are joined by the delimiter of their level. -/
theorem join_eq_between (level : Level) (before : Option Level) (token : Token Piece)
    (rest : List (Token Piece)) :
    before.toList.map .delimiter ++ Token.join [.delimiter level] (token :: rest) =
      between before level ((token :: rest).map Token.content) := by
  induction rest generalizing before token with
  | nil => simp [Token.join, between]
  | cons next others ih =>
      rw [List.map_cons, between, ← ih (some level) next]
      simp [Token.join]

/-- A truncated body is written up to its last token with a value. -/
theorem written_writeTokens (level : Level) (leading : Option Level)
    {tokens : List (Token Piece)} (plain : ∀ token ∈ tokens, .flush ∉ token.content) :
    (writeTokens level leading tokens).written =
      .ok (tokens.any Token.hasValue,
        between leading level ((Token.truncate tokens).map Token.content)) := by
  have present : Token.anyValue tokens = tokens.any Token.hasValue := rfl
  cases kept : Token.truncate tokens with
  | nil =>
      have none := (Token.truncate_eq_nil_iff tokens).mp kept
      rw [writeTokens, none, ← present, none]
      rfl
  | cons token rest =>
      have some : Token.anyValue tokens = true := by
        rw [← Bool.not_eq_false, ← Token.truncate_eq_nil_iff, kept]
        exact List.cons_ne_nil token rest
      have unflushed : .flush ∉ between leading level ((token :: rest).map Token.content) := by
        apply flush_not_mem_between
        intro slot member
        obtain ⟨token, inTokens, rfl⟩ := List.mem_map.mp member
        rw [← kept] at inTokens
        exact plain token ((Token.truncate_isPrefix tokens).subset inTokens)
      rw [← join_eq_between] at unflushed ⊢
      have joined : (⟨Token.join [.delimiter level] (token :: rest), .ok true⟩ :
          Emission Bool).written =
          .ok (true, Token.join [.delimiter level] (token :: rest)) := by
        rw [Emission.written, List.filter_eq_self.mpr]
        · rfl
        · intro piece member
          have other : piece ≠ .flush := by
            rintro rfl
            exact unflushed (List.mem_append_right _ member)
          simpa using other
      rw [writeTokens, some, if_pos rfl, Emission.written_bind,
        Emission.written_delimiter?, Token.joinTruncated, kept, ← present, some]
      simp [joined, Except.bind, Except.map]

/-- The body of a layout, streamed or collected and truncated. -/
def writeBody (layout : Layout) (bean : Bean) : Emission Bool :=
  match layout.truncateAt with
  | some level => do
      let tokens ← renderSteps layout.body bean
      writeTokens level (layout.body.head?.bind Step.leading) tokens
  | none => writeSteps layout.body bean

/-- A layout writes its code, its body, its terminator and its nested segments. -/
theorem write_eq (layout : Layout) (bean : Bean) :
    layout.write bean = (do
      let coded ← writeCode layout.code
      let valued ← writeBody layout bean
      writeTerminator layout.terminator layout.flush
      (coded || valued || ·) <$> writeSteps layout.segments bean) := by
  obtain ⟨code, body, truncateAt, terminator, flush, segments⟩ := layout
  cases truncateAt with
  | none => cases code <;> rfl
  | some level =>
      simp only [writeBody, Emission.bind_assoc]
      cases code <;> rfl

/-- The result and the pieces of what a layout writes. -/
theorem written_write (layout : Layout) (bean : Bean) :
    (layout.write bean).written =
      (writeBody layout bean).written.bind fun body =>
        (writeSteps layout.segments bean).written.map fun nested =>
          (layout.code.isSome || body.1 || nested.1,
            layout.code.toList.map .code ++ body.2 ++
              layout.terminator.toList.map .delimiter ++ nested.2) := by
  rw [write_eq, Emission.written_bind, written_writeCode]
  simp only [Except.bind, Emission.written_bind, Emission.written_map,
    written_writeTerminator]
  cases (writeBody layout bean).written with
  | error error => rfl
  | ok body =>
      cases (writeSteps layout.segments bean).written with
      | error error => rfl
      | ok nested => simp [Except.map, List.append_assoc]

end Reading

end FlatMessage
