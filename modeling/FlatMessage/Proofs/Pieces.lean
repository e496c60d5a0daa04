import FlatMessage.Proofs.Lists
import FlatMessage.Proofs.Reading
import FlatMessage.Proofs.SoundTree

/-!
# Pieces of a reading

A part is laid out as a sequence of pieces, with delimiters as levels in place of
texts.  Trimming a part keeps what holds a value.

A part that was read tells what it was read from: the slots and the nested segments
of a container, the items of a child, the scalar of a leaf.
-/

namespace FlatMessage.Reading

open Codec (Piece WriteError)
open Delimiter (Level)
open Schema (Child Container Node)

/-! ## Laying out pieces -/

/-- Slots in a row: the delimiter of `before` comes before the first of them, that of
`level` before every other. -/
def between (before : Option Level) (level : Level) : List (List Piece) → List Piece
  | [] => []
  | slot :: rest =>
      before.toList.map .delimiter ++ slot ++ between (some level) level rest

@[simp]
theorem between_nil (before : Option Level) (level : Level) :
    between before level [] = [] :=
  rfl

/-- A row goes on with the delimiter of its level. -/
theorem between_append {first : List (List Piece)} (filled : first ≠ [])
    (before : Option Level) (level : Level) (second : List (List Piece)) :
    between before level (first ++ second) =
      between before level first ++ between (some level) level second := by
  induction first generalizing before with
  | nil => contradiction
  | cons slot rest ih =>
      cases rest with
      | nil => simp [between]
      | cons next others =>
          rw [List.cons_append, between, between, ih (List.cons_ne_nil next others)]
          simp only [List.append_assoc]

/-- Delimiters are no flush marks. -/
theorem flush_not_mem_between (before : Option Level) (level : Level)
    {slots : List (List Piece)} (plain : ∀ slot ∈ slots, .flush ∉ slot) :
    .flush ∉ between before level slots := by
  induction slots generalizing before with
  | nil => simp
  | cons slot rest ih =>
      rw [List.forall_mem_cons] at plain
      simp [between, plain.1, ih (some level) plain.2]

namespace Head

/-- What comes before the slots. -/
def opening (head : Head) : List Piece :=
  if head.isCoded then head.code.toList.map .code else []

/-- What comes after the slots. -/
def closing (head : Head) : List Piece :=
  if head.isCoded then [.delimiter .segment] else []

/-- The level whose delimiter comes before the first slot. -/
def leading (head : Head) : Option Level :=
  if head.isCoded then head.kind.childLevel? else none

/-- The slots with their delimiters. -/
def run (head : Head) (slots : List (List Piece)) : List Piece :=
  match head.kind.childLevel? with
  | some level => between head.leading level slots
  | none => []

end Head

namespace Part

mutual

/-- The pieces of a part. -/
def pieces : Part → List Piece
  | .empty => []
  | .value rendered => [.value rendered]
  | .container head slots nested =>
      head.opening ++ head.run (piecesOf slots) ++ head.closing ++
        (piecesOf nested).flatten

/-- The pieces of each of several parts. -/
def piecesOf : List Part → List (List Piece)
  | [] => []
  | part :: rest => part.pieces :: piecesOf rest

end

theorem piecesOf_eq_map (parts : List Part) : piecesOf parts = parts.map pieces := by
  induction parts with
  | nil => rfl
  | cons part rest ih => simp [piecesOf, ih]

/-- A part is laid out without flush marks. -/
theorem flush_not_mem_pieces (part : Part) : .flush ∉ part.pieces := by
  induction part using Part.induction with
  | empty => simp [pieces]
  | value rendered => simp [pieces]
  | container head slots nested slotsPlain nestedPlain =>
      have opened : .flush ∉ head.opening := by
        cases head.isCoded <;> simp [Head.opening]
      have closed : .flush ∉ head.closing := by
        unfold Head.closing
        split <;> simp
      have body : .flush ∉ head.run (piecesOf slots) := by
        unfold Head.run
        split
        · apply flush_not_mem_between
          simpa [piecesOf_eq_map] using slotsPlain
        · simp
      have inner : .flush ∉ (piecesOf nested).flatten := by
        rw [piecesOf_eq_map, List.mem_flatten]
        rintro ⟨_, member, flushed⟩
        obtain ⟨segment, inNested, rfl⟩ := List.mem_map.mp member
        exact nestedPlain segment inNested flushed
      simp only [pieces, List.mem_append, not_or]
      exact ⟨⟨⟨opened, body⟩, closed⟩, inner⟩

mutual

/-- The occurrences of containers in a part, each as its head with its slots. -/
def occurrences : Part → List (Head × List Part)
  | .empty => []
  | .value _ => []
  | .container head slots nested =>
      (head, slots) :: (occurrencesOf slots ++ occurrencesOf nested)

/-- The occurrences in several parts. -/
def occurrencesOf : List Part → List (Head × List Part)
  | [] => []
  | part :: rest => part.occurrences ++ occurrencesOf rest

end

theorem occurrencesOf_eq_flatMap (parts : List Part) :
    occurrencesOf parts = parts.flatMap occurrences := by
  induction parts with
  | nil => rfl
  | cons part rest ih => simp [occurrencesOf, ih]

/-- The occurrences in a container are its own and those in its slots and segments. -/
theorem forall_mem_occurrences_iff {expected : Head × List Part → Prop} {head : Head}
    {slots nested : List Part} :
    (∀ occurrence ∈ (container head slots nested).occurrences, expected occurrence) ↔
      expected (head, slots) ∧
        (∀ slot ∈ slots, ∀ occurrence ∈ slot.occurrences, expected occurrence) ∧
        ∀ segment ∈ nested, ∀ occurrence ∈ segment.occurrences, expected occurrence := by
  rw [occurrences, occurrencesOf_eq_flatMap, occurrencesOf_eq_flatMap, List.forall_mem_cons,
    List.forall_mem_append, List.forall_mem_flatMap, List.forall_mem_flatMap]

end Part

/-! ## Trimming -/

theorem any_rdropWhile_not {α : Type} (test : α → Bool) (xs : List α) :
    (xs.rdropWhile (!test ·)).any test = xs.any test := by
  have none : (xs.rtakeWhile (!test ·)).any test = false := by
    rw [List.any_eq_false]
    intro x member
    simpa using List.mem_rtakeWhile_imp member
  calc
    (xs.rdropWhile (!test ·)).any test =
        (xs.rdropWhile (!test ·) ++ xs.rtakeWhile (!test ·)).any test := by
          rw [List.any_append, none, Bool.or_false]
    _ = xs.any test := by rw [List.rdropWhile_append_rtakeWhile]

theorem rdropWhile_map {α β : Type} (change : α → β) (test : β → Bool) (xs : List α) :
    (xs.map change).rdropWhile test = (xs.rdropWhile (test ∘ change)).map change := by
  rw [List.rdropWhile, List.rdropWhile, ← List.map_reverse, List.dropWhile_map,
    List.map_reverse]

namespace Part

theorem any_holds_kept (head : Head) (slots : List Part) :
    (kept head slots).any holds = slots.any holds := by
  unfold kept
  split
  · exact any_rdropWhile_not holds slots
  · rfl

theorem kept_isPrefix (head : Head) (slots : List Part) : kept head slots <+: slots := by
  unfold kept
  split
  · exact List.rdropWhile_prefix _ slots
  · exact List.prefix_refl slots

/-- The slots that a container does not keep hold nothing. -/
theorem exists_kept_append (head : Head) (slots : List Part) :
    ∃ dropped, slots = kept head slots ++ dropped ∧
      ∀ slot ∈ dropped, slot.holds = false := by
  unfold kept
  split
  · have blank : ∀ slot ∈ slots.rtakeWhile (!·.holds), slot.holds = false := by
      intro slot member
      simpa using List.mem_rtakeWhile_imp member
    exact ⟨_, List.rdropWhile_append_rtakeWhile.symm, blank⟩
  · exact ⟨[], (List.append_nil slots).symm, List.forall_mem_nil _⟩

/-- The last slot that a truncatable container keeps holds a value. -/
theorem holds_of_mem_getLast?_kept {head : Head} (truncatable : head.truncatable = true)
    {slots : List Part} {last : Part} (member : last ∈ (kept head slots).getLast?) :
    last.holds = true := by
  rw [kept, if_pos truncatable] at member
  obtain ⟨filled, rfl⟩ := List.mem_getLast?_eq_getLast member
  simpa using List.rdropWhile_last_not (fun part : Part => !part.holds) slots filled

theorem any_holds_map_trim {parts : List Part}
    (same : ∀ part ∈ parts, part.trim.holds = part.holds) :
    (parts.map trim).any holds = parts.any holds := by
  induction parts with
  | nil => rfl
  | cons part rest ih =>
      rw [List.map_cons, List.any_cons, List.any_cons, same part List.mem_cons_self,
        ih fun other member => same other (List.mem_cons_of_mem part member)]

/-- Trimming does not change what holds a value. -/
@[simp]
theorem holds_trim (part : Part) : part.trim.holds = part.holds := by
  induction part using Part.induction with
  | empty => rfl
  | value rendered => rfl
  | container head slots nested slotsHold nestedHold =>
      simp only [trim, holds, anyHolds_eq_any, trimAll_eq_map]
      rw [any_holds_map_trim nestedHold, any_holds_kept, any_holds_map_trim slotsHold]

/-- Keeping slots goes through what is done to each of them. -/
theorem kept_map {change : Part → Part} (same : ∀ part, (change part).holds = part.holds)
    (head : Head) (slots : List Part) :
    kept head (slots.map change) = (kept head slots).map change := by
  unfold kept
  split
  · rw [rdropWhile_map]
    simp only [Function.comp_def, same]
  · rfl

/-- The slots that are kept, with what is in them trimmed. -/
theorem trim_container (head : Head) (slots nested : List Part) :
    (container head slots nested).trim =
      .container head ((kept head slots).map trim) (nested.map trim) := by
  rw [trim, trimAll_eq_map, trimAll_eq_map, kept_map holds_trim]

/-- What is left of trimmed slots was there before. -/
theorem exists_of_mem_kept {head : Head} {slots : List Part} {part : Part}
    (member : part ∈ kept head (trimAll slots)) : ∃ slot ∈ slots, slot.trim = part := by
  have before := (kept_isPrefix head (trimAll slots)).subset member
  simpa [trimAll_eq_map] using before

end Part

/-! ## What a reading was read from -/

section

variable {α β ε : Type} {read : α → Except ε β} {xs : List α} {ys : List β}

theorem mapM_cons_eq_ok_iff {x : α} :
    (x :: xs).mapM read = .ok ys ↔
      ∃ first others, read x = .ok first ∧ xs.mapM read = .ok others ∧
        ys = first :: others := by
  simp only [List.mapM_cons, bind_eq_ok_iff, pure, Except.pure, Except.ok.injEq]
  constructor
  · rintro ⟨first, firstRun, others, othersRun, rfl⟩
    exact ⟨first, others, firstRun, othersRun, rfl⟩
  · rintro ⟨first, others, firstRun, othersRun, rfl⟩
    exact ⟨first, firstRun, others, othersRun, rfl⟩

/-- Items are all read when each of them is. -/
theorem mapM_eq_ok_iff :
    xs.mapM read = .ok ys ↔ List.Forall₂ (fun x y => read x = .ok y) xs ys := by
  induction xs generalizing ys with
  | nil => cases ys <;> simp [pure, Except.pure]
  | cons x rest ih => simp only [mapM_cons_eq_ok_iff, List.forall₂_cons_left_iff, ih]

/-- Reading items fails as the first of them does that cannot be read. -/
theorem mapM_eq_error_iff {error : ε} :
    xs.mapM read = .error error ↔
      ∃ before x after, xs = before ++ x :: after ∧
        (∀ other ∈ before, ∃ y, read other = .ok y) ∧ read x = .error error := by
  induction xs with
  | nil => simp [pure, Except.pure]
  | cons x rest ih =>
      rw [List.mapM_cons]
      cases first : read x with
      | error failure =>
          constructor
          · intro failed
            cases failed
            exact ⟨[], x, rest, rfl, List.forall_mem_nil _, first⟩
          · rintro ⟨_ | ⟨other, before⟩, last, after, whole, fine, failed⟩
            · cases whole
              obtain rfl := Except.error.inj (first.symm.trans failed)
              rfl
            · cases whole
              obtain ⟨y, readable⟩ := fine x List.mem_cons_self
              rw [first] at readable
              cases readable
      | ok y =>
          have same : (.ok y >>= fun first => rest.mapM read >>= fun others =>
                pure (first :: others) : Except ε (List β)) = .error error ↔
              rest.mapM read = .error error := by
            cases rest.mapM read <;> simp [bind, Except.bind, pure, Except.pure]
          rw [same, ih]
          constructor
          · rintro ⟨before, last, after, rfl, fine, failed⟩
            refine ⟨x :: before, last, after, rfl, ?_, failed⟩
            rw [List.forall_mem_cons]
            exact ⟨⟨y, first⟩, fine⟩
          · rintro ⟨_ | ⟨other, before⟩, last, after, whole, fine, failed⟩
            · cases whole
              rw [first] at failed
              cases failed
            · cases whole
              exact ⟨before, last, after, rfl,
                fun other member => fine other (List.mem_cons_of_mem _ member), failed⟩

theorem exists_of_mem_mapM (run : xs.mapM read = .ok ys) {y : β} (member : y ∈ ys) :
    ∃ x ∈ xs, read x = .ok y :=
  exists_of_forall₂ (mapM_eq_ok_iff.mp run) member

theorem length_of_mapM (run : xs.mapM read = .ok ys) : ys.length = xs.length :=
  (mapM_eq_ok_iff.mp run).length_eq.symm

end

/-- The slots that a container reads. -/
def slotsRead (container : Container) (bean : Bean) : Except WriteError (List Part) :=
  if container.kind.childLevel?.isSome then readChildren [] container.children bean
  else .ok []

/-- The property names of a container that its slots take. -/
def slotScope (container : Container) : Naming.Scope :=
  if container.kind.childLevel?.isSome then scopeAfter [] container.children else []

/-- A container is read slot by slot and then segment by segment. -/
theorem readContainer_eq (container : Container) (bean : Bean) :
    readContainer container bean = (do
      let slots ← slotsRead container bean
      let nested ← readSegments (slotScope container) container.segments bean
      return .container (headOf container) slots nested) := by
  obtain ⟨id, kind, name, code, truncatable, documentation, children, segments⟩ := container
  rfl

theorem readContainer_eq_ok_iff {container : Container} {bean : Bean} {part : Part} :
    readContainer container bean = .ok part ↔
      ∃ slots nested, slotsRead container bean = .ok slots ∧
        readSegments (slotScope container) container.segments bean = .ok nested ∧
        part = .container (headOf container) slots nested := by
  simp only [readContainer_eq, bind_eq_ok_iff, pure, Except.pure, Except.ok.injEq]
  constructor
  · rintro ⟨slots, slotsRun, nested, nestedRun, rfl⟩
    exact ⟨slots, nested, slotsRun, nestedRun, rfl⟩
  · rintro ⟨slots, nested, slotsRun, nestedRun, rfl⟩
    exact ⟨slots, slotsRun, nested, nestedRun, rfl⟩

theorem readChildren_cons_eq_ok_iff {scope : Naming.Scope} {occurs : Schema.Occurs}
    {node : Node} {rest : List Child} {bean : Bean} {parts : List Part} :
    readChildren scope (⟨occurs, node⟩ :: rest) bean = .ok parts ↔
      ∃ items slots others,
        itemsOf (claimed scope node.name).1 occurs
            (bean.get? (claimed scope node.name).1) = .ok items ∧
          (slotsOf occurs items).mapM
              (readSlot (readNode node (claimed scope node.name).1)) = .ok slots ∧
          readChildren (claimed scope node.name).2 rest bean = .ok others ∧
          parts = slots ++ others := by
  simp only [readChildren, bind_eq_ok_iff, pure, Except.pure, Except.ok.injEq]
  constructor
  · rintro ⟨items, itemsRead, slots, slotsRead, others, othersRead, rfl⟩
    exact ⟨items, slots, others, itemsRead, slotsRead, othersRead, rfl⟩
  · rintro ⟨items, slots, others, itemsRead, slotsRead, othersRead, rfl⟩
    exact ⟨items, itemsRead, slots, slotsRead, others, othersRead, rfl⟩

theorem readSegments_cons_eq_ok_iff {scope : Naming.Scope} {occurs : Schema.Occurs}
    {node : Node} {rest : List Child} {bean : Bean} {parts : List Part} :
    readSegments scope (⟨occurs, node⟩ :: rest) bean = .ok parts ↔
      ∃ items first others,
        itemsOf (claimed scope node.name).1 occurs
            (bean.get? (claimed scope node.name).1) = .ok items ∧
          items.mapM (readNode node (claimed scope node.name).1) = .ok first ∧
          readSegments (claimed scope node.name).2 rest bean = .ok others ∧
          parts = first ++ others := by
  simp only [readSegments, bind_eq_ok_iff, pure, Except.pure, Except.ok.injEq]
  constructor
  · rintro ⟨items, itemsRead, first, firstRead, others, othersRead, rfl⟩
    exact ⟨items, first, others, itemsRead, firstRead, othersRead, rfl⟩
  · rintro ⟨items, first, others, itemsRead, firstRead, othersRead, rfl⟩
    exact ⟨items, itemsRead, first, firstRead, others, othersRead, rfl⟩

/-- A leaf is read as a value. -/
theorem exists_of_readScalar {content : Schema.ValueNode} {name : String} {value : Value}
    {part : Part} (read : readScalar content name value = .ok part) :
    ∃ rendered, part = .value rendered := by
  unfold readScalar at read
  split at read
  · split at read <;> cases read
    exact ⟨_, rfl⟩
  · cases read

/-- A container is read from a bean. -/
theorem exists_of_readNode_container {content : Container} {name : String}
    {value : Value} {part : Part}
    (read : readNode (.container content) name value = .ok part) :
    ∃ properties, value = .bean properties ∧ readContainer content properties = .ok part := by
  cases value with
  | bean properties => exact ⟨properties, rfl, read⟩
  | scalar scalar => cases read
  | list items => cases read

/-- What is read in a slot is empty or read by the node of the slot. -/
theorem eq_empty_or_exists_of_mem_slots {read : Value → Except WriteError Part}
    {slots : List (Option Value)} {parts : List Part}
    (run : slots.mapM (readSlot read) = .ok parts) {part : Part} (member : part ∈ parts) :
    part = .empty ∨ ∃ value, read value = .ok part := by
  obtain ⟨slot, -, slotRead⟩ := exists_of_mem_mapM run member
  cases slot with
  | none =>
      cases slotRead
      exact .inl rfl
  | some value => exact .inr ⟨value, slotRead⟩

/-! ## The containers of occurrences -/

/-- Every occurrence in a part was read by a listed container. -/
def Part.OccursIn (containers : List Container) (part : Part) : Prop :=
  ∀ occurrence ∈ part.occurrences, ∃ origin ∈ containers, occurrence.1 = headOf origin ∧
    ∃ bean, slotsRead origin bean = .ok occurrence.2

theorem Part.OccursIn.mono {fewer more : List Container} (subset : fewer ⊆ more)
    {part : Part} (occurs : part.OccursIn fewer) : part.OccursIn more := by
  intro occurrence member
  obtain ⟨origin, inFewer, same⟩ := occurs occurrence member
  exact ⟨origin, subset inFewer, same⟩

theorem Part.OccursIn.container {containers : List Container} {origin : Container}
    (here : origin ∈ containers) {bean : Bean} {slots nested : List Part}
    (slotsRun : slotsRead origin bean = .ok slots)
    (inSlots : ∀ slot ∈ slots, slot.OccursIn containers)
    (inNested : ∀ segment ∈ nested, segment.OccursIn containers) :
    (Part.container (headOf origin) slots nested).OccursIn containers := by
  rw [Part.OccursIn, Part.forall_mem_occurrences_iff]
  exact ⟨⟨origin, here, rfl, bean, slotsRun⟩, inSlots, inNested⟩

mutual

/-- What is read by a container consists of occurrences of the containers in it. -/
theorem occursIn_of_readContainer (container : Container) {bean : Bean} {part : Part}
    (read : readContainer container bean = .ok part) :
    part.OccursIn container.containers := by
  match container with
  | ⟨id, kind, name, code, truncatable, documentation, children, segments⟩ =>
      obtain ⟨slots, nested, slotsRun, nestedRun, rfl⟩ := readContainer_eq_ok_iff.mp read
      rw [Container.containers]
      apply Part.OccursIn.container List.mem_cons_self slotsRun
      · intro slot member
        unfold slotsRead at slotsRun
        split at slotsRun
        · apply (occursIn_of_readChildren children slotsRun slot member).mono
          exact List.subset_cons_of_subset _ (List.subset_append_left _ _)
        · cases slotsRun
          cases member
      · intro segment member
        apply (occursIn_of_readSegments segments nestedRun segment member).mono
        exact List.subset_cons_of_subset _ (List.subset_append_right _ _)

theorem occursIn_of_readChildren (children : List Child) {scope : Naming.Scope}
    {bean : Bean} {parts : List Part} (read : readChildren scope children bean = .ok parts) :
    ∀ part ∈ parts, part.OccursIn (Schema.containersOf children) := by
  match children with
  | [] =>
      cases read
      simp
  | ⟨occurs, node⟩ :: rest =>
      obtain ⟨items, slots, others, -, slotsRun, othersRun, rfl⟩ :=
        readChildren_cons_eq_ok_iff.mp read
      intro part member
      rw [Schema.containersOf]
      rcases List.mem_append.mp member with inSlots | inOthers
      · rcases eq_empty_or_exists_of_mem_slots slotsRun inSlots with rfl | ⟨value, run⟩
        · intro occurrence none
          cases none
        · exact (occursIn_of_readNode node run).mono (List.subset_append_left _ _)
      · exact (occursIn_of_readChildren rest othersRun part inOthers).mono
          (List.subset_append_right _ _)

theorem occursIn_of_readSegments (segments : List Child) {scope : Naming.Scope}
    {bean : Bean} {parts : List Part} (read : readSegments scope segments bean = .ok parts) :
    ∀ part ∈ parts, part.OccursIn (Schema.containersOf segments) := by
  match segments with
  | [] =>
      cases read
      simp
  | ⟨occurs, node⟩ :: rest =>
      obtain ⟨items, first, others, -, firstRun, othersRun, rfl⟩ :=
        readSegments_cons_eq_ok_iff.mp read
      intro part member
      rw [Schema.containersOf]
      rcases List.mem_append.mp member with inFirst | inOthers
      · obtain ⟨value, -, run⟩ := exists_of_mem_mapM firstRun inFirst
        exact (occursIn_of_readNode node run).mono (List.subset_append_left _ _)
      · exact (occursIn_of_readSegments rest othersRun part inOthers).mono
          (List.subset_append_right _ _)

theorem occursIn_of_readNode (node : Node) {name : String} {value : Value} {part : Part}
    (read : readNode node name value = .ok part) : part.OccursIn node.containers := by
  match node with
  | .value content =>
      rw [readNode] at read
      obtain ⟨rendered, rfl⟩ := exists_of_readScalar read
      intro occurrence none
      cases none
  | .container content =>
      obtain ⟨properties, -, read⟩ := exists_of_readNode_container read
      rw [Node.containers]
      exact occursIn_of_readContainer content read

end

end FlatMessage.Reading
