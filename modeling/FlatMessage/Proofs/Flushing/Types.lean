import FlatMessage.Proofs.Flushing.Marking

/-!
# Flush marks of compiled types

Every type that a sound container yields writes its beans marked when the flush option is
set in it.  A bean that has a reading is written as the pieces of the reading, marked.
-/

namespace FlatMessage

open Codec (CompiledType Emission Piece Step Token WriteError)
open Delimiter (Level)

namespace Schema

/-- The delimiters between slots are finer than those of segments. -/
theorem ContainerKind.childLevel?_ne_segment (kind : ContainerKind) :
    kind.childLevel? ≠ some .segment := by
  cases kind <;> simp [childLevel?]

end Schema

namespace Reading

open Schema (ContainerKind)

/-! ## Pieces of slots -/

theorem isPlain_of_mem_between {before : Option Level} {level : Level}
    {slots : List (List Piece)} (first : before ≠ some .segment) (inner : level ≠ .segment)
    (plain : ∀ slot ∈ slots, ∀ piece ∈ slot, piece.IsPlain) :
    ∀ piece ∈ between before level slots, piece.IsPlain := by
  induction slots generalizing before with
  | nil => exact nofun
  | cons slot rest ih =>
      rw [List.forall_mem_cons] at plain
      have later : ∀ piece ∈ between (some level) level rest, piece.IsPlain :=
        ih (by simpa using inner) plain.2
      have delimiter : ∀ piece ∈ before.toList.map Piece.delimiter, piece.IsPlain := by
        rcases before with _ | level
        · exact nofun
        · simpa [Piece.IsPlain] using first
      rw [between, List.forall_mem_append, List.forall_mem_append]
      exact ⟨⟨delimiter, plain.1⟩, later⟩

theorem Head.leading_ne_segment (head : Head) : head.leading ≠ some .segment := by
  unfold Head.leading
  split
  · exact head.kind.childLevel?_ne_segment
  · exact nofun

/-- A head puts only delimiters of slots between slots. -/
theorem Head.isPlain_of_mem_run (head : Head) {slots : List (List Piece)}
    (plain : ∀ slot ∈ slots, ∀ piece ∈ slot, piece.IsPlain) :
    ∀ piece ∈ head.run slots, piece.IsPlain := by
  unfold Head.run
  split
  · next level delimited =>
      apply isPlain_of_mem_between head.leading_ne_segment _ plain
      rintro rfl
      exact head.kind.childLevel?_ne_segment delimited
  · exact nofun

/-- Nothing in a slot ends a segment. -/
theorem Part.FitsSlot.isPlain_of_mem_pieces {kind : ContainerKind} {part : Part}
    (fits : FitsSlot kind part) : ∀ piece ∈ part.pieces, piece.IsPlain := by
  induction fits with
  | empty kind => exact nofun
  | value kind rendered => simp [pieces, Piece.IsPlain]
  | @composite kind head slots level fit ih =>
      have plain : head.isCoded = false := isCoded_of_composite level
      have inner : ∀ pieces ∈ piecesOf slots, ∀ piece ∈ pieces, piece.IsPlain := by
        simpa only [piecesOf_eq_map, List.forall_mem_map] using ih
      have body := head.isPlain_of_mem_run inner
      simpa [pieces, piecesOf, Head.opening, Head.closing, plain] using body

end Reading

namespace Compiler

open Naming (Scope)
open Reading
open Schema (Child ChildrenSound Container ContainerKind Node SegmentsSound)

variable {flag : Bool}

/-! ## Parts of a layout -/

theorem isPlain_of_mem_joinTruncated {level : Level} {tokens : List (Token Piece)}
    (inner : level ≠ .segment)
    (plain : ∀ token ∈ tokens, ∀ piece ∈ token.content, piece.IsPlain) :
    ∀ piece ∈ Token.joinTruncated [.delimiter level] tokens, piece.IsPlain := by
  have kept : ∀ token ∈ Token.truncate tokens, ∀ piece ∈ token.content, piece.IsPlain :=
    fun token member => plain token ((Token.truncate_isPrefix tokens).subset member)
  unfold Token.joinTruncated
  cases joined : Token.truncate tokens with
  | nil => exact nofun
  | cons token rest =>
      rw [joined] at kept
      have row := join_eq_between level none token rest
      rw [Option.toList_none, List.map_nil, List.nil_append] at row
      rw [row]
      apply isPlain_of_mem_between (Option.some_ne_none Level.segment).symm inner
      rwa [List.forall_mem_map]

/-- Tokens without segment ends are joined without marks. -/
theorem marked_writeTokens {level : Level} {leading : Option Level}
    {tokens : List (Token Piece)} (first : leading ≠ some .segment) (inner : level ≠ .segment)
    (plain : ∀ token ∈ tokens, ∀ piece ∈ token.content, piece.IsPlain) :
    (Codec.writeTokens level leading tokens).marked flag =
      Codec.writeTokens level leading tokens := by
  have same := Piece.marking_eq_self flag (isPlain_of_mem_joinTruncated inner plain)
  unfold Codec.writeTokens
  split
  · rw [Emission.marked_bind, Emission.marked_delimiter? flag first, Emission.marked, same]
  · rfl

section

variable {container : Container} {body : List Step}

/-- The tokens of a body are parts that stand in slots. -/
theorem isPlain_of_yieldsBody (sound : ChildrenSound container.kind container.children)
    (yields : YieldsBody container body) {bean : Bean} {tokens : List (Token Piece)}
    (success : (Codec.renderSteps body bean).outcome = .ok tokens) :
    ∀ token ∈ tokens, ∀ piece ∈ token.content, piece.IsPlain := by
  cases delimited : container.kind.childLevel? with
  | none =>
      rw [YieldsBody, delimited] at yields
      subst yields
      cases success
      exact nofun
  | some level =>
      have steps := (yieldsBody_of_childLevel? delimited body).mp yields
      have written := written_renderSteps_children container.children steps bean
      rw [Emission.written, success] at written
      cases read : readChildren [] container.children bean with
      | error error =>
          rw [read] at written
          cases written
      | ok parts =>
          rw [read] at written
          simp only [Except.map, Except.ok.injEq, Prod.mk.injEq] at written
          rw [written.1, List.forall_mem_map]
          intro part member
          have fits := fit_of_readChildren container.kind container.children sound read
          exact (fits part member).trim.isPlain_of_mem_pieces

/-- The steps of a body are those of the delimited children. -/
theorem isMarked_of_yieldsBody (yields : YieldsBody container body)
    (delimited : ∀ {leading : Option Level} {level : Level}, leading ≠ some .segment →
      level ≠ .segment → YieldsChildren leading level [] container.children body →
        ∀ step ∈ body, step.IsMarked flag) :
    ∀ step ∈ body, step.IsMarked flag := by
  cases found : container.kind.childLevel? with
  | none =>
      rw [YieldsBody, found] at yields
      subst yields
      exact nofun
  | some level =>
      have steps := (yieldsBody_of_childLevel? found body).mp yields
      apply delimited (headOf container).leading_ne_segment _ steps
      rintro rfl
      exact container.kind.childLevel?_ne_segment found

end

theorem head?_leading_map (flag : Bool) (body : List Step) :
    (body.map (Step.flushing flag)).head?.bind Step.leading =
      body.head?.bind Step.leading := by
  cases body <;> rfl

/-- The body of a layout is written marked: step by step if it is streamed, and without
marks if it is truncated. -/
theorem writeBody_flushing (container : Container) (options : Options) {body : List Step}
    (nested : List Step) (bean : Bean) (marked : ∀ step ∈ body, step.IsMarked flag)
    (plain : ∀ tokens, (Codec.renderSteps body bean).outcome = .ok tokens →
      ∀ token ∈ tokens, ∀ piece ∈ token.content, piece.IsPlain) :
    writeBody ((layoutOf options container.kind container.code container.truncatable
        container.children body nested).flushing flag) bean =
      (writeBody (layoutOf options container.kind container.code container.truncatable
        container.children body nested) bean).marked flag := by
  have finer := container.kind.childLevel?_ne_segment
  have leads : body.head?.bind Step.leading ≠ some .segment := by
    cases body with
    | nil => exact nofun
    | cons step rest => exact (marked step List.mem_cons_self).leading
  rw [Codec.Layout.flushing_eq]
  unfold writeBody layoutOf
  dsimp only
  rw [Codec.writeSteps_flushing marked, Codec.renderSteps_flushing marked,
    head?_leading_map]
  cases truncates : (if (container.truncatable && !container.children.isEmpty) = true then
      container.kind.childLevel? else none) with
  | none => rfl
  | some level =>
      have inner : level ≠ .segment := by
        rintro rfl
        split at truncates
        · exact finer truncates
        · cases truncates
      dsimp only
      rw [Emission.marked_bind]
      apply Emission.bind_congr_of_ok
      intro tokens success
      exact (marked_writeTokens leads inner (plain tokens success)).symm

/-- A container writes its terminator with the mark that the option asks for. -/
theorem writeTerminator_flushing (flag : Bool) (terminator : Option Level) (flush : Bool)
    (ends : terminator ≠ none → terminator = some .segment) :
    Codec.writeTerminator terminator (terminator.isSome && flag) =
      (Codec.writeTerminator terminator flush).marked flag := by
  cases terminator with
  | none => rfl
  | some level =>
      obtain rfl := Option.some.inj (ends (Option.some_ne_none level))
      cases flag <;> cases flush <;> rfl

/-- A layout is written marked when its body and its nested segments are. -/
theorem write_flushing_of_parts (layout : Codec.Layout) (bean : Bean)
    (body : writeBody (layout.flushing flag) bean = (writeBody layout bean).marked flag)
    (ends : layout.terminator ≠ none → layout.terminator = some .segment)
    (segments : ∀ step ∈ layout.segments, step.IsMarked flag) :
    (layout.flushing flag).write bean = (layout.write bean).marked flag := by
  have code : (writeCode layout.code).marked flag = writeCode layout.code := by
    cases layout.code <;> rfl
  have terminated := writeTerminator_flushing flag layout.terminator layout.flush ends
  rw [write_eq, write_eq, body, Codec.Layout.flushing_eq]
  simp only [Emission.marked_bind, Emission.marked_map, code, terminated,
    Codec.writeSteps_flushing segments]

/-! ## Types of containers -/

mutual

/-- The type of a sound container writes its beans marked. -/
theorem write_flushing (container : Container) (sound : container.Sound)
    {type : CompiledType} (yields : Yields container type) (bean : Bean) :
    (type.flushing flag).write bean = (type.write bean).marked flag := by
  match container with
  | ⟨id, kind, name, code, truncatable, documentation, children, segments⟩ =>
      obtain ⟨options, body, nested, -, -, layout, bodyYields, nestedYields⟩ :=
        (yields_iff _ type).mp yields
      rw [Container.Sound] at sound
      obtain ⟨-, childrenSound, segmentsSound⟩ := sound
      rw [CompiledType.write, CompiledType.write, CompiledType.flushing, layout]
      apply write_flushing_of_parts
      · apply writeBody_flushing
          ⟨id, kind, name, code, truncatable, documentation, children, segments⟩
        · exact isMarked_of_yieldsBody bodyYields fun first inner steps =>
            isMarked_of_yieldsChildren children childrenSound first inner steps
        · intro tokens success
          exact isPlain_of_yieldsBody childrenSound bodyYields success
      · intro ends
        unfold layoutOf at ends ⊢
        dsimp only at ends ⊢
        split
        · rfl
        · next uncoded =>
            rw [if_neg uncoded] at ends
            contradiction
      · exact isMarked_of_yieldsSegments segments segmentsSound nestedYields

theorem isMarked_of_yieldsChildren {kind : ContainerKind} (children : List Child)
    (sound : ChildrenSound kind children) {leading : Option Level} {level : Level}
    (first : leading ≠ some .segment) (inner : level ≠ .segment) {scope : Scope}
    {steps : List Step} (yields : YieldsChildren leading level scope children steps) :
    ∀ step ∈ steps, step.IsMarked flag := by
  match children with
  | [] =>
      rw [YieldsChildren] at yields
      subst yields
      exact nofun
  | ⟨occurs, node⟩ :: rest =>
      rw [YieldsChildren] at yields
      obtain ⟨binding, others, rfl, bound, further⟩ := yields
      rw [ChildrenSound] at sound
      obtain ⟨-, -, nodeSound, restSound⟩ := sound
      have finer : some level ≠ some Level.segment := by simpa using inner
      rw [List.forall_mem_cons]
      constructor
      · exact ⟨writesMarked_of_yieldsBinding node nodeSound bound _, first, finer⟩
      · exact isMarked_of_yieldsChildren rest restSound finer inner further

theorem isMarked_of_yieldsSegments (segments : List Child) (sound : SegmentsSound segments)
    {scope : Scope} {steps : List Step} (yields : YieldsSegments scope segments steps) :
    ∀ step ∈ steps, step.IsMarked flag := by
  match segments with
  | [] =>
      rw [YieldsSegments] at yields
      subst yields
      exact nofun
  | ⟨occurs, node⟩ :: rest =>
      rw [YieldsSegments] at yields
      obtain ⟨binding, others, rfl, bound, further⟩ := yields
      rw [SegmentsSound] at sound
      obtain ⟨-, -, nodeSound, restSound⟩ := sound
      have absent : (none : Option Level) ≠ some .segment := (Option.some_ne_none _).symm
      rw [List.forall_mem_cons]
      constructor
      · exact ⟨writesMarked_of_yieldsBinding node nodeSound bound _, absent, absent⟩
      · exact isMarked_of_yieldsSegments rest restSound further

theorem writesMarked_of_yieldsBinding (node : Node) (sound : node.Sound)
    {binding : Codec.Binding} (yields : YieldsBinding node binding) (name : String) :
    Codec.WritesMarked flag (binding.write name) ((binding.flushing flag).write name) := by
  intro value
  match node with
  | .value content =>
      rw [YieldsBinding] at yields
      subst yields
      exact (Codec.marked_writeScalar flag name _ value).symm
  | .container content =>
      rw [YieldsBinding] at yields
      obtain ⟨type, rfl, yields⟩ := yields
      rw [Node.Sound] at sound
      have written := write_flushing content sound yields
      obtain ⟨typeName, space, nodeName, kind, layout⟩ := type
      cases value with
      | bean properties => exact written properties
      | scalar scalar => rfl
      | list items => rfl

end

end Compiler

end FlatMessage
