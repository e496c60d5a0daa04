import FlatMessage.Compiler.CompiledModel
import FlatMessage.Proofs.Standing
import FlatMessage.Proofs.Written

/-!
# What a container is compiled into

A container yields a compiled type when the layout of the type is the one of the
container, property by property.  The name and the namespace of the type and the
flush option do not matter, so a container may yield several types.

Every type that a container yields writes what is read by the container.
-/

namespace FlatMessage.Compiler

open Codec (CompiledType Emission Piece Step Token WriteError)
open Delimiter (Level)
open Naming (Scope)
open Reading
open Schema (Child Container Node ValueNode)

/-! ## The relation -/

/-- The binding of a leaf whose options are accepted. -/
def bindingOf (content : ValueNode) : Codec.Binding :=
  .scalar ⟨content.dataType, content.options, encoderOf content⟩

mutual

/-- A container yields a type. -/
def Yields (container : Container) (type : CompiledType) : Prop :=
  match container with
  | ⟨_, kind, name, code, truncatable, _, children, segments⟩ =>
      ∃ options body nested,
        type.nodeName = name ∧ type.kind = kind ∧
        type.layout = layoutOf options kind code truncatable children body nested ∧
        (match kind.childLevel? with
          | some level =>
              YieldsChildren (if writesCode kind children then some level else none) level []
                children body
          | none => body = []) ∧
        YieldsSegments (if kind.childLevel?.isSome then scopeAfter [] children else [])
          segments nested
termination_by structural container

/-- Delimited children yield steps. -/
def YieldsChildren (leading : Option Level) (level : Level) (scope : Scope)
    (children : List Child) (steps : List Step) : Prop :=
  match children with
  | [] => steps = []
  | ⟨occurs, node⟩ :: rest =>
      ∃ binding others,
        steps = ⟨⟨(claimed scope node.name).1, node.name, occurs, binding⟩, leading,
          some level⟩ :: others ∧
        YieldsBinding node binding ∧
        YieldsChildren (some level) level (claimed scope node.name).2 rest others
termination_by structural children

/-- Nested segments yield steps. -/
def YieldsSegments (scope : Scope) (segments : List Child) (steps : List Step) : Prop :=
  match segments with
  | [] => steps = []
  | ⟨occurs, node⟩ :: rest =>
      ∃ binding others,
        steps = ⟨⟨(claimed scope node.name).1, node.name, occurs, binding⟩, none,
          none⟩ :: others ∧
        YieldsBinding node binding ∧
        YieldsSegments (claimed scope node.name).2 rest others
termination_by structural segments

/-- A node yields the binding of its property. -/
def YieldsBinding (node : Node) (binding : Codec.Binding) : Prop :=
  match node with
  | .value content => binding = bindingOf content
  | .container content => ∃ type, binding = .bean type ∧ Yields content type
termination_by structural node

end

/-- The delimited children of a container yield the body of its layout. -/
def YieldsBody (container : Container) (body : List Step) : Prop :=
  match container.kind.childLevel? with
  | some level => YieldsChildren (headOf container).leading level [] container.children body
  | none => body = []

theorem yieldsBody_of_childLevel? {container : Container} {level : Level}
    (delimited : container.kind.childLevel? = some level) (body : List Step) :
    YieldsBody container body ↔
      YieldsChildren (headOf container).leading level [] container.children body := by
  rw [YieldsBody, delimited]

/-- A container yields the types whose layouts are assembled from what its children
and segments yield. -/
theorem yields_iff (container : Container) (type : CompiledType) :
    Yields container type ↔
      ∃ options body nested,
        type.nodeName = container.name ∧ type.kind = container.kind ∧
        type.layout =
          layoutOf options container.kind container.code container.truncatable
            container.children body nested ∧
        YieldsBody container body ∧
        YieldsSegments (slotScope container) container.segments nested := by
  obtain ⟨id, kind, name, code, truncatable, documentation, children, segments⟩ := container
  cases kind <;> exact Iff.rfl

/-! ## Yielded types write what is read -/

/-- Tokens are kept as the parts they were rendered from. -/
theorem contents_truncate_tokens (parts : List Part) :
    (Token.truncate (parts.map Part.token)).map Token.content =
      ((Part.trimAll parts).rdropWhile (!·.holds)).map Part.pieces := by
  rw [truncate_eq_rdropWhile, Part.trimAll_eq_map, rdropWhile_map, rdropWhile_map,
    List.map_map, List.map_map]
  have same : ((!·.hasValue) ∘ Part.token) = ((!·.holds) ∘ Part.trim) := by
    funext part
    simp [Part.token]
  rw [same]
  rfl

/-- The first step of a body has the delimiter that comes before the body. -/
theorem leading_of_yieldsChildren {leading : Option Level} {level : Level} {scope : Scope}
    {children : List Child} {steps : List Step}
    (yields : YieldsChildren leading level scope children steps) (filled : children ≠ []) :
    steps.head?.bind Step.leading = leading := by
  match children with
  | [] => contradiction
  | ⟨occurs, node⟩ :: rest =>
      rw [YieldsChildren] at yields
      obtain ⟨binding, others, rfl, -⟩ := yields
      rfl

/-- The slots of a container as they are read and laid out. -/
def slotsOutput (container : Container) (bean : Bean) :
    Except WriteError (Bool × List Piece) :=
  (slotsRead container bean).map fun slots =>
    (slots.any Part.holds,
      (headOf container).run
        (Part.piecesOf (Part.kept (headOf container) (Part.trimAll slots))))

section

variable {container : Container} {body : List Step} {bean : Bean} {level : Level}

/-- The slots of a container that has delimited children. -/
theorem slotsOutput_of_childLevel? (delimited : container.kind.childLevel? = some level) :
    slotsOutput container bean =
      (readChildren [] container.children bean).map fun slots =>
        (slots.any Part.holds,
          between (headOf container).leading level
            ((Part.kept (headOf container) (Part.trimAll slots)).map Part.pieces)) := by
  have slots : slotsRead container bean = readChildren [] container.children bean := by
    simp [slotsRead, delimited]
  have layout : ∀ parts : List (List Piece), (headOf container).run parts =
      between (headOf container).leading level parts := by
    intro parts
    have same : (headOf container).kind.childLevel? = some level := delimited
    rw [Head.run, same]
  simp only [slotsOutput, slots, layout, Part.piecesOf_eq_map]

/-- A container whose slots are not collected keeps all of them. -/
theorem kept_of_streamed
    (streams : (container.truncatable && !container.children.isEmpty) = false)
    {parts : List Part} (read : readChildren [] container.children bean = .ok parts) :
    Part.kept (headOf container) (Part.trimAll parts) = parts.map Part.trim := by
  rw [Part.trimAll_eq_map, Part.kept]
  cases truncatable : container.truncatable with
  | false => rw [if_neg (by simp [headOf, truncatable])]
  | true =>
      have none : container.children = [] := by
        simpa [truncatable] using streams
      rw [none] at read
      cases read
      simp

/-- Steps that are streamed write all slots. -/
theorem written_streamed (delimited : container.kind.childLevel? = some level)
    (streams : (container.truncatable && !container.children.isEmpty) = false)
    (streamed : (Codec.writeSteps body bean).written =
      (readChildren [] container.children bean).map fun parts =>
        (parts.any Part.holds,
          between (headOf container).leading level (parts.map (·.trim.pieces)))) :
    (Codec.writeSteps body bean).written = slotsOutput container bean := by
  rw [streamed, slotsOutput_of_childLevel? delimited]
  cases read : readChildren [] container.children bean with
  | error error => rfl
  | ok parts =>
      have all := kept_of_streamed streams read
      simp [Except.map, all, Function.comp_def]

/-- Tokens that are collected are written up to the last slot with a value. -/
theorem written_collected (delimited : container.kind.childLevel? = some level)
    (truncatable : container.truncatable = true)
    (leads : body.head?.bind Step.leading = (headOf container).leading)
    (rendered : (Codec.renderSteps body bean).written =
      (readChildren [] container.children bean).map fun parts =>
        (parts.map Part.token, [])) :
    (do
      let tokens ← Codec.renderSteps body bean
      Codec.writeTokens level (body.head?.bind Step.leading) tokens).written =
      slotsOutput container bean := by
  rw [Emission.written_bind, rendered, leads, slotsOutput_of_childLevel? delimited]
  cases readChildren [] container.children bean with
  | error error => rfl
  | ok parts =>
      have plain : ∀ token ∈ parts.map Part.token, .flush ∉ token.content := by
        intro token member
        obtain ⟨part, -, rfl⟩ := List.mem_map.mp member
        exact Part.flush_not_mem_pieces part.trim
      have cut : Part.kept (headOf container) (Part.trimAll parts) =
          (Part.trimAll parts).rdropWhile (!·.holds) := by
        rw [Part.kept, if_pos]
        exact truncatable
      simp [Except.map, Except.bind,
        written_writeTokens level (headOf container).leading plain,
        contents_truncate_tokens, cut, Function.comp_def]

end

/-- A body is written as the slots of its container are laid out.  `streamed` and
`rendered` say so of the two ways in which its steps are run. -/
theorem written_writeBody (container : Container) (options : Options) {body : List Step}
    (nested : List Step) (bean : Bean)
    (absent : container.kind.childLevel? = none → body = [])
    (leads : ∀ level, container.kind.childLevel? = some level → container.children ≠ [] →
      body.head?.bind Step.leading = (headOf container).leading)
    (streamed : ∀ level, container.kind.childLevel? = some level →
      (Codec.writeSteps body bean).written =
        (readChildren [] container.children bean).map fun parts =>
          (parts.any Part.holds,
            between (headOf container).leading level (parts.map (·.trim.pieces))))
    (rendered : ∀ level, container.kind.childLevel? = some level →
      (Codec.renderSteps body bean).written =
        (readChildren [] container.children bean).map fun parts =>
          (parts.map Part.token, [])) :
    (writeBody (layoutOf options container.kind container.code container.truncatable
        container.children body nested) bean).written = slotsOutput container bean := by
  unfold writeBody
  cases delimited : container.kind.childLevel? with
  | none =>
      rw [absent delimited]
      simp [slotsOutput, layoutOf, delimited, slotsRead, Head.run, headOf, Codec.writeSteps,
        Except.map]
  | some level =>
      cases collects : container.truncatable && !container.children.isEmpty with
      | false =>
          simp only [layoutOf, collects, Bool.false_eq_true, if_false]
          exact written_streamed delimited collects (streamed level delimited)
      | true =>
          have filled : container.children ≠ [] := by
            rintro none
            simp [none] at collects
          rw [Bool.and_eq_true] at collects
          simp only [layoutOf, collects.1, collects.2, delimited, Bool.and_self, if_true]
          exact written_collected delimited collects.1 (leads level delimited filled)
            (rendered level delimited)

/-- A layout of a container writes what the container reads when its body and its
nested segments do. -/
theorem written_of_parts (container : Container) (options : Options) (body nested : List Step)
    (bean : Bean)
    (slots :
      (writeBody (layoutOf options container.kind container.code container.truncatable
        container.children body nested) bean).written = slotsOutput container bean)
    (segments :
      (Codec.writeSteps nested bean).written =
      (readSegments (slotScope container) container.segments bean).map fun parts =>
        (parts.any Part.holds, (parts.map (·.trim.pieces)).flatten)) :
    ((layoutOf options container.kind container.code container.truncatable
      container.children body nested).write bean).written =
      (readContainer container bean).map Part.output := by
  have coded : writesCode container.kind container.children = (headOf container).isCoded := rfl
  have code : (headOf container).code = container.code := rfl
  rw [written_write, slots, slotsOutput, readContainer_eq]
  simp only [layoutOf] at segments ⊢
  rw [segments, coded]
  cases slotsRead container bean with
  | error error => rfl
  | ok parts =>
      cases readSegments (slotScope container) container.segments bean with
      | error error => rfl
      | ok others =>
          cases isCoded : (headOf container).isCoded <;>
            simp [Except.map, Except.bind, bind, pure, Except.pure, Part.output, Part.holds,
              Part.trim, Part.pieces, Part.anyHolds_eq_any, Part.piecesOf_eq_map,
              Part.trimAll_eq_map, Head.opening, Head.closing, isCoded, code,
              Function.comp_def]

mutual

/-- The type that a container yields writes what the container reads. -/
theorem written_of_yields (container : Container) {type : CompiledType}
    (yields : Yields container type) (bean : Bean) :
    (type.write bean).written = (readContainer container bean).map Part.output := by
  match container with
  | ⟨id, kind, name, code, truncatable, documentation, children, segments⟩ =>
      obtain ⟨options, body, nested, -, -, layout, bodyYields, nestedYields⟩ :=
        (yields_iff _ type).mp yields
      rw [CompiledType.write, layout]
      apply written_of_parts ⟨id, kind, name, code, truncatable, documentation, children,
        segments⟩
      · apply written_writeBody
        · intro none
          simpa only [YieldsBody, none] using bodyYields
        · intro level delimited filled
          have steps := (yieldsBody_of_childLevel? delimited body).mp bodyYields
          exact leading_of_yieldsChildren steps filled
        · intro level delimited
          have steps := (yieldsBody_of_childLevel? delimited body).mp bodyYields
          exact written_writeSteps_children children steps bean
        · intro level delimited
          have steps := (yieldsBody_of_childLevel? delimited body).mp bodyYields
          exact written_renderSteps_children children steps bean
      · exact written_writeSteps_segments segments nestedYields bean

theorem written_writeSteps_children (children : List Child) {leading : Option Level}
    {level : Level} {scope : Scope} {steps : List Step}
    (yields : YieldsChildren leading level scope children steps) (bean : Bean) :
    (Codec.writeSteps steps bean).written =
      (readChildren scope children bean).map fun parts =>
        (parts.any Part.holds, between leading level (parts.map (·.trim.pieces))) := by
  match children with
  | [] =>
      rw [YieldsChildren] at yields
      subst yields
      rfl
  | ⟨occurs, node⟩ :: rest =>
      rw [YieldsChildren] at yields
      obtain ⟨binding, others, rfl, bound, further⟩ := yields
      have item := agrees_of_yieldsBinding node bound (claimed scope node.name).1
      have later := written_writeSteps_children rest further bean
      rw [Codec.writeSteps, Emission.written_bind, written_writeStep item, readChildren_cons]
      simp only [Emission.written_map, later]
      cases slots : readProperty (readNode node (claimed scope node.name).1)
          (claimed scope node.name).1 occurs bean with
      | error error => rfl
      | ok first =>
          cases readChildren (claimed scope node.name).2 rest bean with
          | error error => rfl
          | ok second =>
              have filled : first.map (·.trim.pieces) ≠ [] := by
                simpa using ne_nil_of_readProperty slots
              simp [bind, pure, Except.bind, Except.pure, Except.map,
                between_append filled]

theorem written_renderSteps_children (children : List Child) {leading : Option Level}
    {level : Level} {scope : Scope} {steps : List Step}
    (yields : YieldsChildren leading level scope children steps) (bean : Bean) :
    (Codec.renderSteps steps bean).written =
      (readChildren scope children bean).map fun parts => (parts.map Part.token, []) := by
  match children with
  | [] =>
      rw [YieldsChildren] at yields
      subst yields
      rfl
  | ⟨occurs, node⟩ :: rest =>
      rw [YieldsChildren] at yields
      obtain ⟨binding, others, rfl, bound, further⟩ := yields
      have item := agrees_of_yieldsBinding node bound (claimed scope node.name).1
      have later := written_renderSteps_children rest further bean
      rw [Codec.renderSteps, Emission.written_bind, written_renderStep item,
        readChildren_cons]
      simp only [Emission.written_map, later]
      cases readProperty (readNode node (claimed scope node.name).1)
          (claimed scope node.name).1 occurs bean with
      | error error => rfl
      | ok first =>
          cases readChildren (claimed scope node.name).2 rest bean with
          | error error => rfl
          | ok second => simp [bind, pure, Except.bind, Except.pure, Except.map]

theorem written_writeSteps_segments (segments : List Child) {scope : Scope}
    {steps : List Step} (yields : YieldsSegments scope segments steps) (bean : Bean) :
    (Codec.writeSteps steps bean).written =
      (readSegments scope segments bean).map fun parts =>
        (parts.any Part.holds, (parts.map (·.trim.pieces)).flatten) := by
  match segments with
  | [] =>
      rw [YieldsSegments] at yields
      subst yields
      rfl
  | ⟨occurs, node⟩ :: rest =>
      rw [YieldsSegments] at yields
      obtain ⟨binding, others, rfl, bound, further⟩ := yields
      have item := agrees_of_yieldsBinding node bound (claimed scope node.name).1
      have later := written_writeSteps_segments rest further bean
      rw [Codec.writeSteps, Emission.written_bind, written_writeStep_segment item,
        readSegments_cons]
      simp only [Emission.written_map, later]
      cases readItems (readNode node (claimed scope node.name).1)
          (claimed scope node.name).1 occurs bean with
      | error error => rfl
      | ok first =>
          cases readSegments (claimed scope node.name).2 rest bean with
          | error error => rfl
          | ok second => simp [bind, pure, Except.bind, Except.pure, Except.map]

/-- Writing by the binding of a node agrees with reading by the node. -/
theorem agrees_of_yieldsBinding (node : Node) {binding : Codec.Binding}
    (yields : YieldsBinding node binding) (name : String) :
    Agrees (binding.write name) (readNode node name) := by
  intro value
  match node with
  | .value content =>
      rw [YieldsBinding] at yields
      subst yields
      cases value with
      | scalar scalar =>
          simp only [bindingOf, Codec.Binding.write, Codec.writeScalar, readNode, readScalar]
          cases Encoder.render (encoderOf content) scalar with
          | ok rendered => rfl
          | error error => cases error <;> rfl
      | bean properties => rfl
      | list items => rfl
  | .container content =>
      rw [YieldsBinding] at yields
      obtain ⟨type, rfl, yields⟩ := yields
      obtain ⟨typeName, space, nodeName, kind, layout⟩ := type
      cases value with
      | bean properties => exact written_of_yields content yields properties
      | scalar scalar => rfl
      | list items => rfl

end

/-- The text of a bean is spelled by the pieces of its trimmed reading. -/
theorem encode_of_yields {container : Container} {type : CompiledType}
    (yields : Yields container type) (table : Delimiter.Table) (bean : Bean) :
    type.encode table bean =
      (readContainer container bean).map fun part =>
        Codec.Piece.textOf table part.trim.pieces := by
  rw [CompiledType.encode_eq_written, written_of_yields container yields]
  cases readContainer container bean <;> rfl

/-- The text of a message is the text of its trimmed reading. -/
theorem encode_eq_text_of_yields {root : Container} {type : CompiledType}
    (yields : Yields root type) (group : root.kind = .segmentGroup) (sound : root.Sound)
    (table : Delimiter.Table) (bean : Bean) :
    type.encode table bean =
      (readContainer root bean).map fun part => part.trim.text table := by
  rw [encode_of_yields yields]
  cases read : readContainer root bean with
  | error error => rfl
  | ok part =>
      have stands := isSegment_of_readContainer sound group read
      exact congrArg Except.ok (stands.trim.textOf_pieces table)

end FlatMessage.Compiler
