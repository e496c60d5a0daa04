import FlatMessage.Proofs.Streaming.Performing
import FlatMessage.Proofs.Written

/-!
# Writing straight to a destination

The streaming writer sends the bytes of a bean to a destination as it goes.  It has the
delimiter table at hand all the time: delimiters, values and the decision which slots
hold values are taken from the text under that table.  The slots of a truncated body are
rendered in memory first, one by one, and are joined and sent when all of them are there.

It performs what a layout writes: the table, the memory and the room of the destination
make no difference to the order of the bytes and to the outcome.
-/

namespace FlatMessage.Streaming

open Codec (Binding Emission Layout Piece Property ScalarBinding Step Token WriteError)
open Delimiter (Level Table)

/-! ## The writer -/

/-- Send the delimiter of a level, if there is one to send. -/
def streamDelimiter? (table : Table) (bodies : List Body) : Option Level → Sending Unit
  | some level => send (sentText bodies (table.get level))
  | none => pure ()

/-- Send a scalar value of the property `name`.  It counts as a value if its text under
the table is not empty. -/
def streamScalar (table : Table) (bodies : List Body) (name : String)
    (binding : ScalarBinding) (value : Value) : Sending Bool :=
  match value with
  | .scalar content =>
      match Encoder.render binding.encoder content with
      | .ok rendered => do
          let text := rendered.text table
          send (sentText bodies (table.escapeText text))
          return !text.isEmpty
      | .error (.mismatch dataType found) => throw (.value dataType found)
      | .error (.fault fault) => throw (.fault fault)
  | value => throw (.property name .scalarValue value.kind)

/-- Send the slots of a step, each after the delimiter that comes before it.  `stream`
sends one item. -/
def streamSlots (table : Table) (bodies : List Body) (stream : Value → Sending Bool)
    (before level : Option Level) : List (Option Value) → Sending Bool
  | [] => pure false
  | slot :: rest => do
      streamDelimiter? table bodies before
      let written ← slot.elim (pure false) stream
      (written || ·) <$> streamSlots table bodies stream level level rest

/-- Send the items of nested segments one after the other. -/
def streamItems (stream : Value → Sending Bool) : List Value → Sending Bool
  | [] => pure false
  | item :: rest => do
      let written ← stream item
      (written || ·) <$> streamItems stream rest

/-- Send one step.  `stream` sends one item of its property. -/
def streamStep (table : Table) (bodies : List Body) (stream : Value → Sending Bool)
    (property : Property) (leading level : Option Level) (bean : Bean) : Sending Bool := do
  let value := bean.get? property.name
  if property.occurs.isRepeating then
    let items ← MonadExcept.ofExcept (property.items value)
    match level with
    | none => streamItems stream items
    | some level =>
        streamSlots table bodies stream leading (some level) (property.slots items)
  else
    streamDelimiter? table bodies leading
    match value with
    | none => return false
    | some value => stream (← MonadExcept.ofExcept (property.single value))

/-- Render slots in memory.  `stream` sends one item. -/
def collectSlots (stream : Value → Sending Bool) :
    List (Option Value) → Except WriteError (List (Token Sent))
  | [] => .ok []
  | none :: rest => (Token.absent :: ·) <$> collectSlots stream rest
  | some item :: rest => do
      let (written, content) ← inMemory (stream item)
      (⟨content, written⟩ :: ·) <$> collectSlots stream rest

/-- Render the slots of one step in memory. -/
def collectStep (stream : Value → Sending Bool) (property : Property) (bean : Bean) :
    Except WriteError (List (Token Sent)) := do
  let value := bean.get? property.name
  if property.occurs.isRepeating then
    collectSlots stream (property.slots (← property.items value))
  else
    match value with
    | none => return [Token.absent]
    | some value => collectSlots stream [some (← property.single value)]

/-- Send the tokens of a truncated body, if any holds a value. -/
def streamTokens (table : Table) (bodies : List Body) (level : Level)
    (leading : Option Level) (tokens : List (Token Sent)) : Sending Bool :=
  if Token.anyValue tokens then do
    streamDelimiter? table bodies leading
    send (Token.joinTruncated (sentText bodies (table.get level)) tokens)
    return true
  else return false

/-- Send the segment code that comes first. -/
def streamCode (bodies : List Body) (code : Option String) : Sending Bool :=
  match code with
  | some code => (fun _ => true) <$> send (sentText bodies code)
  | none => pure false

/-- Send the terminator of a segment. -/
def streamTerminator (table : Table) (bodies : List Body) (terminator : Option Level)
    (flushes : Bool) : Sending Unit :=
  match terminator with
  | none => pure ()
  | some level => do
      send (sentText bodies (table.get level))
      if flushes then flush

mutual

/-- Send a bean by a layout. -/
def streamLayout (table : Table) (bodies : List Body) (layout : Layout) (bean : Bean) :
    Sending Bool :=
  match layout with
  | ⟨code, body, truncateAt, terminator, flush, segments⟩ => do
      let coded ← streamCode bodies code
      let inside := ⟨⟨code, body, truncateAt, terminator, flush, segments⟩, bean⟩ :: bodies
      let sendBody : Sending Bool :=
        match truncateAt with
        | some level => do
            let tokens ← MonadExcept.ofExcept (collectSteps table inside body bean)
            streamTokens table inside level (body.head?.bind Step.leading) tokens
        | none => streamSteps table inside body bean
      let valued ← sendBody
      streamTerminator table bodies terminator flush
      (coded || valued || ·) <$> streamSteps table bodies segments bean
termination_by structural layout

/-- Send steps one after the other. -/
def streamSteps (table : Table) (bodies : List Body) (steps : List Step) (bean : Bean) :
    Sending Bool :=
  match steps with
  | [] => pure false
  | ⟨⟨name, nodeName, occurs, binding⟩, leading, level⟩ :: rest => do
      let written ←
        streamStep table bodies (streamBinding table bodies binding name)
          ⟨name, nodeName, occurs, binding⟩ leading level bean
      (written || ·) <$> streamSteps table bodies rest bean
termination_by structural steps

/-- Render steps in memory. -/
def collectSteps (table : Table) (bodies : List Body) (steps : List Step) (bean : Bean) :
    Except WriteError (List (Token Sent)) :=
  match steps with
  | [] => .ok []
  | ⟨⟨name, nodeName, occurs, binding⟩, _, _⟩ :: rest => do
      let tokens ←
        collectStep (streamBinding table bodies binding name)
          ⟨name, nodeName, occurs, binding⟩ bean
      (tokens ++ ·) <$> collectSteps table bodies rest bean
termination_by structural steps

/-- Send one item of the property `name`. -/
def streamBinding (table : Table) (bodies : List Body) (binding : Binding) (name : String)
    (value : Value) : Sending Bool :=
  match binding with
  | .scalar scalar => streamScalar table bodies name scalar value
  | .bean ⟨_, _, _, _, layout⟩ =>
      match value with
      | .bean properties => streamLayout table bodies layout properties
      | value => throw (.property name .bean value.kind)
termination_by structural binding

end

/-! ## Tokens in memory -/

/-- A collected token spells a rendered one, and holds a value like that. -/
structure SameToken (table : Table) (bodies : List Body) (collected : Token Sent)
    (rendered : Token Piece) : Prop where
  hasValue : collected.hasValue = rendered.hasValue
  spells : Spells table bodies collected.content rendered.content

/-- Collecting has the outcome of an emission that renders tokens and writes nothing. -/
inductive Collects (table : Table) (bodies : List Body) :
    Except WriteError (List (Token Sent)) → Emission (List (Token Piece)) → Prop
  | tokens {collected : List (Token Sent)} {rendered : List (Token Piece)}
      (same : List.Forall₂ (SameToken table bodies) collected rendered) :
      Collects table bodies (.ok collected) (.done rendered)
  | error (error : WriteError) : Collects table bodies (.error error) (.fail error)

section

variable {table : Table} {bodies : List Body} {collected : List (Token Sent)}
  {rendered : List (Token Piece)}

theorem anyValue_of_sameTokens
    (same : List.Forall₂ (SameToken table bodies) collected rendered) :
    Token.anyValue collected = Token.anyValue rendered := by
  induction same with
  | nil => rfl
  | cons first _ ih =>
      simp only [Token.anyValue, List.any_cons, first.hasValue] at ih ⊢
      rw [ih]

theorem sameTokens_truncate
    (same : List.Forall₂ (SameToken table bodies) collected rendered) :
    List.Forall₂ (SameToken table bodies) (Token.truncate collected)
      (Token.truncate rendered) := by
  induction same with
  | nil => exact .nil
  | @cons token piece others pieces first rest ih =>
      simp only [Token.truncate]
      generalize Token.truncate others = keptTokens at ih ⊢
      generalize Token.truncate pieces = keptPieces at ih ⊢
      cases ih with
      | nil =>
          rw [first.hasValue]
          cases piece.hasValue with
          | true => exact .cons first .nil
          | false => exact .nil
      | cons second further => exact .cons first (.cons second further)

theorem spells_join (same : List.Forall₂ (SameToken table bodies) collected rendered)
    (level : Level) :
    Spells table bodies (Token.join (sentText bodies (table.get level)) collected)
      (Token.join [.delimiter level] rendered) := by
  have separator : Spells table bodies (sentText bodies (table.get level))
      [.delimiter level] :=
    .delimiter level
  induction same with
  | nil => exact .nil
  | cons first rest ih =>
      cases rest with
      | nil => exact first.spells
      | cons second further => exact (first.spells.append separator).append ih

/-- Joined tokens spell joined tokens. -/
theorem spells_joinTruncated
    (same : List.Forall₂ (SameToken table bodies) collected rendered) (level : Level) :
    Spells table bodies (Token.joinTruncated (sentText bodies (table.get level)) collected)
      (Token.joinTruncated [.delimiter level] rendered) :=
  spells_join (sameTokens_truncate same) level

/-- Tokens are put before others on both sides. -/
theorem Collects.prepend (same : List.Forall₂ (SameToken table bodies) collected rendered)
    {further : Except WriteError (List (Token Sent))} {emission : Emission (List (Token Piece))}
    (collects : Collects table bodies further emission) :
    Collects table bodies ((collected ++ ·) <$> further) ((rendered ++ ·) <$> emission) := by
  cases collects with
  | tokens others => exact .tokens (List.rel_append same others)
  | error error => exact .error error

end

/-! ## Performing what a layout writes -/

section

variable {table : Table} {bodies : List Body} {stream : Value → Sending Bool}
  {write : Value → Emission Bool}

theorem performs_ofExcept {α : Type} (outcome : Except WriteError α) :
    Performs table bodies (MonadExcept.ofExcept outcome) (Emission.ofExcept outcome) := by
  cases outcome with
  | ok result => exact .done result
  | error error => exact .fail error

theorem performs_delimiter? (level? : Option Level) :
    Performs table bodies (streamDelimiter? table bodies level?)
      (Emission.delimiter? level?) := by
  cases level? with
  | none => exact .done ()
  | some level => exact .delimiter level

theorem performs_scalar (name : String) (binding : ScalarBinding) (value : Value) :
    Performs table bodies (streamScalar table bodies name binding value)
      (Codec.writeScalar name binding value) := by
  cases value with
  | scalar content =>
      simp only [streamScalar, Codec.writeScalar]
      rcases result : Encoder.render binding.encoder content with
        (⟨dataType, found⟩ | fault) | rendered
      · exact .fail _
      · exact .fail _
      · have isRendered : IsRendered (.value rendered) := by
          rintro _ ⟨⟩
          exact ⟨binding.encoder, content, result⟩
        have visible : Piece.value rendered ≠ .flush := by
          intro same
          cases same
        simp only [Rendered.isEmpty_text]
        exact (Performs.text isRendered visible).bind fun _ => .done (!rendered.isEmpty)
  | bean properties => exact .fail _
  | list items => exact .fail _

theorem performs_slots (agrees : ∀ value, Performs table bodies (stream value) (write value))
    (before level : Option Level) (slots : List (Option Value)) :
    Performs table bodies (streamSlots table bodies stream before level slots)
      (Codec.writeSlots write before level slots) := by
  induction slots generalizing before with
  | nil => exact .done false
  | cons slot rest ih =>
      apply (performs_delimiter? before).bind
      intro _
      apply Performs.bind
      · cases slot with
        | none => exact .done false
        | some value => exact agrees value
      · intro written
        exact (ih level).map _

theorem performs_items (agrees : ∀ value, Performs table bodies (stream value) (write value))
    (items : List Value) :
    Performs table bodies (streamItems stream items) (Codec.writeItems write items) := by
  induction items with
  | nil => exact .done false
  | cons item rest ih => exact (agrees item).bind fun written => ih.map _

theorem performs_step (agrees : ∀ value, Performs table bodies (stream value) (write value))
    (property : Property) (leading level : Option Level) (bean : Bean) :
    Performs table bodies (streamStep table bodies stream property leading level bean)
      (Codec.writeStep write property leading level bean) := by
  unfold streamStep Codec.writeStep
  cases property.occurs.isRepeating with
  | true =>
      apply (performs_ofExcept _).bind
      intro items
      cases level with
      | none => exact performs_items agrees items
      | some level => exact performs_slots agrees leading (some level) _
  | false =>
      apply (performs_delimiter? leading).bind
      intro _
      cases bean.get? property.name with
      | none => exact .done false
      | some value => exact (performs_ofExcept _).bind agrees

theorem collects_slots (agrees : ∀ value, Performs table bodies (stream value) (write value))
    (slots : List (Option Value)) :
    Collects table bodies (collectSlots stream slots) (Codec.renderSlots write slots) := by
  induction slots with
  | nil => exact .tokens .nil
  | cons slot rest ih =>
      cases slot with
      | none => exact .prepend (.cons ⟨rfl, .nil⟩ .nil) ih
      | some value =>
          have memory := (agrees value).inMemory
          simp only [collectSlots, Codec.renderSlots, Emission.withheld]
          cases outcome : (write value).outcome with
          | error error =>
              rw [outcome] at memory
              rw [memory]
              exact .error error
          | ok written =>
              rw [outcome] at memory
              obtain ⟨sent, kept, spells⟩ := memory
              rw [kept]
              exact .prepend (.cons ⟨rfl, spells⟩ .nil) ih

theorem collects_step (agrees : ∀ value, Performs table bodies (stream value) (write value))
    (property : Property) (bean : Bean) :
    Collects table bodies (collectStep stream property bean)
      (Codec.renderStep write property bean) := by
  unfold collectStep Codec.renderStep
  cases property.occurs.isRepeating with
  | true =>
      simp only [if_true]
      cases property.items (bean.get? property.name) with
      | error error => exact .error error
      | ok items => exact collects_slots agrees _
  | false =>
      cases bean.get? property.name with
      | none => exact .tokens (.cons ⟨rfl, .nil⟩ .nil)
      | some value =>
          cases single : property.single value with
          | error error =>
              simp only [single]
              exact .error error
          | ok item =>
              simp only [single]
              exact collects_slots agrees _

theorem performs_tokens {collected : List (Token Sent)} {rendered : List (Token Piece)}
    (same : List.Forall₂ (SameToken table bodies) collected rendered) (level : Level)
    (leading : Option Level) :
    Performs table bodies (streamTokens table bodies level leading collected)
      (Codec.writeTokens level leading rendered) := by
  unfold streamTokens Codec.writeTokens
  rw [anyValue_of_sameTokens same]
  cases Token.anyValue rendered with
  | false => exact .done false
  | true =>
      apply (performs_delimiter? leading).bind
      intro _
      have joined := Performs.send (spells_joinTruncated same level)
      exact joined.map fun _ => true

theorem performs_code (code : Option String) :
    Performs table bodies (streamCode bodies code) (Reading.writeCode code) := by
  cases code with
  | none => exact .done false
  | some code => exact (Performs.code code).map _

theorem performs_terminator (terminator : Option Level) (flushes : Bool) :
    Performs table bodies (streamTerminator table bodies terminator flushes)
      (Codec.writeTerminator terminator flushes) := by
  cases terminator with
  | none => exact .done ()
  | some level =>
      apply (Performs.delimiter level).bind
      intro _
      cases flushes with
      | true => exact .flush
      | false => exact .done ()

end

section

variable {table : Table} {bodies : List Body} {layout : Layout} {bean : Bean}

/-- The streaming of a body, collected or not, performs its writing.  The bodies that
its bytes belong to are rendered, this one among them. -/
theorem performs_body
    (streams : Performs table (⟨layout, bean⟩ :: bodies)
      (streamSteps table (⟨layout, bean⟩ :: bodies) layout.body bean)
      (Codec.writeSteps layout.body bean))
    (collects : Collects table (⟨layout, bean⟩ :: bodies)
      (collectSteps table (⟨layout, bean⟩ :: bodies) layout.body bean)
      (Codec.renderSteps layout.body bean)) :
    Performs table bodies
      (match layout.truncateAt with
        | some level => do
            let tokens ← MonadExcept.ofExcept
              (collectSteps table (⟨layout, bean⟩ :: bodies) layout.body bean)
            streamTokens table (⟨layout, bean⟩ :: bodies) level
              (layout.body.head?.bind Step.leading) tokens
        | none => streamSteps table (⟨layout, bean⟩ :: bodies) layout.body bean)
      (Reading.writeBody layout bean) := by
  unfold Reading.writeBody
  cases truncates : layout.truncateAt with
  | none =>
      have untouched : Body.IsRendered ⟨layout, bean⟩ := by
        intro isTruncated
        rw [Layout.truncates, truncates] at isTruncated
        cases isTruncated
      exact streams.of_cons untouched
  | some level =>
      generalize collectSteps table (⟨layout, bean⟩ :: bodies) layout.body bean = collected
        at collects ⊢
      cases outcome : Codec.renderSteps layout.body bean with
      | mk pieces result =>
          rw [outcome] at collects
          cases collects with
          | error error => exact .fail error
          | @tokens _ rendered same =>
              have isRendered : Body.IsRendered ⟨layout, bean⟩ := by
                intro _
                exact ⟨rendered, congrArg Emission.outcome outcome⟩
              exact (performs_tokens same level _).of_cons isRendered

end

mutual

/-- Streaming a bean by a layout performs what the layout writes. -/
theorem performs_streamLayout (table : Table) (bodies : List Body) (layout : Layout)
    (bean : Bean) :
    Performs table bodies (streamLayout table bodies layout bean) (layout.write bean) := by
  rw [Reading.write_eq]
  match layout with
  | ⟨code, body, truncateAt, terminator, flush, segments⟩ =>
      have streams := performs_streamSteps table
        (⟨⟨code, body, truncateAt, terminator, flush, segments⟩, bean⟩ :: bodies) body bean
      have collects := collects_collectSteps table
        (⟨⟨code, body, truncateAt, terminator, flush, segments⟩, bean⟩ :: bodies) body bean
      have nested := performs_streamSteps table bodies segments bean
      apply (performs_code code).bind
      intro coded
      apply (performs_body streams collects).bind
      intro valued
      apply (performs_terminator terminator flush).bind
      intro _
      exact nested.map _
termination_by structural layout

theorem performs_streamSteps (table : Table) (bodies : List Body) (steps : List Step)
    (bean : Bean) :
    Performs table bodies (streamSteps table bodies steps bean)
      (Codec.writeSteps steps bean) := by
  match steps with
  | [] => exact .done false
  | ⟨⟨name, nodeName, occurs, binding⟩, leading, level⟩ :: rest =>
      have item := performs_streamBinding table bodies binding name
      apply (performs_step item _ leading level bean).bind
      intro written
      exact (performs_streamSteps table bodies rest bean).map _
termination_by structural steps

theorem collects_collectSteps (table : Table) (bodies : List Body) (steps : List Step)
    (bean : Bean) :
    Collects table bodies (collectSteps table bodies steps bean)
      (Codec.renderSteps steps bean) := by
  match steps with
  | [] => exact .tokens .nil
  | ⟨⟨name, nodeName, occurs, binding⟩, leading, level⟩ :: rest =>
      have item := performs_streamBinding table bodies binding name
      have others := collects_collectSteps table bodies rest bean
      unfold collectSteps Codec.renderSteps
      have first := collects_step item ⟨name, nodeName, occurs, binding⟩ bean
      generalize collectStep (streamBinding table bodies binding name)
        ⟨name, nodeName, occurs, binding⟩ bean = collected at first ⊢
      generalize Codec.renderStep (binding.write name) ⟨name, nodeName, occurs, binding⟩ bean =
        rendered at first ⊢
      cases first with
      | tokens same => exact .prepend same others
      | error error => exact .error error
termination_by structural steps

theorem performs_streamBinding (table : Table) (bodies : List Body) (binding : Binding)
    (name : String) (value : Value) :
    Performs table bodies (streamBinding table bodies binding name value)
      (binding.write name value) := by
  match binding with
  | .scalar scalar => exact performs_scalar name scalar value
  | .bean ⟨_, _, _, _, layout⟩ =>
      cases value with
      | scalar content => exact .fail _
      | bean properties => exact performs_streamLayout table bodies layout properties
      | list items => exact .fail _
termination_by structural binding

end

end FlatMessage.Streaming
