import FlatMessage.Codec.Emission
import FlatMessage.Codec.Token
import FlatMessage.Codec.Type

/-!
# Writing beans

A layout writes its segment code, its body, its terminator and its nested
segments.  A step of the body owns slots: one when its property does not repeat,
otherwise as many as the declared maximum or, without a maximum, as there are
items, and never fewer than one.  Slots that no item fills stay empty.  A step of
a nested segment has no slots and writes its items one after the other.

A body that is truncated is rendered completely before anything of it is
written, and is written only up to its last slot with a value.

Every part of the writing reports whether it wrote a segment code or a value
that is not empty.
-/

namespace FlatMessage.Codec

open Delimiter (Level)

namespace Property

/-- The only occurrence of a property that does not repeat. -/
def single (property : Property) (value : Value) : Except WriteError Value :=
  match value with
  | .list _ => .error (.property property.name .singleOccurrence .list)
  | value => .ok value

/-- The items of a repeating property; a single value counts as one item. -/
def items (property : Property) (value : Option Value) :
    Except WriteError (List Value) :=
  let items :=
    match value with
    | none => []
    | some (.list items) => items
    | some single => [single]
  match property.occurs.max with
  | some max =>
      if max < items.length then
        .error (.tooMany property.name max items.length)
      else .ok items
  | none => .ok items

/-- The number of slots that a repeating property owns. -/
def slotCount (property : Property) (items : Nat) : Nat :=
  max (max (property.occurs.max.getD 1) items) 1

/-- The items of a repeating property spread over its slots. -/
def slots (property : Property) (items : List Value) : List (Option Value) :=
  items.map some ++
    List.replicate (property.slotCount items.length - items.length) none

end Property

/-- Write a scalar value of the property `name`. -/
def writeScalar (name : String) (binding : ScalarBinding) (value : Value) :
    Emission Bool :=
  match value with
  | .scalar content =>
      match Encoder.render binding.encoder content with
      | .ok rendered => ⟨[.value rendered], .ok !rendered.isEmpty⟩
      | .error (.mismatch dataType found) => .fail (.value dataType found)
      | .error (.fault fault) => .fail (.fault fault)
  | value => .fail (.property name .scalarValue value.kind)

/-- Write the slots of a step, each after the delimiter that comes before it.
`write` writes one item. -/
def writeSlots (write : Value → Emission Bool) (before level : Option Level) :
    List (Option Value) → Emission Bool
  | [] => .done false
  | slot :: rest => do
      Emission.delimiter? before
      let written ← slot.elim (.done false) write
      (written || ·) <$> writeSlots write level level rest

/-- Write the items of nested segments one after the other. -/
def writeItems (write : Value → Emission Bool) : List Value → Emission Bool
  | [] => .done false
  | item :: rest => do
      let written ← write item
      (written || ·) <$> writeItems write rest

/-- Write one step.  `write` writes one item of its property. -/
def writeStep (write : Value → Emission Bool) (property : Property)
    (leading level : Option Level) (bean : Bean) : Emission Bool := do
  let value := bean.get? property.name
  if property.occurs.isRepeating then
    let items ← Emission.ofExcept (property.items value)
    match level with
    | none => writeItems write items
    | some level => writeSlots write leading (some level) (property.slots items)
  else
    Emission.delimiter? leading
    match value with
    | none => return false
    | some value => write (← Emission.ofExcept (property.single value))

/-- Render slots into tokens. -/
def renderSlots (write : Value → Emission Bool) :
    List (Option Value) → Emission (List (Token Piece))
  | [] => .done []
  | none :: rest => (Token.absent :: ·) <$> renderSlots write rest
  | some item :: rest => do
      let (written, pieces) ← (write item).withheld
      (⟨pieces, written⟩ :: ·) <$> renderSlots write rest

/-- Render one step into the tokens of its slots. -/
def renderStep (write : Value → Emission Bool) (property : Property)
    (bean : Bean) : Emission (List (Token Piece)) := do
  let value := bean.get? property.name
  if property.occurs.isRepeating then
    let items ← Emission.ofExcept (property.items value)
    renderSlots write (property.slots items)
  else
    match value with
    | none => return [Token.absent]
    | some value =>
        let value ← Emission.ofExcept (property.single value)
        renderSlots write [some value]

/-- Write the tokens of a truncated body, if any holds a value.  `leading` is the
level whose delimiter comes before the first of them. -/
def writeTokens (level : Level) (leading : Option Level)
    (tokens : List (Token Piece)) : Emission Bool :=
  if Token.anyValue tokens then do
    Emission.delimiter? leading
    ⟨Token.joinTruncated [.delimiter level] tokens, .ok true⟩
  else .done false

/-- Write the terminator of a segment. -/
def writeTerminator (terminator : Option Level) (flush : Bool) : Emission Unit :=
  match terminator with
  | none => .done ()
  | some level => do
      Emission.piece (.delimiter level)
      if flush then Emission.piece .flush

mutual

/-- Write a bean by a layout. -/
def Layout.write (layout : Layout) (bean : Bean) : Emission Bool :=
  match layout with
  | ⟨code, body, truncateAt, terminator, flush, segments⟩ => do
      let coded ←
        match code with
        | some code => (fun _ => true) <$> Emission.piece (.code code)
        | none => Emission.done false
      let valued ←
        match truncateAt with
        | some level => do
            let tokens ← renderSteps body bean
            writeTokens level (body.head?.bind Step.leading) tokens
        | none => writeSteps body bean
      writeTerminator terminator flush
      (coded || valued || ·) <$> writeSteps segments bean
termination_by structural layout

/-- Write steps one after the other. -/
def writeSteps (steps : List Step) (bean : Bean) : Emission Bool :=
  match steps with
  | [] => .done false
  | ⟨⟨name, nodeName, occurs, binding⟩, leading, level⟩ :: rest => do
      let written ←
        writeStep (binding.write name) ⟨name, nodeName, occurs, binding⟩ leading
          level bean
      (written || ·) <$> writeSteps rest bean
termination_by structural steps

/-- Render steps into tokens. -/
def renderSteps (steps : List Step) (bean : Bean) :
    Emission (List (Token Piece)) :=
  match steps with
  | [] => .done []
  | ⟨⟨name, nodeName, occurs, binding⟩, _, _⟩ :: rest => do
      let tokens ←
        renderStep (binding.write name) ⟨name, nodeName, occurs, binding⟩ bean
      (tokens ++ ·) <$> renderSteps rest bean
termination_by structural steps

/-- Write one item of the property `name`. -/
def Binding.write (binding : Binding) (name : String) (value : Value) :
    Emission Bool :=
  match binding with
  | .scalar scalar => writeScalar name scalar value
  | .bean ⟨_, _, _, _, layout⟩ =>
      match value with
      | .bean properties => layout.write properties
      | value => .fail (.property name .bean value.kind)
termination_by structural binding

end

namespace CompiledType

/-- Write a bean of a type. -/
def write (type : CompiledType) (bean : Bean) : Emission Bool :=
  type.layout.write bean

/-- The text of a bean of a type under a delimiter table. -/
def encode (type : CompiledType) (table : Delimiter.Table) (bean : Bean) :
    Except WriteError String :=
  let emission := type.write bean
  emission.outcome.map fun _ => Piece.textOf table emission.pieces

end CompiledType

end FlatMessage.Codec
