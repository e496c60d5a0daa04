import FlatMessage.Codec.Emission
import FlatMessage.Naming.Identifier
import FlatMessage.Naming.Scope
import FlatMessage.Schema.Node
import Mathlib.Data.List.DropRight

/-!
# Reading a bean by its schema

A schema tree says on its own what stands in a message.  Reading a bean by a
container gives the slots of its delimited children, filled from the left and
padded with empty ones, and the items of its nested segments in order.  Neither
compiled types nor delimiter tables take part.

A truncatable container keeps its slots up to the last one that holds a value;
`Part.trim` drops the others throughout a reading.  What is left is laid out by
`Part.text`: composites join their slots, segments put a separator before each.

Reading fails where the values of a property do not fit it, at the first such
place in schema order.
-/

namespace FlatMessage.Reading

open Codec (WriteError)
open Naming (Scope)
open Schema (Child Container ContainerKind Node NodeId Occurs ValueNode)

/-! ## Parts of a message -/

/-- What an occurrence of a container knows of its container. -/
structure Head where
  id : NodeId
  kind : ContainerKind
  code : Option String
  truncatable : Bool
  /-- Whether the container has delimited children. -/
  hasFields : Bool
  deriving DecidableEq, Repr

/-- The head of the occurrences of a container. -/
def headOf (container : Container) : Head :=
  ⟨container.id, container.kind, container.code, container.truncatable,
    container.hasFields⟩

/-- Whether a container writes its code and the segment separator. -/
def Head.isCoded (head : Head) : Bool :=
  head.kind = .segment && head.hasFields

theorem Head.isCoded_iff (head : Head) :
    head.isCoded = true ↔ head.kind = .segment ∧ head.hasFields = true := by
  rw [Head.isCoded, Bool.and_eq_true, decide_eq_true_iff]

/-- What stands in a slot or in the place of a nested segment. -/
inductive Part
  | empty
  | value (rendered : Rendered)
  | container (head : Head) (slots nested : List Part)

namespace Part

/-- Induction over parts, with the hypothesis for every slot and every nested
segment. -/
@[elab_as_elim]
theorem induction {motive : Part → Prop} (empty : motive empty)
    (value : ∀ rendered, motive (value rendered))
    (container : ∀ head slots nested, (∀ slot ∈ slots, motive slot) →
      (∀ segment ∈ nested, motive segment) → motive (container head slots nested)) :
    ∀ part, motive part :=
  @Part.rec motive (fun parts => ∀ part ∈ parts, motive part) empty value container
    (List.forall_mem_nil motive)
    (fun _ _ partHolds restHold => List.forall_mem_cons.mpr ⟨partHolds, restHold⟩)

mutual

/-- Whether a part holds a segment code or a value that is not empty. -/
def holds : Part → Bool
  | .empty => false
  | .value rendered => !rendered.isEmpty
  | .container head slots nested =>
      (head.isCoded && head.code.isSome) || anyHolds slots || anyHolds nested

/-- Whether one of several parts holds something. -/
def anyHolds : List Part → Bool
  | [] => false
  | part :: rest => part.holds || anyHolds rest

end

theorem anyHolds_eq_any (parts : List Part) : anyHolds parts = parts.any holds := by
  induction parts with
  | nil => rfl
  | cons part rest ih => simp [anyHolds, ih]

/-- The slots that a container keeps: all of them, or those up to the last one that
holds a value if it is truncatable. -/
def kept (head : Head) (slots : List Part) : List Part :=
  if head.truncatable then slots.rdropWhile (!·.holds) else slots

mutual

/-- Drop the slots that containers do not keep. -/
def trim : Part → Part
  | .empty => .empty
  | .value rendered => .value rendered
  | .container head slots nested =>
      .container head (kept head (trimAll slots)) (trimAll nested)

/-- Trim several parts. -/
def trimAll : List Part → List Part
  | [] => []
  | part :: rest => part.trim :: trimAll rest

end

theorem trimAll_eq_map (parts : List Part) : trimAll parts = parts.map trim := by
  induction parts with
  | nil => rfl
  | cons part rest ih => simp [trimAll, ih]

mutual

/-- The text of a part under a delimiter table. -/
def text (table : Delimiter.Table) : Part → String
  | .empty => ""
  | .value rendered => table.escapeText (rendered.text table)
  | .container head slots nested =>
      match head.kind with
      | .segmentGroup => String.join (texts table nested)
      | .segment =>
          if head.hasFields then
            head.code.getD "" ++
              String.join ((texts table slots).map (table.field ++ ·)) ++
              table.segment ++ String.join (texts table nested)
          else String.join (texts table nested)
      | .field => Text.join table.component (texts table slots)
      | .component => Text.join table.subComponent (texts table slots)

/-- The texts of several parts. -/
def texts (table : Delimiter.Table) : List Part → List String
  | [] => []
  | part :: rest => part.text table :: texts table rest

end

theorem texts_eq_map (table : Delimiter.Table) (parts : List Part) :
    texts table parts = parts.map (text table) := by
  induction parts with
  | nil => rfl
  | cons part rest ih => simp [texts, ih]

end Part

/-! ## Properties and their items -/

/-- The name under which the next child of a container is looked up, and the
names that are then taken. -/
def claimed (scope : Scope) (nodeName : String) : String × Scope :=
  scope.claim ((Naming.propertyIdentifier nodeName).toOption.getD "") "_"

/-- The names that are taken after some children. -/
def scopeAfter (scope : Scope) : List Child → Scope
  | [] => scope
  | child :: rest => scopeAfter (claimed scope child.node.name).2 rest

/-- The items of the property `name`: a single value counts as one item, and a
list is one of several occurrences. -/
def itemsOf (name : String) (occurs : Occurs) (value : Option Value) :
    Except WriteError (List Value) :=
  match value with
  | none => .ok []
  | some (.list items) =>
      if occurs.isRepeating then
        match occurs.max with
        | some max =>
            if items.length ≤ max then .ok items
            else .error (.tooMany name max items.length)
        | none => .ok items
      else .error (.property name .singleOccurrence .list)
  | some item => .ok [item]

/-- The number of slots of a delimited child with `count` items: its maximum if
it has one, otherwise the number of items, and never fewer than one. -/
def slotCount (occurs : Occurs) (count : Nat) : Nat :=
  max (occurs.max.getD count) 1

/-- The slots of a delimited child, filled from the left. -/
def slotsOf (occurs : Occurs) (items : List Value) : List (Option Value) :=
  items.map some ++ List.replicate (slotCount occurs items.length - items.length) none

/-- Read what is in a slot. -/
def readSlot (read : Value → Except WriteError Part) :
    Option Value → Except WriteError Part
  | none => .ok .empty
  | some value => read value

/-! ## Reading -/

/-- The encoder of a value leaf whose options are accepted. -/
def encoderOf (content : ValueNode) : Option Encoder :=
  content.dataType.bind fun dataType =>
    (Encoder.build dataType content.options).toOption

/-- Read a scalar of the property `name`. -/
def readScalar (content : ValueNode) (name : String) (value : Value) :
    Except WriteError Part :=
  match value with
  | .scalar scalar =>
      match Encoder.render (encoderOf content) scalar with
      | .ok rendered => .ok (.value rendered)
      | .error (.mismatch dataType found) => .error (.value dataType found)
      | .error (.fault fault) => .error (.fault fault)
  | value => .error (.property name .scalarValue value.kind)

mutual

/-- Read a bean by a container.  A segment group has no slots. -/
def readContainer (container : Container) (bean : Bean) : Except WriteError Part :=
  match container with
  | ⟨_, kind, _, _, _, _, children, segments⟩ => do
      let delimited := kind.childLevel?.isSome
      let slots ← (if delimited then readChildren [] children bean else .ok [])
      let nested ←
        readSegments (if delimited then scopeAfter [] children else []) segments bean
      return .container (headOf container) slots nested
termination_by structural container

/-- Read the slots of delimited children. -/
def readChildren (scope : Scope) (children : List Child) (bean : Bean) :
    Except WriteError (List Part) :=
  match children with
  | [] => .ok []
  | ⟨occurs, node⟩ :: rest => do
      let (name, scope) := claimed scope node.name
      let items ← itemsOf name occurs (bean.get? name)
      let slots ← (slotsOf occurs items).mapM (readSlot (readNode node name))
      let others ← readChildren scope rest bean
      return slots ++ others
termination_by structural children

/-- Read the items of nested segments. -/
def readSegments (scope : Scope) (segments : List Child) (bean : Bean) :
    Except WriteError (List Part) :=
  match segments with
  | [] => .ok []
  | ⟨occurs, node⟩ :: rest => do
      let (name, scope) := claimed scope node.name
      let items ← itemsOf name occurs (bean.get? name)
      let parts ← items.mapM (readNode node name)
      let others ← readSegments scope rest bean
      return parts ++ others
termination_by structural segments

/-- Read one item of the property `name`. -/
def readNode (node : Node) (name : String) (value : Value) : Except WriteError Part :=
  match node with
  | .value content => readScalar content name value
  | .container content =>
      match value with
      | .bean properties => readContainer content properties
      | value => .error (.property name .bean value.kind)
termination_by structural node

end

end FlatMessage.Reading
