import FlatMessage.Delimiter.Level
import FlatMessage.Encoder.Options
import FlatMessage.Schema.Occurs

/-!
# Schema trees

A schema is a tree of containers with value leaves.  Segment groups and segments
hold nested segments; segments, fields and components hold delimited children of
the next finer level.

Every container has an identity: the document it was written in and its place in
that document.  A segment reference puts the very same container, identity
included, into another tree.
-/

namespace FlatMessage.Schema

open Delimiter (Level)

/-- The identity of a container: its document, and the child positions that lead
to it from the root of the document. -/
structure NodeId where
  document : String
  position : List Nat
  deriving DecidableEq, Repr, Inhabited

/-- The kinds of containers. -/
inductive ContainerKind
  | segmentGroup
  | segment
  | field
  | component
  deriving DecidableEq, Repr, Inhabited

namespace ContainerKind

/-- The level a container stands at. -/
def level : ContainerKind → Level
  | segmentGroup => .segment
  | segment => .segment
  | field => .field
  | component => .component

/-- The level of a container's delimited children, if it can have any. -/
def childLevel? : ContainerKind → Option Level
  | segmentGroup => none
  | segment => some .field
  | field => some .component
  | component => some .subComponent

/-- The name of a kind in schema documents and descriptors. -/
def name : ContainerKind → String
  | segmentGroup => "segmentGroup"
  | segment => "segment"
  | field => "field"
  | component => "component"

end ContainerKind

/-- A leaf that holds one scalar. -/
structure ValueNode where
  name : String
  level : Level
  dataType : Option Encoder.DataType
  options : Encoder.Options
  deriving DecidableEq, Repr

mutual

/-- A node of a schema tree. -/
inductive Node
  | container (content : Container)
  | value (content : ValueNode)

/-- A node with children. -/
structure Container where
  id : NodeId
  kind : ContainerKind
  name : String
  code : Option String
  truncatable : Bool
  documentation : Option String
  /-- The delimited children. -/
  children : List Child
  /-- The nested segments and segment groups. -/
  segments : List Child

/-- A node with the number of times it may occur. -/
structure Child where
  occurs : Occurs
  node : Node

end

instance : Inhabited Node :=
  ⟨.value ⟨"", .field, none, []⟩⟩

namespace Node

/-- The name of a node. -/
def name : Node → String
  | container content => content.name
  | value content => content.name

/-- The level a node stands at. -/
def level : Node → Level
  | container content => content.kind.level
  | value content => content.level

/-- The container that a node is. -/
def container? : Node → Option Container
  | container content => some content
  | value _ => none

/-- Whether a node is a segment or a segment group. -/
def isSegmentLike : Node → Bool
  | container content => content.kind = .segment || content.kind = .segmentGroup
  | value _ => false

end Node

/-- Whether a container has delimited children. -/
def Container.hasFields (container : Container) : Bool :=
  !container.children.isEmpty

mutual

/-- The first nested segment with a code, each one before what is nested in
it. -/
def Container.findSegment? (container : Container) (code : String) :
    Option Node :=
  match container with
  | { segments, .. } => findSegmentIn? code segments
termination_by structural container

/-- The first segment with a code among `segments` and what they nest. -/
def findSegmentIn? (code : String) (segments : List Child) : Option Node :=
  match segments with
  | [] => none
  | child :: rest => (child.findSegment? code).or (findSegmentIn? code rest)
termination_by structural segments

/-- The node of a child if it has the code, else what it nests. -/
def Child.findSegment? (child : Child) (code : String) : Option Node :=
  match child with
  | ⟨_, .value _⟩ => none
  | ⟨_, .container content⟩ =>
      if content.code = some code then some (.container content)
      else content.findSegment? code
termination_by structural child

end

end FlatMessage.Schema
