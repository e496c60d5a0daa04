import FlatMessage.Schema.Model

/-!
# Validation

A model is sound when its used structural delimiters are distinct from each
other and from the escape, its root is a segment group, every container holds
only what its kind allows, and every child may occur at least once and at least
as often as it must.

The first fault in document order is reported: delimiters before the tree, a
container before its children, delimited children before nested segments.
-/

namespace FlatMessage.Schema

open Delimiter (Level)

/-- What is wrong with a model. -/
inductive ValidationFault
  | sharedDelimiter (text : String) (level : Level)
  | escapeIsDelimiter (text : String)
  | rootNotGroup (name : String) (description : Description)
  | groupWithFields (name : String)
  | missingCode (name : String)
  | emptyComposite (kind : ContainerKind) (name : String)
  | compositeWithSegments (kind : ContainerKind) (name : String)
  | wrongLevel (child : String) (level : Level) (kind : ContainerKind)
      (parent : String)
  | notSegment (name : String)
  | neverOccurs (child parent : String)
  | minimumAboveMaximum (child parent : String) (min max : Nat)
  deriving DecidableEq, Repr

/-- The wording of a fault. -/
def ValidationFault.message : ValidationFault → String
  | sharedDelimiter text level =>
      s!"delimiter '{text}' used for more than one level ({level.name})"
  | escapeIsDelimiter text => s!"escape '{text}' is also used as a delimiter"
  | rootNotGroup name description =>
      s!"root node '{name}' of model '{description.key}' must be a segment group"
  | groupWithFields name => s!"segment group '{name}' cannot hold fields"
  | missingCode name => s!"segment '{name}' has no segment code"
  | emptyComposite kind name =>
      s!"composite {kind.name} '{name}' has no children"
  | compositeWithSegments kind name =>
      s!"{kind.name} '{name}' cannot hold segments"
  | wrongLevel child level kind parent =>
      s!"'{child}' at {level.name} level cannot be a child of {kind.name} '{parent}'"
  | notSegment name => s!"'{name}' is not a segment or segment group"
  | neverOccurs child parent => s!"'{child}' in '{parent}' has maxOccurs 0"
  | minimumAboveMaximum child parent min max =>
      s!"'{child}' in '{parent}' has minOccurs {Text.natural min} " ++
        s!"greater than maxOccurs {Text.natural max}"

/-! ## Delimiters -/

/-- Check the delimiters of `levels` against those `seen` before. -/
def checkDistinct (table : Delimiter.Table) (seen : List String) :
    List Level → Except ValidationFault (List String)
  | [] => .ok seen
  | level :: rest =>
      let text := table.get level
      if text = "" then checkDistinct table seen rest
      else if seen.contains text then .error (.sharedDelimiter text level)
      else checkDistinct table (text :: seen) rest

/-- Check that the used delimiters and the escape are distinct. -/
def validateDelimiters (table : Delimiter.Table) : Except ValidationFault Unit := do
  let seen ← checkDistinct table [] Level.structural
  match table.escape with
  | some escape =>
      if seen.contains escape then .error (.escapeIsDelimiter escape) else .ok ()
  | none => .ok ()

/-! ## Containers -/

/-- Check what a container holds against its kind. -/
def checkKind (container : Container) : Except ValidationFault Unit :=
  match container.kind with
  | .segmentGroup =>
      if container.hasFields then .error (.groupWithFields container.name)
      else .ok ()
  | .segment =>
      if container.code.getD "" = "" then .error (.missingCode container.name)
      else .ok ()
  | kind =>
      if !container.hasFields then .error (.emptyComposite kind container.name)
      else if !container.segments.isEmpty then
        .error (.compositeWithSegments kind container.name)
      else .ok ()

/-- Check the occurrences of the child `name` of `parent`. -/
def checkOccurs (parent name : String) (occurs : Occurs) :
    Except ValidationFault Unit :=
  match occurs.max with
  | none => .ok ()
  | some max =>
      if max = 0 then .error (.neverOccurs name parent)
      else if max < occurs.min then
        .error (.minimumAboveMaximum name parent occurs.min max)
      else .ok ()

mutual

/-- Check a container and everything inside it. -/
def validateContainer (container : Container) : Except ValidationFault Unit :=
  match container with
  | ⟨id, kind, name, code, truncatable, documentation, children, segments⟩ => do
      checkKind ⟨id, kind, name, code, truncatable, documentation, children, segments⟩
      validateChildren kind name children
      validateSegments name segments
termination_by structural container

/-- Check the delimited children of the container `parent`. -/
def validateChildren (kind : ContainerKind) (parent : String)
    (children : List Child) : Except ValidationFault Unit :=
  match children with
  | [] => .ok ()
  | ⟨occurs, node⟩ :: rest => do
      checkOccurs parent node.name occurs
      if kind.childLevel? ≠ some node.level then
        .error (.wrongLevel node.name node.level kind parent)
      validateNode node
      validateChildren kind parent rest
termination_by structural children

/-- Check the nested segments of the container `parent`. -/
def validateSegments (parent : String) (segments : List Child) :
    Except ValidationFault Unit :=
  match segments with
  | [] => .ok ()
  | ⟨occurs, node⟩ :: rest => do
      checkOccurs parent node.name occurs
      if !node.isSegmentLike then .error (.notSegment node.name)
      validateNode node
      validateSegments parent rest
termination_by structural segments

/-- Check a node; a leaf has nothing inside it. -/
def validateNode (node : Node) : Except ValidationFault Unit :=
  match node with
  | .value _ => .ok ()
  | .container content => validateContainer content
termination_by structural node

end

/-- Check a model. -/
def Model.validate (model : Model) : Except ValidationFault Unit := do
  validateDelimiters model.delimiters
  match model.root with
  | .container root =>
      if root.kind = .segmentGroup then validateContainer root
      else .error (.rootNotGroup root.name model.description)
  | .value root => .error (.rootNotGroup root.name model.description)

end FlatMessage.Schema
