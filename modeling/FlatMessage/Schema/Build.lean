import FlatMessage.Schema.Document

/-!
# Building schema trees

The element tree below `segments` becomes a schema tree, one node for each
element other than documentation.  A field or component without parts is a value
leaf; with parts it is a container.  A segment with a reference is the container
that the reference denotes.

An element where it is not allowed makes the build fail.  The order of the checks
on one element is: occurrences, reference, name, code, truncation, content.
-/

namespace FlatMessage.Schema

open Delimiter (Level)
open Xml (Element)

/-- The roots of the imported documents; of equally named ones the last
counts. -/
abbrev Imported :=
  List (String × Node)

/-- The root imported under a namespace. -/
def Imported.root? (imported : Imported) (space : String) : Option Node :=
  imported.reverse.lookup space

/-! ## Attributes -/

/-- The occurrences that an element declares; without a minimum `least` is
taken, and without a maximum one. -/
def readOccurs (element : Element) (least : Nat) : Except ParseError Occurs := do
  let min ←
    match element.attribute? "minOccurs" with
    | none => .ok least
    | some raw =>
        match Text.unsigned? occursLimit (Text.trim raw) with
        | some min => .ok min
        | none => .error (.invalidAttribute element.name "minOccurs" raw)
  match element.attribute? "maxOccurs" with
  | none => .ok ⟨min, some 1⟩
  | some raw =>
      match Occurs.readMax? raw with
      | some max => .ok ⟨min, max⟩
      | none => .error (.invalidAttribute element.name "maxOccurs" raw)

/-- A truth value attribute, which is false when it is absent. -/
def readFlag (element : Element) (name : String) : Except ParseError Bool :=
  match element.attribute? name with
  | none => .ok false
  | some raw =>
      match Text.boolean? (Text.trim raw) with
      | some flag => .ok flag
      | none => .error (.invalidAttribute element.name name raw)

/-- The least number of occurrences that a requirement stands for. -/
def leastOf (isRequired : Bool) : Nat :=
  if isRequired then 1 else 0

/-! ## References -/

/-- The segment that a reference denotes: a namespace and a code around its
first colon. -/
def resolveReference (imported : Imported) (reference : String) :
    Except ParseError Node :=
  let found := do
    let (space, code) ← Text.cut? ':' reference
    let root ← imported.root? space
    let container ← root.container?
    container.findSegment? code
  match found with
  | some node => .ok node
  | none => .error (.unresolvedReference reference)

/-! ## Fields and components -/

/-- The value leaf of an element. -/
def buildValue (element : Element) (level : Level) :
    Except ParseError ValueNode := do
  let name ← required element "xmltag"
  match element.attribute? "dataType" with
  | none => .ok ⟨name, level, none, []⟩
  | some spelling =>
      let dataType ← declared (Encoder.dataTypeOf spelling)
      let options ←
        match element.attribute? "dataTypeParameters" with
        | some list => declared (Encoder.Options.parse list)
        | none => .ok []
      .ok ⟨name, level, some dataType, options⟩

/-- The sub-component of an element, which is always a leaf. -/
def buildSubComponent (element : Element) : Except ParseError Child := do
  let occurs ← readOccurs element (leastOf (← readFlag element "required"))
  .ok ⟨occurs, .value (← buildValue element .subComponent)⟩

/-- Build the parts of a composite named `partName` with `build`, which is given
the position of each part. -/
def buildParts (owner partName : String)
    (build : Nat → Element → Except ParseError Child) (position : Nat) :
    List Element → Except ParseError (List Child)
  | [] => .ok []
  | part :: rest =>
      if part.name = "documentation" then
        buildParts owner partName build (position + 1) rest
      else if part.name = partName then do
        let child ← build position part
        .ok (child :: (← buildParts owner partName build (position + 1) rest))
      else .error (.unknownElement part.name owner)

/-- Build a field or component: a leaf at `level`, or a composite of `kind` when
it has parts. -/
def buildDelimited (document : String) (place : List Nat) (element : Element)
    (level : Level) (kind : ContainerKind) (partName : String)
    (build : Nat → Element → Except ParseError Child) :
    Except ParseError Child := do
  let occurs ← readOccurs element (leastOf (← readFlag element "required"))
  let name ← required element "xmltag"
  if element.children.all fun part => part.name = "documentation" then
    .ok ⟨occurs, .value (← buildValue element level)⟩
  else
    let truncatable ← readFlag element "truncatable"
    let children ← buildParts element.name partName build 0 element.children
    .ok
      { occurs
        node := .container
          { id := ⟨document, place⟩
            kind, name, truncatable, children
            code := none
            documentation := none
            segments := [] } }

/-- Build a component. -/
def buildComponent (document : String) (place : List Nat) (element : Element) :
    Except ParseError Child :=
  buildDelimited document place element .component .component "sub-component"
    fun _ part => buildSubComponent part

/-- Build a field. -/
def buildField (document : String) (place : List Nat) (element : Element) :
    Except ParseError Child :=
  buildDelimited document place element .field .field "component"
    fun position part => buildComponent document (place ++ [position]) part

/-! ## Segments -/

/-- What a segment or segment group holds. -/
structure Content where
  documentation : Option String
  children : List Child
  segments : List Child

/-- A container without content. -/
def Content.empty : Content :=
  ⟨none, [], []⟩

mutual

/-- Build a segment or a segment group. -/
def buildSegmentChild (document : String) (imported : Imported)
    (place : List Nat) (element : Element) : Except ParseError Child :=
  match element with
  | .mk name attributes children text =>
      let element := Element.mk name attributes children text
      do
        let occurs ← readOccurs element 1
        if name = "segment" then
          match element.attribute? "segref" with
          | some reference =>
              .ok ⟨occurs, ← resolveReference imported reference⟩
          | none =>
              let tag ← required element "xmltag"
              let code ← required element "segcode"
              let truncatable ← readFlag element "truncatable"
              let content ←
                buildSegmentContent document imported place 0 children
              .ok
                { occurs
                  node := .container
                    { id := ⟨document, place⟩
                      kind := .segment
                      name := tag
                      code := some code
                      truncatable
                      documentation := content.documentation
                      children := content.children
                      segments := content.segments } }
        else if name = "segmentGroup" then
          let tag ← required element "xmltag"
          let content ← buildGroupContent document imported place 0 children
          .ok
            { occurs
              node := .container
                { id := ⟨document, place⟩
                  kind := .segmentGroup
                  name := tag
                  code := none
                  truncatable := false
                  documentation := content.documentation
                  children := []
                  segments := content.segments } }
        else .error (.unknownElement name "segments")
termination_by structural element

/-- Build the content of a segment: fields, nested segments and
documentation. -/
def buildSegmentContent (document : String) (imported : Imported)
    (place : List Nat) (position : Nat) (elements : List Element) :
    Except ParseError Content :=
  match elements with
  | [] => .ok Content.empty
  | element :: rest =>
      if element.name = "field" then do
        let child ← buildField document (place ++ [position]) element
        let content ←
          buildSegmentContent document imported place (position + 1) rest
        .ok { content with children := child :: content.children }
      else if element.name = "segment" ∨ element.name = "segmentGroup" then do
        let child ←
          buildSegmentChild document imported (place ++ [position]) element
        let content ←
          buildSegmentContent document imported place (position + 1) rest
        .ok { content with segments := child :: content.segments }
      else if element.name = "documentation" then do
        let content ←
          buildSegmentContent document imported place (position + 1) rest
        .ok
          { content with
            documentation := content.documentation.or (some element.text) }
      else .error (.unknownElement element.name "segment")
termination_by structural elements

/-- Build the content of a segment group: nested segments and documentation. -/
def buildGroupContent (document : String) (imported : Imported)
    (place : List Nat) (position : Nat) (elements : List Element) :
    Except ParseError Content :=
  match elements with
  | [] => .ok Content.empty
  | element :: rest =>
      if element.name = "documentation" then do
        let content ←
          buildGroupContent document imported place (position + 1) rest
        .ok
          { content with
            documentation := content.documentation.or (some element.text) }
      else do
        let child ←
          buildSegmentChild document imported (place ++ [position]) element
        let content ←
          buildGroupContent document imported place (position + 1) rest
        .ok { content with segments := child :: content.segments }
termination_by structural elements

end

/-- Build the model of a document.  `identity` sets its containers apart from
those of other documents. -/
def Document.build (document : Document) (identity : String)
    (imported : Imported) : Except ParseError Model := do
  let name ← required document.segments "xmltag"
  let content ←
    buildGroupContent identity imported [] 0 document.segments.children
  .ok
    { description := document.description
      delimiters := document.delimiters
      source := none
      root := .container
        { id := ⟨identity, []⟩
          kind := .segmentGroup
          name
          code := none
          truncatable := false
          documentation := content.documentation
          children := []
          segments := content.segments } }

/-- The model of a text that imports nothing. -/
def Model.parse (identity text : String) : Except ParseError Model := do
  (← Document.parse text).build identity []

end FlatMessage.Schema
