import FlatMessage.Schema.Model
import FlatMessage.Schema.ParseError

/-!
# Schema documents

A schema document is an `edimap` element.  Its header names the message, its
delimiter table, the documents it imports and the interchange standard it
belongs to; its `segments` element is the schema tree, which is only built once
the imported documents are at hand.

A header element that is given several times counts as given last.  Imports add
up.
-/

namespace FlatMessage.Schema

open Xml (Element)

/-- A document whose segments can be referred to under a namespace. -/
structure Import where
  resource : String
  space : String
  deriving DecidableEq, Repr

/-- A document with its header read and its tree not yet built. -/
structure Document where
  description : Description
  delimiters : Delimiter.Table
  imports : List Import
  interchange : Option InterchangeProperties
  segments : Element

/-- The value of an attribute that must be there. -/
def required (element : Element) (name : String) : Except ParseError String :=
  match element.attribute? name with
  | some value => .ok value
  | none => .error (.missingAttribute element.name name)

/-- Report a declaration error as a fault of the document. -/
def declared {α : Type} :
    Except Encoder.DeclarationError α → Except ParseError α
  | .ok value => .ok value
  | .error error => .error (.declaration error)

/-! ## Delimiters -/

/-- Put the attributes of a delimiter declaration into a table. -/
def readDelimiters (table : Delimiter.Table) :
    List (String × String) → Except ParseError Delimiter.Table
  | [] => .ok table
  | (name, text) :: rest =>
      if name = "escape" then readDelimiters (table.withEscape (some text)) rest
      else do
        let level ← declared (Encoder.levelOf name)
        readDelimiters (table.set level text) rest

/-- The table that a document declares.  What it leaves out is not used, except
for the decimal point. -/
def declaredTable (element : Element) : Except ParseError Delimiter.Table := do
  let table ← readDelimiters Delimiter.Table.unset element.attributes
  if table.segment = "" ∨ table.field = "" then
    .error (.structural .delimitersIncomplete)
  else .ok table

/-! ## The header -/

/-- What has been read of a header. -/
structure Header where
  description : Option Description
  delimiters : Delimiter.Table
  imports : List Import
  interchange : Option InterchangeProperties
  segments : Option Element

/-- A header of which nothing is read. -/
def Header.initial : Header :=
  ⟨none, Delimiter.Table.edifact, [], none, none⟩

/-- Read one child element of the document. -/
def Header.read (header : Header) (element : Element) :
    Except ParseError Header :=
  if element.name = "import" then do
    let resource ← required element "resource"
    let space ← required element "namespace"
    .ok { header with imports := header.imports ++ [⟨resource, space⟩] }
  else if element.name = "description" then do
    let name ← required element "name"
    let version ← required element "version"
    .ok { header with description := some ⟨name, version⟩ }
  else if element.name = "delimiters" then do
    .ok { header with delimiters := ← declaredTable element }
  else if element.name = "interchange" then do
    let type ← required element "type"
    let version ← required element "version"
    .ok { header with interchange := some ⟨type, version⟩ }
  else if element.name = "segments" then
    .ok { header with segments := some element }
  else if element.name = "documentation" then .ok header
  else .error (.unknownElement element.name "edimap")

/-- Read all child elements of the document. -/
def Header.readAll (header : Header) : List Element → Except ParseError Header
  | [] => .ok header
  | element :: rest => do (← header.read element).readAll rest

namespace Document

/-- Read a document from its root element. -/
def ofElement (root : Element) : Except ParseError Document :=
  if root.name = "edimap" then do
    let header ← Header.initial.readAll root.children
    match header.description, header.segments with
    | none, _ => .error (.structural .missingDescription)
    | some _, none => .error (.structural .missingSegments)
    | some description, some segments =>
        .ok
          { description, segments
            delimiters := header.delimiters
            imports := header.imports
            interchange := header.interchange }
  else .error (.structural (.wrongRoot root.name))

/-- Read a document from its text. -/
def parse (text : String) : Except ParseError Document :=
  match Xml.read text with
  | .ok root => ofElement root
  | .error error => .error (.unreadable error)

end Document

end FlatMessage.Schema
