import FlatMessage.Xml.Element
import FlatMessage.Xml.Markup

/-!
# Reading element trees

The marks of a document are assembled into a tree with a stack of open
elements.  A closing tag must repeat the whole name of the element it closes,
qualifier included.  Text outside the root element counts for nothing.

Reading stops at the first fault in document order.
-/

namespace FlatMessage.Xml

/-- Why a text is not read as an element tree. -/
inductive ReadError
  /-- Markup that is not closed, not known or not matched. -/
  | malformed
  | emptyDocument
  | unexpectedEnd
  | multipleRoots
  /-- An attribute value with a reference that denotes nothing. -/
  | invalidAttribute (element name value : String)
  deriving DecidableEq, Repr

/-- An element that is not closed yet, with its name as written. -/
structure OpenElement where
  writtenName : List Char
  element : Element

/-- A name without its namespace qualifier. -/
def localName (name : List Char) : List Char :=
  match name.dropWhile (· != ':') with
  | _ :: rest => rest
  | [] => name

/-- Whether an attribute name declares a namespace. -/
def declaresNamespace (name : List Char) : Bool :=
  name == "xmlns".toList || "xmlns:".toList.isPrefixOf name

/-- The attributes of an element, with references resolved. -/
def readAttributes (element : String) :
    List (List Char × List Char) → Except ReadError (List (String × String))
  | [] => .ok []
  | (name, raw) :: rest =>
      if declaresNamespace name then readAttributes element rest
      else
        match resolve none raw with
        | some value =>
            (readAttributes element rest).map
              ((String.ofList name, String.ofList value) :: ·)
        | none =>
            .error <|
              .invalidAttribute element (String.ofList name) (String.ofList raw)

/-- The element that a tag opens. -/
def readTag (name attributes : List Char) : Except ReadError Element :=
  let element := String.ofList (localName name)
  (readAttributes element (attributesOf attributes)).map fun attributes =>
    .mk element attributes [] ""

/-- Put a finished element where it belongs: into the innermost open element,
or at the root. -/
def attach (element : Element) (stack : List OpenElement)
    (root : Option Element) :
    Except ReadError (List OpenElement × Option Element) :=
  match stack, root with
  | parent :: outer, _ =>
      .ok ({ parent with element := parent.element.addChild element } :: outer, root)
  | [], none => .ok ([], some element)
  | [], some _ => .error .multipleRoots

/-- Assemble the marks of a document. -/
def assemble (stack : List OpenElement) (root : Option Element) :
    List Mark → Except ReadError Element
  | [] =>
      match stack, root with
      | _ :: _, _ => .error .unexpectedEnd
      | [], none => .error .emptyDocument
      | [], some root => .ok root
  | .broken :: _ => .error .malformed
  | .text content :: rest =>
      match stack with
      | [] => assemble stack root rest
      | top :: outer =>
          let text := String.ofList (Text.trimChars content)
          assemble ({ top with element := top.element.addText text } :: outer)
            root rest
  | .opening name attributes :: rest => do
      let element ← readTag name attributes
      assemble (⟨name, element⟩ :: stack) root rest
  | .empty name attributes :: rest => do
      let element ← readTag name attributes
      let (stack, root) ← attach element stack root
      assemble stack root rest
  | .closing name :: rest =>
      match stack with
      | [] => .error .malformed
      | top :: outer =>
          if top.writtenName = name then do
            let (stack, root) ← attach top.element outer root
            assemble stack root rest
          else .error .malformed

/-- The root element of a document. -/
def read (text : String) : Except ReadError Element :=
  assemble [] none (marksOf text)

end FlatMessage.Xml
