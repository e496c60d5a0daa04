import FlatMessage.Encoder.DataType
import FlatMessage.Xml.Reader

/-!
# Faults of schema documents

A document can be unreadable as an element tree, have the wrong structure, lack
or misspell an attribute, hold an element where it is not allowed, refer to a
segment that is not there, or declare something wrongly about its values.
-/

namespace FlatMessage.Schema

/-- What is wrong with the overall structure of a document. -/
inductive StructureFault
  | wrongRoot (name : String)
  | missingDescription
  | missingSegments
  | delimitersIncomplete
  | valueAsType (name : String)
  deriving DecidableEq, Repr

/-- The report of a structure fault. -/
def StructureFault.message : StructureFault → String
  | wrongRoot name => s!"expected 'edimap' root element, found '{name}'"
  | missingDescription => "missing 'description' element"
  | missingSegments => "missing 'segments' element"
  | delimitersIncomplete =>
      "delimiters must declare 'segment' and 'field'"
  | valueAsType name => s!"value node '{name}' cannot be compiled into a type"

/-- Why a schema document is refused. -/
inductive ParseError
  | unreadable (error : Xml.ReadError)
  | structural (fault : StructureFault)
  | missingAttribute (element name : String)
  | invalidAttribute (element name value : String)
  | unknownElement (element context : String)
  | unresolvedReference (reference : String)
  | declaration (error : Encoder.DeclarationError)
  deriving DecidableEq, Repr

/-- The report of an attribute value that cannot be used. -/
def invalidAttributeMessage (element name value : String) : String :=
  s!"invalid value '{value}' for attribute '{name}' on element '{element}'"

/-- The report of a refused document.  The reports of malformed XML say no more
than that it is malformed. -/
def ParseError.message : ParseError → String
  | unreadable .malformed => "XML parsing error"
  | unreadable .emptyDocument => "invalid schema structure: empty document"
  | unreadable .unexpectedEnd =>
      "invalid schema structure: unexpected end of document"
  | unreadable .multipleRoots =>
      "invalid schema structure: multiple root elements"
  | unreadable (.invalidAttribute element name value) =>
      invalidAttributeMessage element name value
  | structural fault => s!"invalid schema structure: {fault.message}"
  | missingAttribute element name =>
      s!"missing required attribute '{name}' on element '{element}'"
  | invalidAttribute element name value =>
      invalidAttributeMessage element name value
  | unknownElement element context =>
      s!"unknown element '{element}' in context '{context}'"
  | unresolvedReference reference =>
      s!"unresolved segment reference '{reference}'"
  | declaration error => error.message

end FlatMessage.Schema
