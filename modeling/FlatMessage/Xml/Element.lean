/-!
# Elements

An element of an XML document has a name without its namespace qualifier, its
attributes in document order, its child elements in document order, and the
text that stands directly in it.

Attribute names keep their qualifier, and namespace declarations are not
attributes.
-/

namespace FlatMessage.Xml

/-- An element with everything inside it. -/
inductive Element
  | mk (name : String) (attributes : List (String × String))
      (children : List Element) (text : String)
  deriving Inhabited

namespace Element

/-- The name without its qualifier. -/
def name : Element → String
  | mk name _ _ _ => name

/-- The attributes in document order. -/
def attributes : Element → List (String × String)
  | mk _ attributes _ _ => attributes

/-- The child elements in document order. -/
def children : Element → List Element
  | mk _ _ children _ => children

/-- The text that stands directly in the element. -/
def text : Element → String
  | mk _ _ _ text => text

/-- Add a child element after the others. -/
def addChild (element child : Element) : Element :=
  mk element.name element.attributes (element.children ++ [child]) element.text

/-- Add text after the text so far. -/
def addText (element : Element) (text : String) : Element :=
  mk element.name element.attributes element.children (element.text ++ text)

/-- The value of the first attribute with a given name. -/
def attribute? (element : Element) (name : String) : Option String :=
  element.attributes.lookup name

/-- The first child element with a given name. -/
def child? (element : Element) (name : String) : Option Element :=
  element.children.find? fun child => child.name = name

end Element

end FlatMessage.Xml
