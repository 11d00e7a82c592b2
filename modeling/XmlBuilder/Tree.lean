import XmlBuilder.Text.Blank

/-!
The tree of a document: elements with attributes, and between their tags text, comments,
processing instructions and CDATA sections. Names keep their prefixes as written.
-/
namespace XmlBuilder

/-- The prefix before the first colon of a name, if there is a colon, and what is left. -/
def splitName (name : String) : Option String × String :=
  let cs := name.toList
  match cs.dropWhile (· != ':') with
  | [] => (none, name)
  | _ :: rest => (some (String.ofList (cs.takeWhile (· != ':'))), String.ofList rest)

/-- The attribute that gives an element its default namespace. -/
def xmlns : String := "xmlns"

structure Attribute where
  name : String
  value : String
  deriving DecidableEq, Repr

namespace Attribute

/-- The prefix that an attribute `xmlns:…` binds. -/
def declaredPrefix (attr : Attribute) : Option String :=
  ((xmlns.toList ++ [':']).isPrefixOf? attr.name.toList).map String.ofList

def isDeclaration (attr : Attribute) : Bool :=
  attr.name == xmlns || attr.declaredPrefix.isSome

end Attribute

/-- What a start tag says: the name and the attributes in their order. -/
structure Tag where
  name : String
  attributes : List Attribute
  deriving DecidableEq, Repr

namespace Tag

def namePrefix (tag : Tag) : Option String := (splitName tag.name).1

def localName (tag : Tag) : String := (splitName tag.name).2

/-- The value of the first attribute of this name. -/
def attribute? (tag : Tag) (name : String) : Option String :=
  (tag.attributes.find? (·.name == name)).map (·.value)

/-- The attributes that declare no namespace. -/
def plainAttributes (tag : Tag) : List Attribute :=
  tag.attributes.filter (!·.isDeclaration)

/-- The default namespace that an element states itself, unless it contains a colon. -/
def defaultNamespace? (tag : Tag) : Option String :=
  (tag.attribute? xmlns).filter (!·.toList.contains ':')

end Tag

/-- A node of the tree. Documents that are read hold no `attr` nodes among the children. -/
inductive Node
  | element (tag : Tag) (children : List Node)
  | text (value : String)
  | attr (attr : Attribute)
  | comment (value : String)
  | instruction (target data : String)
  | cdata (value : String)
  deriving Repr

namespace Node

/-- Text that is blank from end to end. -/
def isBlank : Node → Bool
  | .text value => Text.isBlankText value
  | _ => false

end Node

structure Element where
  tag : Tag
  children : List Node
  deriving Repr

namespace Element

def toNode (element : Element) : Node := .element element.tag element.children

/-- The element without its own blank texts. -/
def prune (element : Element) : Element :=
  { element with children := element.children.filter (!·.isBlank) }

def withAttribute (element : Element) (name value : String) : Element :=
  { element with
    tag := { element.tag with attributes := element.tag.attributes ++ [⟨name, value⟩] } }

def withChild (element : Element) (child : Node) : Element :=
  { element with children := element.children ++ [child] }

def withText (element : Element) (value : String) : Element :=
  element.withChild (.text value)

end Element
end XmlBuilder
