import Archiver.Text.Blank

namespace Archiver

/-- The vocabulary that gives an element's name its meaning. -/
inductive Space where
  | html
  | svg
  | mathml
deriving DecidableEq, Inhabited

/-- The vocabulary of an attribute; most have none. -/
inductive AttributeSpace where
  | plain
  | xml
  | xmlns
  | xlink
deriving DecidableEq, Inhabited

structure Attribute where
  space : AttributeSpace
  name : String
  value : List Char
deriving DecidableEq, Inhabited

/-- An element without its children; `order` counts the nodes the parser made before it, so it tells
elements of one page apart. -/
structure Element where
  order : Nat
  space : Space
  name : String
  attributes : List Attribute
deriving DecidableEq, Inhabited

/-- The children of a node, first to last; `rest` holds the later siblings. -/
inductive Nodes where
  | nil
  | text (content : List Char) (rest : Nodes)
  | comment (content : List Char) (rest : Nodes)
  | element (e : Element) (children rest : Nodes)
deriving DecidableEq, Inhabited

/-- A parsed page. The trees in `loose` were cut off while it was parsed, each an element with its
children. -/
structure Document where
  nodes : Nodes
  loose : List (Element × Nodes)
  isFragment : Bool
deriving DecidableEq, Inhabited

/-- The value of an attribute that belongs to no vocabulary. -/
def Element.attribute? (e : Element) (name : String) : Option (List Char) :=
  (e.attributes.find? fun a => a.space == .plain && a.name == name).map (·.value)

/-- The value of the first attribute named `id`, in whatever vocabulary. -/
def Element.id? (e : Element) : Option (List Char) :=
  (e.attributes.find? (·.name == "id")).map (·.value)

def Element.classes (e : Element) : List (List Char) :=
  (e.attributes.filter (·.name == "class")).flatMap fun a => words a.value

def Element.hasClass (e : Element) (name : List Char) : Bool := e.classes.contains name

/-- All text at any depth. -/
def Nodes.textContent : Nodes → List Char
  | .nil => []
  | .text content rest => content ++ rest.textContent
  | .comment _ rest => rest.textContent
  | .element _ children rest => children.textContent ++ rest.textContent

/-- The text nodes at any depth. -/
def Nodes.texts : Nodes → List (List Char)
  | .nil => []
  | .text content rest => content :: rest.texts
  | .comment _ rest => rest.texts
  | .element _ children rest => children.texts ++ rest.texts

/-- The elements among the siblings themselves. -/
def Nodes.elements : Nodes → List (Element × Nodes)
  | .nil => []
  | .text _ rest => rest.elements
  | .comment _ rest => rest.elements
  | .element e children rest => (e, children) :: rest.elements

/-- True if one of the siblings is an element or a text. -/
def Nodes.hasContent : Nodes → Bool
  | .nil => false
  | .text _ _ => true
  | .comment _ rest => rest.hasContent
  | .element _ _ _ => true

/-- The outermost element of the page. -/
def Document.root (d : Document) : Element × Nodes := d.nodes.elements.headD default

end Archiver
