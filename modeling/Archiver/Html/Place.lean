import Archiver.Html.Tree

namespace Archiver

/-- An element among its siblings; the nearest come first on both sides. -/
structure Level where
  element : Element
  children : Nodes
  before : List (Element × Nodes)
  after : List (Element × Nodes)
deriving Inhabited

/-- An element of a page with the levels above it, the parent's first. The outermost level hangs from
the page itself if `inPage`. -/
structure Place where
  level : Level
  above : List Level
  inPage : Bool
deriving Inhabited

def Place.element (p : Place) : Element := p.level.element

def Place.children (p : Place) : Nodes := p.level.children

def Place.parent? (p : Place) : Option Place :=
  match p.above with
  | [] => none
  | level :: above => some ⟨level, above, p.inPage⟩

def outward (inPage : Bool) : List Level → List Place
  | [] => []
  | level :: above => ⟨level, above, inPage⟩ :: outward inPage above

/-- The elements around an element, the nearest first. -/
def Place.ancestors (p : Place) : List Place := outward p.inPage p.above

/-- All elements in a list of siblings and below, in the order of the page. -/
def Nodes.places (inPage : Bool) (above : List Level) (before : List (Element × Nodes)) :
    Nodes → List Place
  | .nil => []
  | .text _ rest => rest.places inPage above before
  | .comment _ rest => rest.places inPage above before
  | .element e children rest =>
    let level : Level := ⟨e, children, before, rest.elements⟩
    ⟨level, above, inPage⟩ :: (children.places inPage (level :: above) [] ++
      rest.places inPage above ((e, children) :: before))

/-- The elements below an element that was cut off the page. -/
def loosePlaces (tree : Element × Nodes) : List Place :=
  tree.2.places false [⟨tree.1, tree.2, [], []⟩] []

/-- Puts an element in front of the first one that was not made before it. -/
def putByOrder (p : Place) : List Place → List Place
  | [] => [p]
  | q :: rest =>
    if p.element.order ≤ q.element.order then p :: q :: rest else q :: putByOrder p rest

/-- The elements of a page in the order of their making. -/
def Document.places (d : Document) : List Place :=
  (d.nodes.places (!d.isFragment) [] [] ++ d.loose.flatMap loosePlaces).foldr putByOrder []

/-- The elements below an element, in the order of the page. -/
def Place.below (p : Place) : List Place := p.children.places p.inPage (p.level :: p.above) []

/-- The elements of a page that `wanted` picks. -/
def Document.select (d : Document) (wanted : Place → Bool) : List Place := d.places.filter wanted

end Archiver
