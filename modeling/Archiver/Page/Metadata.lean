import Archiver.Html.Place

namespace Archiver

/-- What a page tells about its article. -/
structure Metadata where
  title : Option (List Char)
  category : Option (List Char)
  isPremium : Bool
  publishDate : Option (List Char)
deriving DecidableEq, Inhabited

def Element.hasAnyClass (e : Element) (names : List String) : Bool :=
  names.any fun name => e.hasClass name.toList

/-- The first text of a picked element that is not blank, its blanks collapsed. -/
def Document.firstText? (d : Document) (wanted : Element → Bool) : Option (List Char) :=
  ((d.select fun p => wanted p.element).map fun p =>
    collapseBlanks p.children.textContent).find? (!·.isEmpty)

def isHeadline (e : Element) : Bool := e.name == "h1" || e.hasAnyClass ["post-title", "entry-title"]

/-- The first time stamp of a page that is not blank. -/
def Document.firstTime? (d : Document) : Option (List Char) :=
  ((d.select fun p => p.element.name == "time").filterMap fun p =>
    (p.element.attribute? "datetime").map trim).find? (!·.isEmpty)

/-- The headline comes before the title of the page. -/
def Document.metadata (d : Document) : Metadata :=
  { title := (d.firstText? isHeadline).or (d.firstText? fun e => e.name == "title")
    category := d.firstText? fun e => e.hasAnyClass ["category", "post-category", "tag"]
    isPremium := d.places.any fun p => p.element.hasAnyClass ["premium", "lock", "members-only"]
    publishDate := d.firstTime? }

end Archiver
