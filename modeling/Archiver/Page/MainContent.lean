import Archiver.Html.Place
import Archiver.Html.Print

namespace Archiver

/-- A paragraph with fewer characters tells nothing about the element around it. -/
def leastParagraph : Nat := 25

/-- A best element that scores less is no main content. -/
def leastScore : Float := 20.0

def positiveHints : List String :=
  ["article", "body", "content", "entry", "main", "page", "post", "story", "text"]

def negativeHints : List String :=
  ["ad-", "banner", "combx", "comment", "footer", "menu", "meta", "nav", "related", "share",
    "sidebar", "social", "sponsor", "widget"]

def tagScore (name : String) : Float :=
  if name == "article" then 10.0
  else if ["div", "section", "main"].contains name then 5.0
  else if ["pre", "td", "blockquote"].contains name then 3.0
  else if ["address", "form", "ol", "ul", "dl", "dd", "dt", "li"].contains name then -3.0
  else if ["h1", "h2", "h3", "h4", "h5", "h6", "th", "header", "footer", "nav", "aside"].contains name then
    -5.0
  else 0.0

/-- What the hints in a class or an id add to a score. -/
def hintWeight (value : List Char) : Float :=
  let value := value.map asciiLower
  let weight := if negativeHints.any fun hint => occursIn hint.toList value then 0.0 - 25.0 else 0.0
  if positiveHints.any fun hint => occursIn hint.toList value then weight + 25.0 else weight

/-- The score of an element before its paragraphs count. -/
def Element.startScore (e : Element) : Float :=
  let hints := [e.attribute? "class", e.id?].filterMap id
  tagScore e.name + (hints.map hintWeight).foldl (· + ·) 0.0

/-- The characters of all text nodes, blanks around each left out. -/
def Nodes.textLength (nodes : Nodes) : Nat :=
  nodes.texts.foldl (fun n text => n + (trim text).length) 0

/-- The characters of the text inside links; text inside nested links counts for each of them. -/
def Nodes.linkedLength : Nodes → Nat
  | .nil => 0
  | .text _ rest => rest.linkedLength
  | .comment _ rest => rest.linkedLength
  | .element e children rest =>
    (if e.name == "a" then children.textLength else 0) + children.linkedLength + rest.linkedLength

def smaller (x y : Float) : Float := if x < y then x else y

def larger (x y : Float) : Float := if x < y then y else x

/-- The share of an element's text that stands in links below it, at most 1. -/
def Nodes.linkDensity (children : Nodes) : Float :=
  let total := children.textLength
  if total = 0 then 0.0 else smaller (Float.ofNat children.linkedLength / Float.ofNat total) 1.0

/-- An element that may hold the main content, with the score it has so far. -/
structure Candidate where
  place : Place
  score : Float
deriving Inhabited

/-- The score with the share of links taken off. -/
def Candidate.adjusted (c : Candidate) : Float := c.score * (1.0 - c.place.children.linkDensity)

/-- Adds points to an element; one that is new joins at the end. -/
def award (points : Float) (place : Place) : List Candidate → List Candidate
  | [] => [⟨place, place.element.startScore + points⟩]
  | c :: rest =>
    if c.place.element.order == place.element.order then { c with score := c.score + points } :: rest
    else c :: award points place rest

def awardTo (points : Float) (place : Option Place) (candidates : List Candidate) : List Candidate :=
  match place with
  | none => candidates
  | some place => award points place candidates

/-- What a text of a paragraph's length and commas is worth. -/
def paragraphPoints (text : List Char) : Float :=
  1.0 + Float.ofNat (text.filter (· == ',')).length +
    smaller (Float.ofNat (trim text).length / 100.0) 3.0

/-- A paragraph's points go to its parent, and half of them to the next element out. -/
def awardParagraph (candidates : List Candidate) (paragraph : Place) : List Candidate :=
  let text := paragraph.children.textContent
  if (trim text).length < leastParagraph then candidates
  else
    let points := paragraphPoints text
    let parent := paragraph.parent?
    awardTo (points * 0.5) (parent.bind Place.parent?) (awardTo (points * 1.0) parent candidates)

def isParagraph (p : Place) : Bool := ["p", "pre", "blockquote"].contains p.element.name

def Document.candidates (d : Document) : List Candidate :=
  (d.select isParagraph).foldl awardParagraph []

/-- The candidate with the highest adjusted score, the first of equals. -/
def bestCandidate? (candidates : List Candidate) : Option Candidate :=
  candidates.foldl (fun best c =>
    match best with
    | none => some c
    | some b => if c.adjusted > b.adjusted then some c else some b) none

/-- A sibling of the best element belongs to the content if it scores well itself, or is a long
paragraph with few links. -/
def joinsContent (candidates : List Candidate) (threshold : Float) (e : Element) (children : Nodes) :
    Bool :=
  match candidates.find? fun c => c.place.element.order == e.order with
  | some c => c.score * (1.0 - children.linkDensity) ≥ threshold
  | none => e.name == "p" && (trim children.textContent).length > 80 && children.linkDensity < 0.25

/-- The markup of the best element and of the siblings that join it. -/
def joinSiblings (candidates : List Candidate) (top : Candidate) : List Char :=
  match top.place.parent? with
  | none => outerHtml top.place.element top.place.children
  | some parent =>
    let threshold := larger (top.adjusted * 0.2) 10.0
    parent.children.elements.flatMap fun (e, children) =>
      if e.order == top.place.element.order || joinsContent candidates threshold e children then
        outerHtml e children
      else []

/-- The markup of the main content, if one part of the page stands out. -/
def Document.mainContent? (d : Document) : Option (List Char) :=
  let candidates := d.candidates
  match bestCandidate? candidates with
  | none => none
  | some top => if top.adjusted < leastScore then none else some (joinSiblings candidates top)

end Archiver
