import Archiver.Html.Draft
import Archiver.Html.Doctype

namespace Archiver

/-- Which rules the next token is read by. -/
inductive Mode where
  | initial
  | beforeHtml
  | beforeHead
  | inHead
  | afterHead
  | inBody
  | inText
  | inTable
  | inTableText
  | inCaption
  | inColumnGroup
  | inTableBody
  | inRow
  | inCell
  | inSelect
  | inSelectInTable
  | inTemplate
  | afterBody
  | inFrameset
  | afterFrameset
  | afterAfterBody
  | afterAfterFrameset
deriving DecidableEq, Inhabited

/-- A formatting element that later text may have to open again, or the bound of such elements. -/
inductive Formatting where
  | marker
  | entry (id : Nat) (tag : Tag)
deriving DecidableEq, Inhabited

def Formatting.holds (id : Nat) : Formatting → Bool
  | .entry other _ => other == id
  | .marker => false

/-- The state between two tokens. The innermost open element, the last formatting element and the
innermost template come first in their lists. -/
structure Builder where
  draft : Draft
  mode : Mode
  returnMode : Mode
  templateModes : List Mode
  pending : List (List Char)
  openIds : List Nat
  formatting : List Formatting
  head : Option Nat
  form : Option Nat
  isQuirky : Bool
  isFragment : Bool
  framesetOk : Bool
  dropsLineFeed : Bool
  fosters : Bool
  lexing : Lexing

/-- The state after a token, and the token if it is to be read once more. -/
abbrev Ruling := Builder × Option Token

namespace Builder

def start : Builder :=
  { draft := Draft.empty, mode := .initial, returnMode := .initial, templateModes := [], pending := [],
    openIds := [], formatting := [], head := none, form := none, isQuirky := false,
    isFragment := false, framesetOk := true, dropsLineFeed := false, fosters := false,
    lexing := .markup }

def done (b : Builder) : Ruling := (b, none)

/-- Reads the token once more by the rules of another mode. -/
def again (b : Builder) (mode : Mode) (t : Token) : Ruling := ({ b with mode := mode }, some t)

def current (b : Builder) : Nat := b.openIds.headD 0

def nameOf (b : Builder) (id : Nat) : Space × String := (b.draft.name? id).getD (.html, "")

def isNamed (b : Builder) (id : Nat) (names : List String) : Bool :=
  let (space, name) := b.nameOf id
  space == .html && names.contains name

def currentIs (b : Builder) (names : List String) : Bool := b.isNamed b.current names

def hasOpen (b : Builder) (name : String) : Bool := b.openIds.any fun id => b.isNamed id [name]

def pop (b : Builder) : Builder := { b with openIds := b.openIds.tail }

def push (b : Builder) (id : Nat) : Builder := { b with openIds := id :: b.openIds }

def removeOpen (b : Builder) (id : Nat) : Builder :=
  { b with openIds := b.openIds.filter (· != id) }

end Builder

/-- Text inside these MathML elements is read as HTML. -/
def isMathTextHost (n : Space × String) : Bool :=
  n.1 == .mathml && ["mi", "mo", "mn", "ms", "mtext"].contains n.2

/-- The content of these SVG elements is read as HTML. -/
def isSvgHtmlHost (n : Space × String) : Bool :=
  n.1 == .svg && ["foreignObject", "desc", "title"].contains n.2

def isHtmlName (names : List String) (n : Space × String) : Bool := n.1 == .html && names.contains n.2

def scopeEnds : List String :=
  ["applet", "caption", "html", "table", "td", "th", "marquee", "object", "template"]

def endsScope (n : Space × String) : Bool :=
  isHtmlName scopeEnds n || isMathTextHost n || isSvgHtmlHost n

def endsListScope (n : Space × String) : Bool := endsScope n || isHtmlName ["ol", "ul"] n

def endsButtonScope (n : Space × String) : Bool := endsScope n || isHtmlName ["button"] n

def endsTableScope (n : Space × String) : Bool := isHtmlName ["html", "table", "template"] n

def endsSelectScope (n : Space × String) : Bool := !isHtmlName ["optgroup", "option"] n

def headingNames : List String := ["h1", "h2", "h3", "h4", "h5", "h6"]

def impliedEnds : List String := ["dd", "dt", "li", "option", "optgroup", "p", "rb", "rp", "rt", "rtc"]

def thoroughImpliedEnds : List String :=
  impliedEnds ++ ["caption", "colgroup", "tbody", "td", "tfoot", "th", "thead", "tr"]

def specialNames : List String :=
  ["address", "applet", "area", "article", "aside", "base", "basefont", "bgsound", "blockquote", "body",
    "br", "button", "caption", "center", "col", "colgroup", "dd", "details", "dir", "div", "dl", "dt",
    "embed", "fieldset", "figcaption", "figure", "footer", "form", "frame", "frameset", "h1", "h2",
    "h3", "h4", "h5", "h6", "head", "header", "hgroup", "hr", "html", "iframe", "img", "input",
    "isindex", "li", "link", "listing", "main", "marquee", "menu", "meta", "nav", "noembed", "noframes",
    "noscript", "object", "ol", "p", "param", "plaintext", "pre", "script", "section", "select",
    "source", "style", "summary", "table", "tbody", "td", "template", "textarea", "tfoot", "th",
    "thead", "title", "tr", "track", "ul", "wbr", "xmp"]

namespace Builder

/-- Looks from the innermost open element outward for one that `wanted` picks, up to a scope's end. -/
def findInScope (b : Builder) (stops : Space × String → Bool) (wanted : Nat → Bool) : List Nat → Bool
  | [] => false
  | id :: rest => wanted id || (!stops (b.nameOf id) && b.findInScope stops wanted rest)

def inScope (b : Builder) (stops : Space × String → Bool) (names : List String) : Bool :=
  b.findInScope stops (fun id => b.isNamed id names) b.openIds

/-- Closes open elements while `closes` picks the innermost. -/
def popWhile (b : Builder) (closes : Nat → Bool) : Builder :=
  { b with openIds := b.openIds.dropWhile closes }

/-- Closes elements up to the innermost with one of the names, and that one too. -/
def popThrough (b : Builder) (names : List String) : Builder :=
  (b.popWhile fun id => !b.isNamed id names).pop

/-- Closes elements until the innermost has one of the names. -/
def popUntil (b : Builder) (names : List String) : Builder :=
  b.popWhile fun id => !b.isNamed id names

def closeImplied (b : Builder) (names : List String) : Builder :=
  b.popWhile fun id => b.isNamed id names

def closeImpliedExcept (b : Builder) (name : String) : Builder :=
  b.closeImplied (impliedEnds.filter (· != name))

/-- Closes a paragraph with all inside it. -/
def closeParagraph (b : Builder) : Builder := (b.closeImpliedExcept "p").popThrough ["p"]

def closeParagraphInScope (b : Builder) : Builder :=
  if b.inScope endsButtonScope ["p"] then b.closeParagraph else b

end Builder

/-- Where a new node goes. -/
inductive Spot where
  | lastIn (parent : Nat)
  | besideTable (table outer : Nat)

namespace Builder

/-- The place in front of the innermost table, or in the innermost template. -/
def fosterSpot (b : Builder) : List Nat → Spot
  | [] => .lastIn (b.openIds.getLastD 0)
  | id :: rest =>
    if b.isNamed id ["template"] then .lastIn id
    else if b.isNamed id ["table"] then .besideTable id (rest.headD 0)
    else b.fosterSpot rest

/-- Where a node meant for `target` goes: text and elements misplaced in a table leave it. -/
def spotFor (b : Builder) (target : Nat) : Spot :=
  if b.fosters && b.isNamed target ["table", "tbody", "tfoot", "thead", "tr"] then
    b.fosterSpot b.openIds
  else .lastIn target

def place (b : Builder) (spot : Spot) (id : Nat) : Builder :=
  match spot with
  | .lastIn parent => { b with draft := b.draft.append parent id }
  | .besideTable table outer =>
    if (b.draft.node table).parent.isSome then { b with draft := b.draft.putBefore table id }
    else { b with draft := b.draft.append outer id }

def addText (b : Builder) (content : List Char) : Builder :=
  match b.spotFor b.current with
  | .lastIn parent => { b with draft := b.draft.appendText parent content }
  | .besideTable table outer =>
    if (b.draft.node table).parent.isSome then { b with draft := b.draft.putTextBefore table content }
    else { b with draft := b.draft.appendText outer content }

def makeElement (b : Builder) (space : Space) (name : String) (attributes : List Attribute) :
    Nat × Builder :=
  let (id, draft) := b.draft.make (.element space name attributes)
  (id, { b with draft := draft })

/-- Makes an element at the current place, without opening it. -/
def putElement (b : Builder) (space : Space) (name : String) (attributes : List Attribute) :
    Nat × Builder :=
  let (id, b) := b.makeElement space name attributes
  (id, b.place (b.spotFor b.current) id)

/-- Makes an element at the current place and opens it. -/
def openElement (b : Builder) (space : Space) (name : String) (attributes : List Attribute) :
    Nat × Builder :=
  let (id, b) := b.putElement space name attributes
  (id, b.push id)

def openTag (b : Builder) (t : Tag) : Builder := (b.openElement .html t.name t.attributes).2

def openNamed (b : Builder) (name : String) : Builder := (b.openElement .html name []).2

def putTag (b : Builder) (t : Tag) : Builder := (b.putElement .html t.name t.attributes).2

def addComment (b : Builder) (content : List Char) : Builder :=
  let (id, draft) := b.draft.make (.comment content)
  { b with draft := draft }.place (b.spotFor b.current) id

def addCommentTo (b : Builder) (parent : Nat) (content : List Char) : Builder :=
  let (id, draft) := b.draft.make (.comment content)
  { b with draft := draft.append parent id }

/-- Makes the page's outermost element. -/
def openRoot (b : Builder) (attributes : List Attribute) : Builder :=
  let (id, b) := b.makeElement .html "html" attributes
  { b with draft := b.draft.append 0 id }.push id

def outermost (b : Builder) : Nat := b.openIds.getLastD 0

/-- The open body, which can only be the second element from outside. -/
def body? (b : Builder) : Option Nat :=
  match b.openIds.reverse with
  | _ :: id :: _ => if b.isNamed id ["body"] then some id else none
  | _ => none

/-- Opens the element and reads its text by rules of its own. -/
def openText (b : Builder) (t : Tag) (lexing : Lexing) : Builder :=
  { b.openTag t with returnMode := b.mode, mode := .inText, lexing := lexing }

/-- The formatting elements behind the last marker, last first. -/
def recentFormatting (b : Builder) : List (Nat × Tag) :=
  (b.formatting.takeWhile (· != .marker)).filterMap fun
    | .entry id tag => some (id, tag)
    | .marker => none

def isFormatting (b : Builder) (id : Nat) : Bool := b.formatting.any (Formatting.holds id)

def removeFormatting (b : Builder) (id : Nat) : Builder :=
  { b with formatting := b.formatting.filter fun f => !Formatting.holds id f }

def addMarker (b : Builder) : Builder := { b with formatting := .marker :: b.formatting }

def dropToMarker (b : Builder) : Builder :=
  { b with formatting := (b.formatting.dropWhile (· != .marker)).tail }

def isOpenOrMarker (b : Builder) : Formatting → Bool
  | .marker => true
  | .entry id _ => b.openIds.contains id

/-- Opens formatting elements again, the first of them first. -/
def reopen (b : Builder) : List Formatting → Builder
  | [] => b
  | .marker :: rest => b.reopen rest
  | .entry _ tag :: rest =>
    let (id, b) := b.openElement .html tag.name tag.attributes
    { b with formatting := .entry id tag :: b.formatting }.reopen rest

/-- Opens again the formatting elements that were closed behind the last open one. -/
def reopenFormatting (b : Builder) : Builder :=
  let closed := b.formatting.takeWhile fun f => !b.isOpenOrMarker f
  { b with formatting := b.formatting.drop closed.length }.reopen closed.reverse

/-- Two tags of one name with the same attributes in any order. -/
def sameTag (s t : Tag) : Bool :=
  s.name == t.name && s.attributes.length == t.attributes.length &&
    s.attributes.all t.attributes.contains

/-- Opens a formatting element; of four alike behind the last marker the first is forgotten. -/
def openFormatting (b : Builder) (t : Tag) : Builder :=
  let alike := b.recentFormatting.filter fun f => sameTag f.2 t
  let b :=
    if 3 ≤ alike.length then
      match alike.getLast? with
      | some (id, _) => b.removeFormatting id
      | none => b
    else b
  let (id, b) := b.openElement .html t.name t.attributes
  { b with formatting := .entry id t :: b.formatting }

end Builder

end Archiver
