import Archiver.Html.Tree

namespace Archiver

def escapeTextChar (c : Char) : List Char :=
  if c == '&' then "&amp;".toList
  else if c == '<' then "&lt;".toList
  else if c == '>' then "&gt;".toList
  else if c == '\u00A0' then "&nbsp;".toList
  else [c]

def escapeValueChar (c : Char) : List Char :=
  if c == '&' then "&amp;".toList
  else if c == '"' then "&quot;".toList
  else if c == '\u00A0' then "&nbsp;".toList
  else [c]

def AttributeSpace.mark : AttributeSpace → List Char
  | .plain => []
  | .xml => "xml:".toList
  | .xmlns => "xmlns:".toList
  | .xlink => "xlink:".toList

def Attribute.written (a : Attribute) : List Char :=
  let mark := if a.space == .xmlns && a.name == "xmlns" then [] else a.space.mark
  ' ' :: (mark ++ a.name.toList ++ "=\"".toList ++ a.value.flatMap escapeValueChar ++ ['"'])

def voidNames : List String :=
  ["area", "base", "basefont", "bgsound", "br", "col", "embed", "frame", "hr", "img", "input",
    "keygen", "link", "meta", "param", "source", "track", "wbr"]

/-- An element that is written without children and end tag. -/
def Element.isVoid (e : Element) : Bool := e.space == .html && voidNames.contains e.name

def rawTextNames : List String :=
  ["style", "script", "xmp", "iframe", "noembed", "noframes", "plaintext"]

/-- An element whose text is written as it is. -/
def Element.holdsRawText (e : Element) : Bool := e.space == .html && rawTextNames.contains e.name

def Element.startTag (e : Element) : List Char :=
  '<' :: (e.name.toList ++ e.attributes.flatMap Attribute.written ++ ['>'])

def Element.endTag (e : Element) : List Char := '<' :: '/' :: (e.name.toList ++ ['>'])

/-- The nodes as markup; `raw` tells that their parent's text is written as it is. -/
def Nodes.written (raw : Bool) : Nodes → List Char
  | .nil => []
  | .text content rest =>
    (if raw then content else content.flatMap escapeTextChar) ++ rest.written raw
  | .comment content rest => "<!--".toList ++ content ++ "-->".toList ++ rest.written raw
  | .element e children rest =>
    e.startTag ++
    (if e.isVoid then [] else children.written e.holdsRawText ++ e.endTag) ++
    rest.written raw

/-- The markup of one element with all below it. -/
def outerHtml (e : Element) (children : Nodes) : List Char :=
  (Nodes.element e children .nil).written false

end Archiver
