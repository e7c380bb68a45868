import Archiver.Html.Adoption

namespace Archiver

namespace Builder

/-- The rules to read by after elements were closed. -/
def resetMode (b : Builder) : List Nat → Mode
  | [] => .inBody
  | id :: rest =>
    let isLast := rest.isEmpty
    if isLast && b.isFragment then .inBody
    else
      let (space, name) := b.nameOf id
      if space != .html then b.resetMode rest
      else if name == "select" then
        match rest.find? fun id => b.isNamed id ["template", "table"] with
        | some id => if b.isNamed id ["table"] then .inSelectInTable else .inSelect
        | none => .inSelect
      else if ["td", "th"].contains name && !isLast then .inCell
      else if name == "tr" then .inRow
      else if ["tbody", "thead", "tfoot"].contains name then .inTableBody
      else if name == "caption" then .inCaption
      else if name == "colgroup" then .inColumnGroup
      else if name == "table" then .inTable
      else if name == "template" then b.templateModes.headD .inBody
      else if name == "head" && !isLast then .inHead
      else if name == "body" then .inBody
      else if name == "frameset" then .inFrameset
      else if name == "html" then if b.head.isSome then .afterHead else .beforeHead
      else b.resetMode rest

def reset (b : Builder) : Builder := { b with mode := b.resetMode b.openIds }

/-- Reads leading blanks by one rule and all from the first other character on by another. -/
def splitText (b : Builder) (content : List Char) (blanks : Builder → List Char → Builder)
    (others : Builder → List Char → Ruling) : Ruling :=
  match content.takeWhile isHtmlSpace, content.dropWhile isHtmlSpace with
  | [], [] => b.done
  | [], _ => others b content
  | run, [] => (blanks b run).done
  | run, rest => (blanks b run, some (.text rest))

/-- Passes over everything in front of the next blank. -/
def skipOthers (b : Builder) (content : List Char) : Ruling :=
  match content.dropWhile fun c => !isHtmlSpace c with
  | [] => b.done
  | rest => (b, some (.text rest))

def forget (b : Builder) (_ : List Char) : Builder := b

/-- A second start tag of the outermost element only adds attributes. -/
def addToRoot (b : Builder) (t : Tag) : Builder :=
  if b.hasOpen "template" then b
  else { b with draft := b.draft.addAttributes b.outermost t.attributes }

/-- The end of a template's content. -/
def closeTemplate (b : Builder) : Builder :=
  let b := (b.popThrough ["template"]).dropToMarker
  { b with templateModes := b.templateModes.tail }.reset

def headNames : List String :=
  ["base", "basefont", "bgsound", "link", "meta", "noframes", "script", "style", "template", "title"]

/-- Start tags of the elements that a page's head can hold. -/
def openHeadTag (b : Builder) (t : Tag) : Builder :=
  if t.name == "title" then b.openText t (.escapable "title")
  else if t.name == "script" then b.openText t .script
  else if ["noframes", "style", "noscript"].contains t.name then b.openText t (.raw t.name)
  else if t.name == "template" then
    { (b.openTag t).addMarker with
      framesetOk := false, mode := .inTemplate, templateModes := .inTemplate :: b.templateModes }
  else b.putTag t

def endTemplate (b : Builder) : Builder :=
  if b.hasOpen "template" then (b.closeImplied thoroughImpliedEnds).closeTemplate else b

def initialRules (b : Builder) (t : Token) : Ruling :=
  match t with
  | .text content =>
    b.splitText content forget fun b rest => { b with isQuirky := true }.again .beforeHtml (.text rest)
  | .comment content => (b.addCommentTo 0 content).done
  | .doctype d => { b with isQuirky := d.isQuirky, mode := .beforeHtml }.done
  | t => { b with isQuirky := true }.again .beforeHtml t

/-- End tags that open what they would close, as far as the start of a page goes. -/
def openingEnds : List String := ["head", "body", "html", "br"]

def beforeHtmlRules (b : Builder) (t : Token) : Ruling :=
  match t with
  | .text content =>
    b.splitText content forget fun b rest => (b.openRoot []).again .beforeHead (.text rest)
  | .comment content => (b.addCommentTo 0 content).done
  | .startTag tag =>
    if tag.name == "html" then { b.openRoot tag.attributes with mode := .beforeHead }.done
    else (b.openRoot []).again .beforeHead t
  | .endTag tag =>
    if openingEnds.contains tag.name then (b.openRoot []).again .beforeHead t else b.done
  | t => (b.openRoot []).again .beforeHead t

/-- Opens the head and remembers it. -/
def openHead (b : Builder) (attributes : List Attribute) : Builder :=
  let (id, b) := b.openElement .html "head" attributes
  { b with head := some id, mode := .inHead }

def beforeHeadRules (b : Builder) (t : Token) : Ruling :=
  match t with
  | .text content =>
    b.splitText content forget fun b rest => (b.openHead []).again .inHead (.text rest)
  | .comment content => (b.addComment content).done
  | .startTag tag =>
    if tag.name == "html" then (b.addToRoot tag).done
    else if tag.name == "head" then (b.openHead tag.attributes).done
    else (b.openHead []).again .inHead t
  | .endTag tag =>
    if openingEnds.contains tag.name then (b.openHead []).again .inHead t else b.done
  | t => (b.openHead []).again .inHead t

def headRules (b : Builder) (t : Token) : Ruling :=
  match t with
  | .text content =>
    b.splitText content addText fun b rest => b.pop.again .afterHead (.text rest)
  | .comment content => (b.addComment content).done
  | .startTag tag =>
    if tag.name == "html" then (b.addToRoot tag).done
    else if headNames.contains tag.name || tag.name == "noscript" then (b.openHeadTag tag).done
    else if tag.name == "head" then b.done
    else b.pop.again .afterHead t
  | .endTag tag =>
    if tag.name == "head" then { b.pop with mode := .afterHead }.done
    else if ["body", "html", "br"].contains tag.name then b.pop.again .afterHead t
    else if tag.name == "template" then b.endTemplate.done
    else b.done
  | t => b.pop.again .afterHead t

/-- An element of the head that comes after it is still put into it. -/
def lateHeadTag (b : Builder) (t : Tag) : Builder :=
  match b.head with
  | none => b.openHeadTag t
  | some head => ((b.push head).openHeadTag t).removeOpen head

def afterHeadRules (b : Builder) (t : Token) : Ruling :=
  match t with
  | .text content =>
    b.splitText content addText fun b rest => (b.openNamed "body").again .inBody (.text rest)
  | .comment content => (b.addComment content).done
  | .startTag tag =>
    if tag.name == "html" then (b.addToRoot tag).done
    else if tag.name == "body" then
      { b.openTag tag with framesetOk := false, mode := .inBody }.done
    else if tag.name == "frameset" then { b.openTag tag with mode := .inFrameset }.done
    else if headNames.contains tag.name then (b.lateHeadTag tag).done
    else if tag.name == "head" then b.done
    else (b.openNamed "body").again .inBody t
  | .endTag tag =>
    if tag.name == "template" then b.endTemplate.done
    else if ["body", "html", "br"].contains tag.name then (b.openNamed "body").again .inBody t
    else b.done
  | t => (b.openNamed "body").again .inBody t

/-- Text and raw elements: all that comes before the end tag belongs to the element. -/
def textRules (b : Builder) (t : Token) : Ruling :=
  match t with
  | .text content => (b.addText content).done
  | .endTag _ => { b.pop with mode := b.returnMode }.done
  | .finish => b.pop.again b.returnMode t
  | _ => b.done

def templateFinish (b : Builder) : Ruling :=
  if b.hasOpen "template" then (b.closeTemplate, some .finish) else b.done

end Builder

end Archiver
