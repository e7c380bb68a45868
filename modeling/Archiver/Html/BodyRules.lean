import Archiver.Html.Rules

namespace Archiver

namespace Builder

/-- Block elements that end an open paragraph and need nothing else. -/
def plainBlocks : List String :=
  ["address", "article", "aside", "blockquote", "center", "details", "dialog", "dir", "div", "dl",
    "fieldset", "figcaption", "figure", "footer", "header", "hgroup", "main", "menu", "nav", "ol", "p",
    "section", "summary", "ul"]

def blockEnds : List String :=
  ["address", "article", "aside", "blockquote", "button", "center", "details", "dialog", "dir", "div",
    "dl", "fieldset", "figcaption", "figure", "footer", "header", "hgroup", "listing", "main", "menu",
    "nav", "ol", "pre", "section", "summary", "ul"]

def formattingNames : List String :=
  ["b", "big", "code", "em", "font", "i", "s", "small", "strike", "strong", "tt", "u"]

/-- Elements that bound the formatting elements inside them. -/
def embeddedNames : List String := ["applet", "marquee", "object"]

def emptyNames : List String := ["area", "br", "embed", "img", "keygen", "wbr", "input"]

def tableOnlyNames : List String :=
  ["caption", "col", "colgroup", "frame", "head", "tbody", "td", "tfoot", "th", "thead", "tr"]

def isHidden (t : Tag) : Bool :=
  t.attributes.any fun a => a.name == "type" && a.value.map asciiLower == "hidden".toList

/-- Closes the list item or definition that a new one follows. -/
def closeItem (b : Builder) (names : List String) : Builder :=
  match b.openIds.find? fun id =>
    b.isNamed id names || (b.isNamed id specialNames && !b.isNamed id ["address", "div", "p"]) with
  | none => b
  | some id =>
    if b.isNamed id names then
      let name := (b.nameOf id).2
      (b.closeImpliedExcept name).popThrough [name]
    else b

/-- A link inside a link ends the outer one. -/
def closeMisnestedLink (b : Builder) : Builder :=
  match b.recentFormatting.find? fun f => b.isNamed f.1 ["a"] with
  | none => b
  | some (id, _) => ((b.adopt "a").removeFormatting id).removeOpen id

def openForm (b : Builder) (t : Tag) : Builder :=
  let inTemplate := b.hasOpen "template"
  if b.form.isSome && !inTemplate then b
  else
    let (id, b) := b.closeParagraphInScope.openElement .html t.name t.attributes
    if inTemplate then b else { b with form := some id }

def mathAttributes (a : Attribute) : Attribute :=
  if a.space == .plain && a.name == "definitionurl" then { a with name := "definitionURL" } else a

/-- SVG attribute names with capital letters. -/
def svgAttributeNames : List String :=
  ["attributeName", "attributeType", "baseFrequency", "baseProfile", "calcMode", "clipPathUnits",
    "diffuseConstant", "edgeMode", "filterUnits", "glyphRef", "gradientTransform", "gradientUnits",
    "kernelMatrix", "kernelUnitLength", "keyPoints", "keySplines", "keyTimes", "lengthAdjust",
    "limitingConeAngle", "markerHeight", "markerUnits", "markerWidth", "maskContentUnits",
    "maskUnits", "numOctaves", "pathLength", "patternContentUnits", "patternTransform",
    "patternUnits", "pointsAtX", "pointsAtY", "pointsAtZ", "preserveAlpha", "preserveAspectRatio",
    "primitiveUnits", "refX", "refY", "repeatCount", "repeatDur", "requiredExtensions",
    "requiredFeatures", "specularConstant", "specularExponent", "spreadMethod", "startOffset",
    "stdDeviation", "stitchTiles", "surfaceScale", "systemLanguage", "tableValues", "targetX",
    "targetY", "textLength", "viewBox", "viewTarget", "xChannelSelector", "yChannelSelector",
    "zoomAndPan"]

/-- SVG element names with capital letters. -/
def svgElementNames : List String :=
  ["altGlyph", "altGlyphDef", "altGlyphItem", "animateColor", "animateMotion", "animateTransform",
    "clipPath", "feBlend", "feColorMatrix", "feComponentTransfer", "feComposite", "feConvolveMatrix",
    "feDiffuseLighting", "feDisplacementMap", "feDistantLight", "feDropShadow", "feFlood", "feFuncA",
    "feFuncB", "feFuncG", "feFuncR", "feGaussianBlur", "feImage", "feMerge", "feMergeNode",
    "feMorphology", "feOffset", "fePointLight", "feSpecularLighting", "feSpotLight", "feTile",
    "feTurbulence", "foreignObject", "glyphRef", "linearGradient", "radialGradient", "textPath"]

/-- The name in a list that differs at most in the case of letters. -/
def spelled (names : List String) (name : String) : String :=
  (names.find? fun n => n.toList.map asciiLower == name.toList).getD name

def svgAttributes (a : Attribute) : Attribute :=
  if a.space == .plain then { a with name := spelled svgAttributeNames a.name } else a

/-- Attributes with a known vocabulary in front of their name. -/
def linkedAttributes (a : Attribute) : Attribute :=
  if a.space != .plain then a
  else
    match splitFirst (· == ':') a.name.toList with
    | some (mark, name) =>
      let name := String.ofList name
      if mark == "xlink".toList &&
          ["actuate", "arcrole", "href", "role", "show", "title", "type"].contains name then
        { a with space := .xlink, name := name }
      else if mark == "xml".toList && ["lang", "space"].contains name then
        { a with space := .xml, name := name }
      else if mark == "xmlns".toList && name == "xlink" then { a with space := .xmlns, name := name }
      else a
    | none => if a.name == "xmlns" then { a with space := .xmlns } else a

def foreignAttributes (space : Space) (attributes : List Attribute) : List Attribute :=
  attributes.map fun a =>
    linkedAttributes (match space with
      | .mathml => mathAttributes a
      | .svg => svgAttributes a
      | .html => a)

/-- Opens an element of a foreign vocabulary, or makes it whole if its tag closes itself. -/
def openForeign (b : Builder) (space : Space) (name : String) (t : Tag) : Builder :=
  let attributes := foreignAttributes space t.attributes
  if t.selfClosing then (b.putElement space name attributes).2
  else (b.openElement space name attributes).2

def tableModes : List Mode := [.inTable, .inCaption, .inTableBody, .inRow, .inCell]

/-- Inside `ruby`, closes what its next part ends. -/
def closeRubyPart (b : Builder) (names : List String) : Builder :=
  if b.inScope endsScope ["ruby"] then b.closeImplied names else b

def bodyStartTag (b : Builder) (t : Tag) : Builder :=
  let name := t.name
  if name == "html" then b.addToRoot t
  else if headNames.contains name then b.openHeadTag t
  else if name == "body" then
    match b.body? with
    | none => b
    | some id =>
      if b.hasOpen "template" then b
      else { b with framesetOk := false, draft := b.draft.addAttributes id t.attributes }
  else if name == "frameset" then
    match b.body? with
    | none => b
    | some id =>
      if !b.framesetOk then b
      else
        { { b with draft := b.draft.detach id, openIds := [b.outermost] }.openTag t with
          mode := .inFrameset }
  else if plainBlocks.contains name then b.closeParagraphInScope.openTag t
  else if headingNames.contains name then
    let b := b.closeParagraphInScope
    (if b.currentIs headingNames then b.pop else b).openTag t
  else if ["pre", "listing"].contains name then
    { b.closeParagraphInScope.openTag t with dropsLineFeed := true, framesetOk := false }
  else if name == "form" then b.openForm t
  else if name == "li" then
    ({ b with framesetOk := false }.closeItem ["li"]).closeParagraphInScope.openTag t
  else if ["dd", "dt"].contains name then
    ({ b with framesetOk := false }.closeItem ["dd", "dt"]).closeParagraphInScope.openTag t
  else if name == "plaintext" then { b.closeParagraphInScope.openTag t with lexing := .plaintext }
  else if name == "button" then
    let b :=
      if b.inScope endsScope ["button"] then (b.closeImplied impliedEnds).popThrough ["button"] else b
    { b.reopenFormatting.openTag t with framesetOk := false }
  else if name == "a" then b.closeMisnestedLink.reopenFormatting.openFormatting t
  else if formattingNames.contains name then b.reopenFormatting.openFormatting t
  else if name == "nobr" then
    let b := b.reopenFormatting
    (if b.inScope endsScope ["nobr"] then (b.adopt "nobr").reopenFormatting else b).openFormatting t
  else if embeddedNames.contains name then
    { (b.reopenFormatting.openTag t).addMarker with framesetOk := false }
  else if name == "table" then
    { (if b.isQuirky then b else b.closeParagraphInScope).openTag t with
      framesetOk := false, mode := .inTable }
  else if emptyNames.contains name then
    let b' := b.reopenFormatting.putTag t
    if name == "input" && isHidden t then b' else { b' with framesetOk := false }
  else if ["param", "source", "track"].contains name then b.putTag t
  else if name == "hr" then { b.closeParagraphInScope.putTag t with framesetOk := false }
  else if name == "image" then
    { b.reopenFormatting.putTag { t with name := "img" } with framesetOk := false }
  else if name == "textarea" then
    { b.openText t (.escapable name) with dropsLineFeed := true, framesetOk := false }
  else if name == "xmp" then
    { b.closeParagraphInScope.reopenFormatting.openText t (.raw name) with framesetOk := false }
  else if name == "iframe" then { b.openText t (.raw name) with framesetOk := false }
  else if ["noembed", "noscript"].contains name then b.openText t (.raw name)
  else if name == "select" then
    { b.reopenFormatting.openTag t with
      framesetOk := false
      mode := if tableModes.contains b.mode then .inSelectInTable else .inSelect }
  else if ["optgroup", "option"].contains name then
    (if b.currentIs ["option"] then b.pop else b).reopenFormatting.openTag t
  else if ["rb", "rtc"].contains name then (b.closeRubyPart impliedEnds).openTag t
  else if ["rp", "rt"].contains name then
    (b.closeRubyPart (impliedEnds.filter (· != "rtc"))).openTag t
  else if name == "math" then b.reopenFormatting.openForeign .mathml name t
  else if name == "svg" then b.reopenFormatting.openForeign .svg name t
  else if tableOnlyNames.contains name then b
  else b.reopenFormatting.openTag t

/-- Ends the form that was opened last, wherever it is. -/
def endForm (b : Builder) : Builder :=
  if b.hasOpen "template" then
    if b.inScope endsScope ["form"] then (b.closeImplied impliedEnds).popThrough ["form"] else b
  else
    match b.form with
    | none => b
    | some id =>
      let b := { b with form := none }
      if b.findInScope endsScope (· == id) b.openIds then (b.closeImplied impliedEnds).removeOpen id
      else b

def bodyEndTag (b : Builder) (t : Tag) : Ruling :=
  let name := t.name
  if name == "template" then b.endTemplate.done
  else if name == "body" then
    (if b.inScope endsScope ["body"] then { b with mode := .afterBody } else b).done
  else if name == "html" then
    if b.inScope endsScope ["body"] then b.again .afterBody (.endTag t) else b.done
  else if blockEnds.contains name then
    (if b.inScope endsScope [name] then (b.closeImplied impliedEnds).popThrough [name] else b).done
  else if name == "form" then b.endForm.done
  else if name == "p" then
    (if b.inScope endsButtonScope ["p"] then b else b.openNamed "p").closeParagraph.done
  else if name == "li" then
    (if b.inScope endsListScope [name] then (b.closeImpliedExcept name).popThrough [name] else b).done
  else if ["dd", "dt"].contains name then
    (if b.inScope endsScope [name] then (b.closeImpliedExcept name).popThrough [name] else b).done
  else if headingNames.contains name then
    (if b.inScope endsScope headingNames then
      (b.closeImplied impliedEnds).popThrough headingNames else b).done
  else if (["a", "nobr"] ++ formattingNames).contains name then (b.adopt name).done
  else if embeddedNames.contains name then
    (if b.inScope endsScope [name] then
      ((b.closeImplied impliedEnds).popThrough [name]).dropToMarker else b).done
  else if name == "br" then (b.bodyStartTag ⟨"br", [], t.selfClosing⟩).done
  else (b.closeGeneric name).done

def bodyRules (b : Builder) (t : Token) : Ruling :=
  match t with
  | .null => b.done
  | .text content =>
    let b := b.reopenFormatting
    ((if content.all isHtmlSpace then b else { b with framesetOk := false }).addText content).done
  | .comment content => (b.addComment content).done
  | .startTag tag => (b.bodyStartTag tag).done
  | .endTag tag => b.bodyEndTag tag
  | .finish => if b.templateModes.isEmpty then b.done else b.templateFinish
  | .doctype _ => b.done

/-- Reads a token by the rules of the body, and moves what a table cannot hold in front of it. -/
def fosterRules (b : Builder) (t : Token) : Ruling :=
  let (b, t) := { b with fosters := true }.bodyRules t
  ({ b with fosters := false }, t)

end Builder

end Archiver
