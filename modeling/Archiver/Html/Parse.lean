import Archiver.Html.TableRules

namespace Archiver

namespace Builder

/-- HTML start tags that leave foreign content. -/
def leavingNames : List String :=
  ["b", "big", "blockquote", "body", "br", "center", "code", "dd", "div", "dl", "dt", "em", "embed",
    "h1", "h2", "h3", "h4", "h5", "h6", "head", "hr", "i", "img", "li", "listing", "menu", "meta",
    "nobr", "ol", "p", "pre", "ruby", "s", "small", "span", "strong", "strike", "sub", "sup", "table",
    "tt", "u", "ul", "var"]

def leavesForeign (t : Tag) : Bool :=
  leavingNames.contains t.name ||
    (t.name == "font" && t.attributes.any fun a => ["color", "face", "size"].contains a.name)

/-- The name that decides which vocabulary a token is read in. -/
def adjustedName (b : Builder) : Space × String :=
  if b.isFragment && b.openIds.length == 1 then (.html, "body") else b.nameOf b.current

def isForeign (b : Builder) (t : Token) : Bool :=
  let name := b.adjustedName
  let textHost := isMathTextHost name
  let htmlHost := isSvgHtmlHost name
  if t == .finish || b.openIds.isEmpty || name.1 == .html then false
  else
    match t with
    | .text _ | .null => !(textHost || htmlHost)
    | .startTag tag =>
      !((textHost && !(["mglyph", "malignmark"].contains tag.name)) || htmlHost ||
        (name == (.mathml, "annotation-xml") && tag.name == "svg"))
    | _ => true

def openForeignTag (b : Builder) (t : Tag) : Builder :=
  let space := b.adjustedName.1
  b.openForeign space (if space == .svg then spelled svgElementNames t.name else t.name) t

/-- Closes foreign elements up to one whose content is HTML. -/
def leaveForeign (b : Builder) : Builder :=
  b.pop.popWhile fun id =>
    let name := b.nameOf id
    !(name.1 == .html || isMathTextHost name || isSvgHtmlHost name)

/-- Looks outward for the foreign element that an end tag closes; in HTML the mode decides. -/
def endForeign (b : Builder) (t : Tag) (isFirst : Bool) : List Nat → Ruling
  | [] => b.done
  | [_] => b.done
  | id :: rest =>
    let (space, name) := b.nameOf id
    if !isFirst && space == .html then b.modeRules (.endTag t)
    else if name.toList.map asciiLower == t.name.toList.map asciiLower then
      { b with openIds := rest }.done
    else b.endForeign t false rest

def foreignRules (b : Builder) (t : Token) : Ruling :=
  match t with
  | .null => (b.addText ['\uFFFD']).done
  | .text content =>
    ((if content.all isHtmlSpace then b else { b with framesetOk := false }).addText content).done
  | .comment content => (b.addComment content).done
  | .startTag tag =>
    if leavesForeign tag && !b.isFragment then (b.leaveForeign, some t)
    else (b.openForeignTag tag).done
  | .endTag tag => b.endForeign tag true b.openIds
  | _ => b.done

/-- Reads a token until no rule asks for it once more; `fuel` bounds the readings. -/
def readToken : Nat → Builder → Token → Builder
  | 0, b, _ => b
  | fuel + 1, b, t =>
    match if b.isForeign t then b.foreignRules t else b.modeRules t with
    | (b, none) => b
    | (b, some t) => readToken fuel b t

/-- Enough readings for every open element to be closed by the token and its text to be split. -/
def readings (b : Builder) (t : Token) : Nat :=
  16 + 4 * b.openIds.length + match t with
    | .text content => content.length
    | _ => 0

def dropLineFeed (drops : Bool) : Token → Token
  | .text ('\n' :: rest) => if drops then .text rest else .text ('\n' :: rest)
  | t => t

/-- Reads one token: empty texts and late document types are passed over. -/
def read (b : Builder) (t : Token) : Builder :=
  let t := dropLineFeed b.dropsLineFeed t
  let b := { b with dropsLineFeed := false }
  match t with
  | .text [] => b
  | .doctype _ => if b.mode == .initial then (b.initialRules t).1 else b
  | t => readToken (b.readings t) b t

/-- Reads the text to its end; `fuel` bounds its length. -/
def readAll : Nat → Builder → List Char → Builder
  | 0, b, _ => b.read .finish
  | _ + 1, b, [] => b.read .finish
  | fuel + 1, b, c :: s =>
    let inForeign := !b.openIds.isEmpty && b.adjustedName.1 != .html
    let (tokens, rest) := readTokens b.lexing inForeign (c :: s)
    readAll fuel (tokens.foldl read { b with lexing := .markup }) rest

def readMarkup (b : Builder) (s : List Char) : Builder :=
  let s := cleanMarkup s
  b.readAll (s.length + 1) s

/-- The state in front of markup that stands inside a body. -/
def startFragment : Builder := { start.openRoot [] with isFragment := true, mode := .inBody }

end Builder

def parseDocument (markup : List Char) : Document :=
  (Builder.start.readMarkup markup).draft.document false

def parseFragment (markup : List Char) : Document :=
  (Builder.startFragment.readMarkup markup).draft.document true

end Archiver
