import Archiver.Html.Parse
import Archiver.Page.Body

namespace Archiver

/-- Elements that end the line before and after them, so that the spaces there do not count. -/
def blockNames : List String :=
  ["html", "body", "div", "ul", "ol", "li", "table", "tr", "header", "head", "footer", "nav", "section",
    "article", "aside", "main", "blockquote", "script", "style", "p", "h1", "h2", "h3", "h4", "h5",
    "h6", "pre", "hr", "br", "td"]

/-- Blocks that hold other blocks; text between these that is all blank does not count. -/
def containerNames : List String :=
  ["html", "body", "div", "ul", "ol", "li", "table", "tr", "header", "head", "footer", "nav", "section",
    "article", "aside", "main", "blockquote"]

/-- Blocks set apart by blank lines alone. -/
def paragraphNames : List String :=
  ["html", "head", "body", "div", "table", "tr", "td", "header", "footer", "nav", "section", "article",
    "aside", "main", "p", "pre"]

/-- Characters that mean something to Markdown wherever they stand. -/
def isMarkdownMark (c : Char) : Bool := ['\\', '*', '_', Char.ofNat 0x60, '[', ']'].contains c

def escapeMarks (s : List Char) : List Char := s.flatMap fun c => if isMarkdownMark c then ['\\', c] else [c]

/-- True for number signs with a space after them. -/
def opensHeading (s : List Char) : Bool :=
  match s.dropWhile (· == '#') with
  | ' ' :: _ => s.head? == some '#'
  | _ => false

/-- Digits and points up to a space, a point among them: the last character is escaped. -/
def escapeNumber (s : List Char) : List Char :=
  let run := s.takeWhile fun c => isAsciiDigit c || c == '.'
  if run.contains '.' && (s.drop run.length).head? == some ' ' then
    run.dropLast ++ ['\\', '.'] ++ s.drop run.length
  else s

/-- Escapes what would begin a heading, a quote, a list or a rule at the start of a text. -/
def escapeStart (s : List Char) : List Char :=
  match s with
  | [] => []
  | c :: rest =>
    if ['=', '~', '>'].contains c then '\\' :: s
    else if c == '-' || c == '+' then if rest.head? == some ' ' then '\\' :: s else s
    else if c == '#' then if opensHeading s then '\\' :: s else s
    else if isAsciiDigit c then escapeNumber s
    else s

def escapeMarkdown (s : List Char) : List Char := escapeStart (escapeMarks s)

/-- Each run of spaces and line ends becomes one space; `open` tells that one was written. -/
def squeezeSpaces (isOpen : Bool) : List Char → List Char
  | [] => []
  | c :: s =>
    if isHtmlSpace c then if isOpen then squeezeSpaces true s else ' ' :: squeezeSpaces true s
    else c :: squeezeSpaces false s

def trimLineFeeds (s : List Char) : List Char :=
  ((s.dropWhile (· == '\n')).reverse.dropWhile (· == '\n')).reverse

def leadingLineFeeds (s : List Char) : Nat := (s.takeWhile (· == '\n')).length

/-- Joins two pieces with the line feeds of the side that has more, two at most. -/
def joinPieces (s t : List Char) : List Char :=
  if s.isEmpty then t
  else if t.isEmpty then s
  else
    let feeds := max (leadingLineFeeds s.reverse) (leadingLineFeeds t)
    (s.reverse.dropWhile (· == '\n')).reverse ++ List.replicate (min feeds 2) '\n' ++
      t.dropWhile (· == '\n')

def joinAll (pieces : List (List Char)) : List Char := pieces.foldl joinPieces []

/-- Sets a content in emphasis marks, its outer blanks outside of them. -/
def emphasize (mark content : List Char) : List Char :=
  let core := trim content
  if core.isEmpty then content
  else
    content.takeWhile isBlank ++ mark ++ core ++ mark ++ (content.reverse.takeWhile isBlank).reverse

def escapeParens (s : List Char) : List Char :=
  s.flatMap fun c => if c == '(' || c == ')' then ['\\', c] else [c]

def trimHtmlSpaces (s : List Char) : List Char :=
  ((s.dropWhile isHtmlSpace).reverse.dropWhile isHtmlSpace).reverse

/-- The lines of a title that are not blank, quotes escaped. -/
def titleText (s : List Char) : List Char :=
  ['\n'].intercalate
    (((lines s).map fun line =>
      (trimHtmlSpaces line).flatMap fun c => if c == '"' then ['\\', '"'] else [c]).filter (!·.isEmpty))

/-- The target of a link in its brackets, in angles with its title if it holds a space. -/
def linkTarget (link : List Char) (title : Option (List Char)) : List Char :=
  let link := escapeParens link
  let title := match title with
    | none => []
    | some title => " \"".toList ++ titleText title ++ ['"']
  if link.contains ' ' then "(<".toList ++ link ++ title ++ ">)".toList
  else ['('] ++ link ++ title ++ [')']

/-- The last value of attributes with one of the names. -/
def Element.lastOf? (e : Element) (names : List String) : Option (List Char) :=
  (e.attributes.reverse.find? fun a => names.contains a.name).map (·.value)

def linkText (e : Element) (content : List Char) : List Char :=
  match e.lastOf? ["href"] with
  | none => content
  | some link =>
    content.takeWhile isBlank ++ ['['] ++ trim content ++ [']'] ++
      linkTarget link (e.lastOf? ["title"]) ++ (content.reverse.takeWhile isBlank).reverse

def imageText (e : Element) : List Char :=
  match e.lastOf? ["src", "href"] with
  | none => []
  | some link =>
    "![".toList ++ titleText ((e.lastOf? ["alt"]).getD []) ++ [']'] ++ linkTarget link (e.lastOf? ["title"])

def backtick : Char := Char.ofNat 0x60

/-- The place of the first backtick without another one next to it. -/
def loneBacktick? (before : Char) (place : Nat) : List Char → Option Nat
  | [] => none
  | c :: s =>
    if c == backtick && before != backtick && s.head? != some backtick then some place
    else loneBacktick? c (place + 1) s

/-- Code in a line; a lone backtick in it asks for two around it. -/
def codeText (content : List Char) : List Char :=
  let core := trim content
  match loneBacktick? '\x00' 0 content with
  | none => [backtick] ++ core ++ [backtick]
  | some 0 => [backtick, backtick, ' '] ++ core ++ [' ', backtick, backtick]
  | some _ => [backtick, backtick] ++ core ++ [backtick, backtick]

def fence (content : List Char) : List Char :=
  if occursIn (List.replicate 4 backtick) content then List.replicate 5 backtick
  else if occursIn (List.replicate 3 backtick) content then List.replicate 4 backtick
  else List.replicate 3 backtick

/-- The language that a class of the form `language-name` gives. -/
def Element.language? (e : Element) : Option (List Char) :=
  match e.attributes.find? (·.name == "class") with
  | none => none
  | some a => (splitAll (· == ' ') a.value).findSome? (after? "language-".toList)

def codeBlock (e : Element) (outer : Option Element) (content : List Char) : List Char :=
  let content := if endsWith ['\n'] content then content.dropLast else content
  let language := (e.language?.or (outer.bind Element.language?)).getD []
  fence content ++ language ++ ['\n'] ++ content ++ ['\n'] ++ fence content

def quoteText (content : List Char) : List Char :=
  let quoted := (lines (trimLineFeeds content)).map fun line =>
    if line.isEmpty then ['>'] else '>' :: ' ' :: line
  "\n\n".toList ++ ['\n'].intercalate quoted ++ "\n\n".toList

/-- All lines but the first move in by four spaces, blank ones excepted; a final line end is lost. -/
def indentRest (content : List Char) : List Char :=
  match lines content with
  | [] => []
  | first :: rest =>
    ['\n'].intercalate (first :: rest.map fun line => if line.isEmpty then [] else "    ".toList ++ line)

/-- Where an element stands: the element around it, and the number of list items before it. -/
structure Setting where
  outer : Option Element
  items : Nat

def Setting.outerName (s : Setting) : String := (s.outer.map (·.name)).getD ""

/-- The number that a list starts with. -/
def Element.listStart (e : Element) : Nat :=
  match e.lastOf? ["start"] with
  | none => 1
  | some value =>
    let digits := match value with
      | '+' :: rest => rest
      | value => value
    if !digits.isEmpty && digits.all isAsciiDigit && decimalValue digits < 18446744073709551616 then
      decimalValue digits
    else 1

def itemText (s : Setting) (content : List Char) : List Char :=
  let content := indentRest (content.dropWhile (· == '\n'))
  match s.outer with
  | some e =>
    if e.name == "ol" then
      ['\n'] ++ (e.listStart + s.items).repr.toList ++ ".  ".toList ++ content ++ ['\n']
    else "\n*   ".toList ++ content ++ ['\n']
  | none => "\n*   ".toList ++ content ++ ['\n']

def headingLevel? (name : String) : Option Nat :=
  match name.toList with
  | ['h', d] => if '1' ≤ d && d ≤ '6' then some (d.toNat - 48) else none
  | _ => none

/-- The Markdown of an element with its content, or none for an element that is passed over. -/
def Element.markdown? (e : Element) (s : Setting) (content : List Char) : Option (List Char) :=
  let name := e.name
  if hiddenNames.contains name then none
  else if name == "img" then some (imageText e)
  else if name == "a" then some (linkText e content)
  else if name == "ul" || name == "ol" then
    if s.outerName == "li" then some (['\n'] ++ trimLineFeeds content ++ ['\n'])
    else some ("\n\n".toList ++ trimLineFeeds content ++ "\n\n".toList)
  else if name == "li" then some (itemText s content)
  else if name == "blockquote" then some (quoteText content)
  else if name == "code" then
    some (if s.outerName == "pre" then codeBlock e s.outer content else codeText content)
  else if name == "b" || name == "strong" then some (emphasize ['*', '*'] content)
  else if name == "i" || name == "em" then some (emphasize ['_'] content)
  else if name == "br" then some "  \n".toList
  else if name == "hr" then some "\n\n* * *\n\n".toList
  else if paragraphNames.contains name then some ("\n\n".toList ++ trimLineFeeds content ++ "\n\n".toList)
  else
    match headingLevel? name with
    | some level =>
      some ("\n\n".toList ++ List.replicate level '#' ++ [' '] ++ trim content ++ "\n\n".toList)
    | none => some content

/-- The pieces written so far, the last one first. -/
abbrev Pieces := List (List Char)

def trimSpacesEnd (s : List Char) : List Char := (s.reverse.dropWhile (· == ' ')).reverse

/-- Drops the spaces at the end of what was written. -/
def Pieces.dropSpaces : Pieces → Pieces
  | [] => []
  | piece :: rest =>
    let trimmed := trimSpacesEnd piece
    if trimmed.length == piece.length then piece :: rest else trimmed :: Pieces.dropSpaces rest

/-- Adds a text; `atStart` tells that spaces before it do not count. -/
def Pieces.addText (pieces : Pieces) (s : Setting) (atStart : Bool) (content : List Char) : Pieces :=
  if s.outerName == "pre" || s.outerName == "code" then content :: pieces
  else if containerNames.contains s.outerName && content.all isBlank then pieces
  else
    let text := squeezeSpaces false (escapeMarkdown content)
    if atStart || (text.head? == some ' ' && (pieces.head?.any fun p => p.getLast? == some ' ')) then
      text.dropWhile (· == ' ') :: pieces
    else text :: pieces

/-- Writes the nodes after the pieces. -/
def Nodes.write (s : Setting) (atStart : Bool) (pieces : Pieces) : Nodes → Pieces
  | .nil => pieces
  | .text content rest =>
    let added := pieces.addText s atStart content
    rest.write s (atStart && added.length == pieces.length) added
  | .comment _ rest => rest.write s atStart pieces
  | .element e children rest =>
    let isBlock := blockNames.contains e.name
    let pieces := if isBlock then pieces.dropSpaces else pieces
    let inner := children.write ⟨some e, 0⟩ isBlock pieces
    let content := joinAll (inner.take (inner.length - pieces.length)).reverse
    let pieces := inner.drop (inner.length - pieces.length)
    let s' := if e.name == "li" then { s with items := s.items + 1 } else s
    match e.markdown? s content with
    | none => rest.write s' atStart pieces
    | some written =>
      if written.isEmpty then rest.write s' atStart pieces
      else rest.write s' isBlock (written :: pieces)

/-- Drops spaces at line ends, all but one of the blank lines in a row, and blanks around the text. -/
def squeezeLines (blank : Bool) : List (List Char) → List Char
  | [] => []
  | line :: rest =>
    let line := trimEnd line
    if line.isEmpty then
      if blank then squeezeLines true rest else '\n' :: squeezeLines true rest
    else line ++ '\n' :: squeezeLines false rest

def tidyMarkdown (s : List Char) : List Char := trim (squeezeLines false (lines s))

/-- The Markdown of a page, before it is tidied. -/
def Document.rawMarkdown (d : Document) : List Char :=
  joinAll (d.nodes.write ⟨none, 0⟩ true []).reverse

def htmlToMarkdown (markup : List Char) : List Char := tidyMarkdown (parseDocument markup).rawMarkdown

end Archiver
