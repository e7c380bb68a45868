import Archiver.Html.Reference
import Archiver.Html.Tree

namespace Archiver

structure Tag where
  name : String
  attributes : List Attribute
  selfClosing : Bool
deriving DecidableEq, Inhabited

/-- A document type declaration; `isBroken` tells that it does not follow its grammar. -/
structure Doctype where
  name : Option (List Char)
  publicId : Option (List Char)
  systemId : Option (List Char)
  isBroken : Bool
deriving DecidableEq, Inhabited

inductive Token where
  | startTag (t : Tag)
  | endTag (t : Tag)
  | text (content : List Char)
  | comment (content : List Char)
  | doctype (d : Doctype)
  | null
  | finish
deriving DecidableEq, Inhabited

/-- What the text after a start tag is read as. -/
inductive Lexing where
  | markup
  | escapable (name : String)
  | raw (name : String)
  | script
  | plaintext
deriving DecidableEq, Inhabited

def isHtmlSpace (c : Char) : Bool :=
  c == ' ' || c == '\t' || c == '\n' || c == '\x0c' || c == '\r'

/-- One line feed for each line end, and no byte order mark at the head. -/
def joinLineEnds : List Char → List Char
  | [] => []
  | '\r' :: '\n' :: rest => '\n' :: joinLineEnds rest
  | '\r' :: rest => '\n' :: joinLineEnds rest
  | c :: rest => c :: joinLineEnds rest

def cleanMarkup : List Char → List Char
  | '\uFEFF' :: rest => joinLineEnds rest
  | s => joinLineEnds s

def showNull (c : Char) : Char := if c == '\x00' then '\uFFFD' else c

def lowerName (s : List Char) : String := String.ofList (s.map fun c => asciiLower (showNull c))

/-- Of attributes of one name the first counts. -/
def addAttribute (name : String) (value : List Char) (found : List Attribute) : List Attribute :=
  if found.any (·.name == name) then found else ⟨.plain, name, value⟩ :: found

/-- Reads an attribute's value after the equals sign; none if the text ends first. -/
def readValue (s : List Char) : Option (List Char × List Char) :=
  match s.dropWhile isHtmlSpace with
  | [] => none
  | '"' :: rest => splitFirst (· == '"') rest
  | '\'' :: rest => splitFirst (· == '\'') rest
  | rest =>
    let value := rest.takeWhile fun c => !(isHtmlSpace c || c == '>')
    some (value, rest.drop value.length)

/-- Reads a tag after its name; none if the text ends inside it. -/
def readTagRest : Nat → List Attribute → List Char → Option (List Attribute × Bool × List Char)
  | 0, _, _ => none
  | fuel + 1, found, s =>
    match s.dropWhile isHtmlSpace with
    | [] => none
    | '>' :: rest => some (found.reverse, false, rest)
    | '/' :: '>' :: rest => some (found.reverse, true, rest)
    | '/' :: rest => readTagRest fuel found rest
    | c :: rest =>
      let name := c :: rest.takeWhile fun c => !(isHtmlSpace c || c == '/' || c == '>' || c == '=')
      let rest := rest.drop (name.length - 1)
      match rest.dropWhile isHtmlSpace with
      | '=' :: rest =>
        match readValue rest with
        | none => none
        | some (value, rest) =>
          let value := decodeReferences true (value.map showNull)
          readTagRest fuel (addAttribute (lowerName name) value found) rest
      | rest => readTagRest fuel (addAttribute (lowerName name) [] found) rest

/-- Reads a tag from its name on. -/
def readTag (s : List Char) : Option (Tag × List Char) :=
  let name := s.takeWhile fun c => !(isHtmlSpace c || c == '/' || c == '>')
  match readTagRest (s.length + 1) [] (s.drop name.length) with
  | none => none
  | some (attributes, selfClosing, rest) => some (⟨lowerName name, attributes, selfClosing⟩, rest)

/-- The text after `head` in any case of the letters A to Z. -/
def afterAnyCase? (head s : List Char) : Option (List Char) :=
  if (s.take head.length).map asciiLower == head then some (s.drop head.length) else none

/-- A comment that the text ends in loses the dashes of its unfinished end. -/
def dropUnfinishedEnd (s : List Char) : List Char :=
  match s.reverse with
  | '!' :: '-' :: '-' :: rest => rest.reverse
  | '-' :: '-' :: rest => rest.reverse
  | '-' :: rest => rest.reverse
  | _ => s

/-- The content of a comment up to its end; `seen` is what was read, last first. -/
def commentContent (seen : List Char) : List Char → List Char × List Char
  | [] => (dropUnfinishedEnd seen.reverse, [])
  | '-' :: '-' :: '>' :: rest => (seen.reverse, rest)
  | '-' :: '-' :: '!' :: '>' :: rest => (seen.reverse, rest)
  | c :: rest => commentContent (showNull c :: seen) rest

/-- Reads a comment after its opening. -/
def readComment (s : List Char) : List Char × List Char :=
  match s with
  | '>' :: rest => ([], rest)
  | '-' :: '>' :: rest => ([], rest)
  | s => commentContent [] s

/-- Reads up to a `>`, which is dropped. -/
def readToClose (s : List Char) : List Char × List Char := (splitFirst (· == '>') s).getD (s, [])

/-- Reads a quoted identifier after its quote; one cut short by `>` or the end is broken. -/
def readQuoted (quote : Char) (s : List Char) : List Char × Bool × List Char :=
  let id := (s.takeWhile fun c => c != quote && c != '>').map showNull
  match s.drop id.length with
  | c :: rest => if c == quote then (id, false, rest) else (id, true, c :: rest)
  | [] => (id, true, [])

/-- Ends a declaration that has no more to tell. -/
def closeDoctype (d : Doctype) (s : List Char) : Doctype × List Char :=
  match s.dropWhile isHtmlSpace with
  | [] => ({ d with isBroken := true }, [])
  | '>' :: rest => (d, rest)
  | rest => (d, (readToClose rest).2)

def breakDoctype (d : Doctype) (s : List Char) : Doctype × List Char :=
  ({ d with isBroken := true }, (readToClose s).2)

/-- Reads a system identifier, which may be missing only if `isOptional`. -/
def readSystemId (d : Doctype) (isOptional : Bool) (s : List Char) : Doctype × List Char :=
  match s.dropWhile isHtmlSpace with
  | '>' :: rest => ({ d with isBroken := !isOptional }, rest)
  | c :: rest =>
    if c == '"' || c == '\'' then
      let (id, isBroken, rest) := readQuoted c rest
      let d := { d with systemId := some id }
      if isBroken then breakDoctype d rest else closeDoctype d rest
    else breakDoctype d (c :: rest)
  | [] => breakDoctype d []

def readPublicId (d : Doctype) (s : List Char) : Doctype × List Char :=
  match s.dropWhile isHtmlSpace with
  | c :: rest =>
    if c == '"' || c == '\'' then
      let (id, isBroken, rest) := readQuoted c rest
      let d := { d with publicId := some id }
      if isBroken then breakDoctype d rest else readSystemId d true rest
    else breakDoctype d (c :: rest)
  | [] => breakDoctype d []

/-- Reads a document type declaration after its keyword. -/
def readDoctype (s : List Char) : Doctype × List Char :=
  let s := s.dropWhile isHtmlSpace
  let name := s.takeWhile fun c => !(isHtmlSpace c || c == '>')
  if name.isEmpty then breakDoctype ⟨none, none, none, true⟩ s
  else
    let d : Doctype := ⟨some (name.map fun c => asciiLower (showNull c)), none, none, false⟩
    let rest := (s.drop name.length).dropWhile isHtmlSpace
    match afterAnyCase? "public".toList rest with
    | some rest => readPublicId d rest
    | none =>
      match afterAnyCase? "system".toList rest with
      | some rest => readSystemId d false rest
      | none =>
        match rest with
        | '>' :: rest => (d, rest)
        | rest => breakDoctype d rest

/-- Text as tokens, each null character a token of its own. -/
def textTokens (s : List Char) : List Token :=
  match splitAll (· == '\x00') s with
  | [] => []
  | first :: rest => .text first :: rest.flatMap fun run => [.null, .text run]

/-- The content of a section of character data and the text after it. -/
def dataSection : List Char → List Char × List Char
  | [] => ([], [])
  | ']' :: ']' :: '>' :: rest => ([], rest)
  | c :: rest => let (content, rest) := dataSection rest; (c :: content, rest)

/-- Reads what follows `<!`; sections of character data exist in foreign elements alone. -/
def readDeclaration (inForeign : Bool) (s : List Char) : List Token × List Char :=
  match after? "--".toList s with
  | some rest => let (content, rest) := readComment rest; ([.comment content], rest)
  | none =>
    match afterAnyCase? "doctype".toList s with
    | some rest => let (d, rest) := readDoctype rest; ([.doctype d], rest)
    | none =>
      match if inForeign then after? "[CDATA[".toList s else none with
      | some rest => let (content, rest) := dataSection rest; (textTokens content, rest)
      | none => let (content, rest) := readToClose s; ([.comment (content.map showNull)], rest)

/-- Reads what follows `</`. -/
def readEndTag (s : List Char) : List Token × List Char :=
  match s with
  | [] => ([.text ['<', '/']], [])
  | '>' :: rest => ([], rest)
  | c :: rest =>
    if isAsciiLetter c then
      match readTag (c :: rest) with
      | none => ([], [])
      | some (t, rest) => ([.endTag t], rest)
    else let (content, rest) := readToClose (c :: rest); ([.comment (content.map showNull)], rest)

/-- Reads at least one character of markup. -/
def readMarkup (inForeign : Bool) (s : List Char) : List Token × List Char :=
  match s with
  | '<' :: '!' :: rest => readDeclaration inForeign rest
  | '<' :: '/' :: rest => readEndTag rest
  | '<' :: '?' :: rest =>
    let (content, rest) := readToClose ('?' :: rest)
    ([.comment (content.map showNull)], rest)
  | '<' :: c :: rest =>
    if isAsciiLetter c then
      match readTag (c :: rest) with
      | none => ([], [])
      | some (t, rest) => ([.startTag t], rest)
    else ([.text ['<']], c :: rest)
  | '<' :: [] => ([.text ['<']], [])
  | '\x00' :: rest => ([.null], rest)
  | s =>
    let run := s.takeWhile fun c => c != '<' && c != '\x00'
    ([.text (decodeReferences false run)], s.drop run.length)

/-- True if an end tag of this name stands at the head of the text. -/
def isEndOf (name : List Char) (s : List Char) : Bool :=
  match afterAnyCase? ('<' :: '/' :: name) s with
  | some (c :: _) => isHtmlSpace c || c == '/' || c == '>'
  | _ => false

/-- The text in front of the end tag of this name, or all text. -/
def textBeforeEnd (name : List Char) : List Char → List Char × List Char
  | [] => ([], [])
  | c :: s =>
    if isEndOf name (c :: s) then ([], c :: s)
    else let (text, rest) := textBeforeEnd name s; (showNull c :: text, rest)

/-- How a script's text is being read: plainly, inside `<!--`, or inside a script in it. -/
inductive ScriptNesting where
  | plain
  | inComment
  | inScript
deriving DecidableEq

/-- The nesting after one character of a script, and the dashes counted in front of the next. -/
def scriptStep (nesting : ScriptNesting) (dashes : Nat) (s : List Char) : ScriptNesting × Nat :=
  let opens := isEndOf "script".toList ('<' :: '/' :: s.drop 1)
  match nesting, s with
  | .plain, '<' :: '!' :: '-' :: '-' :: _ => (.inComment, 0)
  | .plain, _ => (.plain, 0)
  | nesting, '-' :: _ => (nesting, dashes + 1)
  | nesting, '>' :: _ => if 2 ≤ dashes then (.plain, 0) else (nesting, 0)
  | .inComment, '<' :: _ => (if opens then .inScript else .inComment, 0)
  | .inScript, '<' :: _ => (if isEndOf "script".toList s then .inComment else .inScript, 0)
  | nesting, _ => (nesting, 0)

/-- A script's text up to its end tag, which a script inside a comment hides. -/
def scriptText (nesting : ScriptNesting) (dashes : Nat) : List Char → List Char × List Char
  | [] => ([], [])
  | c :: s =>
    if nesting ≠ .inScript && isEndOf "script".toList (c :: s) then ([], c :: s)
    else
      let (nesting, dashes) := scriptStep nesting dashes (c :: s)
      let (text, rest) := scriptText nesting dashes s
      (showNull c :: text, rest)

/-- Tokens of a text that has been read and of the end tag after it. -/
def endRaw (text : List Char × List Char) : List Token × List Char :=
  match text.2 with
  | [] => ([.text text.1], [])
  | rest =>
    let (tag, rest) := readEndTag (rest.drop 2)
    (.text text.1 :: tag, rest)

/-- Reads at least one character of a text that is not empty. -/
def readTokens (lexing : Lexing) (inForeign : Bool) (s : List Char) : List Token × List Char :=
  match lexing with
  | .markup => readMarkup inForeign s
  | .escapable name =>
    let (text, rest) := textBeforeEnd name.toList s
    endRaw (decodeReferences false text, rest)
  | .raw name => endRaw (textBeforeEnd name.toList s)
  | .script => endRaw (scriptText .plain 0 s)
  | .plaintext => ([.text (s.map showNull)], [])

end Archiver
