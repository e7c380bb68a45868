import Archiver.Text.Blank

namespace Archiver

/-- A token of a style sheet's syntax; a number keeps its value only if it is whole. -/
inductive CssToken where
  | ident (name : List Char)
  | function (name : List Char)
  | hash (name : List Char) (isName : Bool)
  | quoted (value : List Char)
  | number (hasSign : Bool) (value : Option Int) (unit : List Char)
  | relation (mark : Char)
  | delim (mark : Char)
  | opening (mark : Char)
  | closing (mark : Char)
  | colon
  | comma
  | blank
  | broken
deriving DecidableEq, Inhabited

def isLineEnd (c : Char) : Bool := c == '\n' || c == '\r' || c == '\x0c'

def isCssBlank (c : Char) : Bool := c == ' ' || c == '\t' || isLineEnd c

def isNameStart (c : Char) : Bool := isAsciiLetter c || c == '_' || c == '\x00' || !isAscii c

def isNameChar (c : Char) : Bool := isNameStart c || isAsciiDigit c || c == '-'

/-- True if a backslash in front of this text escapes something in it. -/
def isEscape (s : List Char) : Bool := !(s.head?.any isLineEnd)

/-- True if a name starts at the head of the text. -/
def startsName (s : List Char) : Bool :=
  match s with
  | [] => false
  | '-' :: '-' :: _ => true
  | '-' :: '\\' :: rest => isEscape rest
  | '-' :: c :: _ => isNameStart c
  | '\\' :: rest => isEscape rest
  | c :: _ => isNameStart c

def dropCssBlank : List Char → List Char
  | '\r' :: '\n' :: rest => rest
  | c :: rest => if isCssBlank c then rest else c :: rest
  | [] => []

/-- The character an escape stands for, after its backslash. -/
def readEscape (s : List Char) : Char × List Char :=
  let digits := (s.take 6).takeWhile isHexDigit
  match digits, s with
  | [], [] => ('\uFFFD', [])
  | [], c :: rest => (if c == '\x00' then '\uFFFD' else c, rest)
  | digits, s =>
    let n := hexNumber digits
    let c := if n = 0 || n > 0x10FFFF || (0xD800 ≤ n && n ≤ 0xDFFF) then '\uFFFD' else Char.ofNat n
    (c, dropCssBlank (s.drop digits.length))

/-- Reads a name; `fuel` bounds its length. -/
def readName : Nat → List Char → List Char × List Char
  | 0, s => ([], s)
  | _ + 1, [] => ([], [])
  | fuel + 1, '\\' :: rest =>
    if isEscape rest then
      let (c, rest) := readEscape rest
      let (name, rest) := readName fuel rest
      (c :: name, rest)
    else ([], '\\' :: rest)
  | fuel + 1, c :: rest =>
    if isNameChar c then
      let (name, rest) := readName fuel rest
      ((if c == '\x00' then '\uFFFD' else c) :: name, rest)
    else ([], c :: rest)

/-- Reads a quoted text after its quote; none if a line ends in it. The end of all closes it. -/
def readCssString (quote : Char) : Nat → List Char → Option (List Char) × List Char
  | 0, s => (some [], s)
  | _ + 1, [] => (some [], [])
  | fuel + 1, '\\' :: rest =>
    match rest with
    | [] => (some [], [])
    | '\r' :: '\n' :: rest => readCssString quote fuel rest
    | c :: tail =>
      if isLineEnd c then readCssString quote fuel tail
      else
        let (c, rest) := readEscape (c :: tail)
        let (value, rest) := readCssString quote fuel rest
        (value.map (c :: ·), rest)
  | fuel + 1, c :: rest =>
    if c == quote then (some [], rest)
    else if isLineEnd c then (none, c :: rest)
    else
      let (value, rest) := readCssString quote fuel rest
      (value.map ((if c == '\x00' then '\uFFFD' else c) :: ·), rest)

def startsDigits (s : List Char) : Bool :=
  match s with
  | '.' :: c :: _ => isAsciiDigit c
  | c :: _ => isAsciiDigit c
  | [] => false

/-- True if a number starts at the head of the text. -/
def startsNumber (s : List Char) : Bool :=
  match s with
  | '+' :: rest => startsDigits rest
  | '-' :: rest => startsDigits rest
  | s => startsDigits s

/-- The text after an exponent, if one stands at its head. -/
def afterExponent? (s : List Char) : Option (List Char) :=
  match s with
  | e :: rest =>
    let digits := match rest with
      | '+' :: rest => rest
      | '-' :: rest => rest
      | rest => rest
    if (e == 'e' || e == 'E') && digits.head?.any isAsciiDigit then
      some (digits.dropWhile isAsciiDigit)
    else none
  | [] => none

/-- Reads a number and the unit that may follow it. -/
def readNumber (s : List Char) : CssToken × List Char :=
  let (hasSign, isNegative, rest) := match s with
    | '+' :: rest => (true, false, rest)
    | '-' :: rest => (true, true, rest)
    | rest => (false, false, rest)
  let digits := rest.takeWhile isAsciiDigit
  let rest := rest.drop digits.length
  let (hasPoint, rest) :=
    if rest.head? == some '.' && (rest.drop 1).head?.any isAsciiDigit then
      (true, (rest.drop 1).dropWhile isAsciiDigit)
    else (false, rest)
  let (hasExponent, rest) := match afterExponent? rest with
    | some rest => (true, rest)
    | none => (false, rest)
  let size : Int := Int.ofNat (decimalValue digits)
  let value := if isNegative then max (-size) (-2147483648) else min size 2147483647
  let value := if hasPoint || hasExponent then none else some value
  if rest.head? == some '%' then (.broken, rest.drop 1)
  else if startsName rest then
    let (unit, rest) := readName rest.length rest
    (.number hasSign value unit, rest)
  else (.number hasSign value [], rest)

def dropComment : List Char → List Char
  | [] => []
  | '*' :: '/' :: rest => rest
  | _ :: rest => dropComment rest

/-- Reads a token that starts with a name. -/
def readNamed (s : List Char) : CssToken × List Char :=
  let (name, rest) := readName s.length s
  match rest with
  | '(' :: rest => (.function name, rest)
  | rest => (.ident name, rest)

/-- Reads a token that starts with a number sign. -/
def readHash (s : List Char) : CssToken × List Char :=
  if startsName s then
    let (name, rest) := readName s.length s
    (.hash name true, rest)
  else if s.head?.any isNameChar then
    let (name, rest) := readName s.length s
    (.hash name false, rest)
  else (.delim '#', s)

/-- Reads the token at the head of a text that is neither blank nor a comment. -/
def readCssToken (c : Char) (s : List Char) : CssToken × List Char :=
  if startsNumber (c :: s) then readNumber (c :: s)
  else if startsName (c :: s) && !startsWith "-->".toList (c :: s) then readNamed (c :: s)
  else if c == '"' || c == '\'' then
    match readCssString c (s.length + 1) s with
    | (some value, rest) => (.quoted value, rest)
    | (none, rest) => (.broken, rest)
  else if c == '#' then readHash s
  else if c == ':' then (.colon, s)
  else if c == ',' then (.comma, s)
  else if ['(', '[', '{'].contains c then (.opening c, s)
  else if [')', ']', '}'].contains c then (.closing c, s)
  else if ['~', '|', '^', '$', '*'].contains c && s.head? == some '=' then (.relation c, s.drop 1)
  else if c == ';' || startsWith "-->".toList (c :: s) || startsWith "<!--".toList (c :: s) then
    (.broken, s)
  else if c == '@' && startsName s then (.broken, (readName s.length s).2)
  else (.delim c, s)

/-- The tokens of a text; `fuel` bounds its length. -/
def cssTokensWithin : Nat → List Char → List CssToken
  | 0, _ => []
  | _ + 1, [] => []
  | fuel + 1, c :: s =>
    if isCssBlank c then .blank :: cssTokensWithin fuel (s.dropWhile isCssBlank)
    else
      match c, s with
      | '/', '*' :: rest => cssTokensWithin fuel (dropComment rest)
      | c, s =>
        let (token, rest) := readCssToken c s
        token :: cssTokensWithin fuel rest

def cssTokens (s : List Char) : List CssToken := cssTokensWithin s.length s

end Archiver
