import Archiver.Digest

namespace Archiver

/-- A JSON value. Numbers keep their text; a string is `none` if one of its escapes is half of a
surrogate pair, so that it stands for no text. -/
inductive JsonValue where
  | null
  | bool (b : Bool)
  | number (text : List Char)
  | string (text : Option (List Char))
  | array (items : List JsonValue)
  | object (members : List (Option (List Char) × JsonValue))

def isJsonBlank (c : Char) : Bool := c == ' ' || c == '\n' || c == '\t' || c == '\r'

def skipJsonBlanks (s : List Char) : List Char := s.dropWhile isJsonBlank

/-- What an escape stands for in a string: a character or a UTF-16 unit. -/
inductive JsonUnit where
  | char (c : Char)
  | unit (n : Nat)

def plainEscape? (c : Char) : Option Char :=
  if c == '"' || c == '\\' || c == '/' then some c
  else if c == 'b' then some '\x08'
  else if c == 'f' then some '\x0c'
  else if c == 'n' then some '\n'
  else if c == 'r' then some '\r'
  else if c == 't' then some '\t'
  else none

/-- Reads the rest of a string after its opening quote. -/
def readJsonUnits : List Char → Option (List JsonUnit × List Char)
  | [] => none
  | '"' :: rest => some ([], rest)
  | '\\' :: 'u' :: a :: b :: c :: d :: rest =>
    if [a, b, c, d].all isHexDigit then
      (readJsonUnits rest).map fun p => (.unit (hexNumber [a, b, c, d]) :: p.1, p.2)
    else none
  | '\\' :: e :: rest =>
    match plainEscape? e with
    | some c => (readJsonUnits rest).map fun p => (.char c :: p.1, p.2)
    | none => none
  | c :: rest =>
    if c.val < 0x20 || c == '\\' then none
    else (readJsonUnits rest).map fun p => (.char c :: p.1, p.2)

def isLeadUnit (n : Nat) : Bool := 0xD800 ≤ n && n < 0xDC00
def isTrailUnit (n : Nat) : Bool := 0xDC00 ≤ n && n < 0xE000

/-- Joins surrogate pairs; half a pair gives no text. -/
def joinUnits : List JsonUnit → Option (List Char)
  | [] => some []
  | .char c :: rest => (joinUnits rest).map (c :: ·)
  | .unit n :: .unit m :: rest =>
    if isLeadUnit n && isTrailUnit m then
      (joinUnits rest).map (Char.ofNat (0x10000 + (n - 0xD800) * 1024 + (m - 0xDC00)) :: ·)
    else if isLeadUnit n || isTrailUnit n then none
    else (joinUnits (.unit m :: rest)).map (Char.ofNat n :: ·)
  | .unit n :: rest =>
    if isLeadUnit n || isTrailUnit n then none
    else (joinUnits rest).map (Char.ofNat n :: ·)

def readJsonString (s : List Char) : Option (Option (List Char) × List Char) :=
  (readJsonUnits s).map fun p => (joinUnits p.1, p.2)

/-- An optional exponent after a number's digits; `none` if it has no digits. -/
def readJsonExponent : List Char → Option (List Char × List Char)
  | [] => some ([], [])
  | c :: s =>
    if c == 'e' || c == 'E' then
      let (sign, digits) := match s with
        | '+' :: r => (['+'], r)
        | '-' :: r => (['-'], r)
        | r => ([], r)
      let run := digits.takeWhile isAsciiDigit
      if run.isEmpty then none else some (c :: sign ++ run, digits.dropWhile isAsciiDigit)
    else some ([], c :: s)

/-- An optional fraction and exponent. -/
def readJsonFraction : List Char → Option (List Char × List Char)
  | '.' :: s =>
    let run := s.takeWhile isAsciiDigit
    if run.isEmpty then none
    else (readJsonExponent (s.dropWhile isAsciiDigit)).map fun p => ('.' :: run ++ p.1, p.2)
  | s => readJsonExponent s

/-- A number without its sign; a whole part has no needless leading zero. -/
def readJsonNumber (s : List Char) : Option (List Char × List Char) :=
  let run := s.takeWhile isAsciiDigit
  match run with
  | [] => none
  | '0' :: _ :: _ => none
  | _ => (readJsonFraction (s.dropWhile isAsciiDigit)).map fun p => (run ++ p.1, p.2)

mutual

def readJsonValue : Nat → List Char → Option (JsonValue × List Char)
  | 0, _ => none
  | fuel + 1, s =>
    match skipJsonBlanks s with
    | [] => none
    | c :: rest =>
      if c == '"' then (readJsonString rest).map fun p => (.string p.1, p.2)
      else if c == '[' then
        match skipJsonBlanks rest with
        | ']' :: after => some (.array [], after)
        | _ => (readJsonItems fuel rest).map fun p => (.array p.1, p.2)
      else if c == '{' then
        match skipJsonBlanks rest with
        | '}' :: after => some (.object [], after)
        | _ => (readJsonMembers fuel rest).map fun p => (.object p.1, p.2)
      else if c == 'n' then (after? "ull".toList rest).map fun r => (.null, r)
      else if c == 't' then (after? "rue".toList rest).map fun r => (.bool true, r)
      else if c == 'f' then (after? "alse".toList rest).map fun r => (.bool false, r)
      else if c == '-' then (readJsonNumber rest).map fun p => (.number ('-' :: p.1), p.2)
      else (readJsonNumber (c :: rest)).map fun p => (.number p.1, p.2)

/-- The items of an array up to its closing bracket, at least one. -/
def readJsonItems : Nat → List Char → Option (List JsonValue × List Char)
  | 0, _ => none
  | fuel + 1, s =>
    match readJsonValue fuel s with
    | none => none
    | some (v, rest) =>
      match skipJsonBlanks rest with
      | ',' :: rest => (readJsonItems fuel rest).map fun p => (v :: p.1, p.2)
      | ']' :: rest => some ([v], rest)
      | _ => none

/-- The members of an object up to its closing brace, at least one. -/
def readJsonMembers :
    Nat → List Char → Option (List (Option (List Char) × JsonValue) × List Char)
  | 0, _ => none
  | fuel + 1, s =>
    match skipJsonBlanks s with
    | '"' :: rest =>
      match readJsonString rest with
      | none => none
      | some (key, rest) =>
        match skipJsonBlanks rest with
        | ':' :: rest =>
          match readJsonValue fuel rest with
          | none => none
          | some (v, rest) =>
            match skipJsonBlanks rest with
            | ',' :: rest => (readJsonMembers fuel rest).map fun p => ((key, v) :: p.1, p.2)
            | '}' :: rest => some ([(key, v)], rest)
            | _ => none
        | _ => none
    | _ => none

end

/-- Reads one JSON value with nothing but blanks around it. -/
def readJson? (s : List Char) : Option JsonValue :=
  match readJsonValue (s.length + 1) s with
  | some (v, rest) => if (skipJsonBlanks rest).isEmpty then some v else none
  | none => none

def escapeJsonChar (c : Char) : List Char :=
  if c == '"' then ['\\', '"']
  else if c == '\\' then ['\\', '\\']
  else if c == '\x08' then ['\\', 'b']
  else if c == '\x0c' then ['\\', 'f']
  else if c == '\n' then ['\\', 'n']
  else if c == '\r' then ['\\', 'r']
  else if c == '\t' then ['\\', 't']
  else if c.val < 0x20 then ['\\', 'u', '0', '0', hexDigit (c.toNat / 16), hexDigit (c.toNat % 16)]
  else [c]

/-- A text between quotes, with quotes, backslashes and control characters below U+0020 escaped. -/
def jsonString (s : List Char) : List Char := '"' :: (s.flatMap escapeJsonChar ++ ['"'])

end Archiver
