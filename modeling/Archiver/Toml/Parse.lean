import Archiver.Toml.Value
import Archiver.Decimal

namespace Archiver

namespace Toml

def isTomlBlank (c : Char) : Bool := c == ' ' || c == '\t'

def skipTomlBlanks (s : List Char) : List Char := s.dropWhile isTomlBlank

/-- A character that may stand in a comment or, quotes and backslashes aside, in a string. -/
def isTomlText (c : Char) : Bool := c == '\t' || (' ' ≤ c && c ≤ '~') || !isAscii c

def isBareKey (c : Char) : Bool := isAsciiLetter c || isAsciiDigit c || c == '-' || c == '_'

/-- The text after a line end. -/
def afterLineEnd? : List Char → Option (List Char)
  | '\n' :: rest => some rest
  | '\r' :: '\n' :: rest => some rest
  | _ => none

def skipComment (s : List Char) : List Char :=
  match s with
  | '#' :: rest => rest.dropWhile isTomlText
  | s => s

/-- Drops blanks, comments and line ends; `fuel` bounds their length. -/
def skipLines : Nat → List Char → List Char
  | 0, s => s
  | fuel + 1, s =>
    let s := skipComment (skipTomlBlanks s)
    match afterLineEnd? s with
    | some rest => skipLines fuel rest
    | none => s

def codeEscape? (count : Nat) (s : List Char) : Option (Char × List Char) :=
  let digits := s.take count
  let n := hexNumber digits
  if digits.length == count && digits.all isHexDigit && n ≤ 0x10FFFF && !(0xD800 ≤ n && n ≤ 0xDFFF) then
    some (Char.ofNat n, s.drop count)
  else none

/-- Reads an escape after its backslash. -/
def readTomlEscape (s : List Char) : Option (Char × List Char) :=
  match s with
  | 'b' :: rest => some ('\x08', rest)
  | 't' :: rest => some ('\t', rest)
  | 'n' :: rest => some ('\n', rest)
  | 'f' :: rest => some ('\x0c', rest)
  | 'r' :: rest => some ('\r', rest)
  | '"' :: rest => some ('"', rest)
  | '\\' :: rest => some ('\\', rest)
  | 'u' :: rest => codeEscape? 4 rest
  | 'U' :: rest => codeEscape? 8 rest
  | _ => none

/-- Reads a string in single quotation marks of either kind after the first. -/
def readLineString (quote : Char) : Nat → List Char → Option (List Char × List Char)
  | 0, _ => none
  | _ + 1, [] => none
  | fuel + 1, c :: rest =>
    if c == quote then some ([], rest)
    else if c == '\\' && quote == '"' then
      match readTomlEscape rest with
      | some (c, rest) => (readLineString quote fuel rest).map fun r => (c :: r.1, r.2)
      | none => none
    else if isTomlText c then (readLineString quote fuel rest).map fun r => (c :: r.1, r.2)
    else none

/-- Drops blanks and line ends. -/
def skipBlankLines : List Char → List Char
  | '\r' :: '\n' :: rest => skipBlankLines rest
  | c :: rest => if isTomlBlank c || c == '\n' then skipBlankLines rest else c :: rest
  | [] => []

/-- The text after a backslash that joins its line to the next text. -/
def afterJoin? (s : List Char) : Option (List Char) :=
  (afterLineEnd? (skipTomlBlanks s)).map skipBlankLines

/-- Reads a string over several lines after its opening marks. Up to two marks of the kind that
closes it may stand in it anywhere, also in front of those. -/
def readBlockString (quote : Char) : Nat → List Char → Option (List Char × List Char)
  | 0, _ => none
  | fuel + 1, s =>
    match afterLineEnd? s with
    | some rest => (readBlockString quote fuel rest).map fun r => ('\n' :: r.1, r.2)
    | none =>
      match s with
      | [] => none
      | c :: rest =>
        if c == quote then
          let run := s.takeWhile (· == quote)
          if run.length < 3 then
            (readBlockString quote fuel (s.drop run.length)).map fun r => (run ++ r.1, r.2)
          else if run.length ≤ 5 then some (run.drop 3, s.drop run.length)
          else some (run.take 2, s.drop 5)
        else if c == '\\' && quote == '"' then
          match afterJoin? rest with
          | some rest => readBlockString quote fuel rest
          | none =>
            match readTomlEscape rest with
            | some (c, rest) => (readBlockString quote fuel rest).map fun r => (c :: r.1, r.2)
            | none => none
        else if isTomlText c then (readBlockString quote fuel rest).map fun r => (c :: r.1, r.2)
        else none

/-- A line end right after the opening marks does not count. -/
def dropFirstLineEnd (s : List Char) : List Char := (afterLineEnd? s).getD s

/-- Reads a string of any of the four kinds. -/
def readString (s : List Char) : Option (List Char × List Char) :=
  match s with
  | '"' :: '"' :: '"' :: rest => readBlockString '"' (rest.length + 1) (dropFirstLineEnd rest)
  | '\'' :: '\'' :: '\'' :: rest => readBlockString '\'' (rest.length + 1) (dropFirstLineEnd rest)
  | '"' :: rest => readLineString '"' (rest.length + 1) rest
  | '\'' :: rest => readLineString '\'' (rest.length + 1) rest
  | _ => none

/-- Reads one part of a key. -/
def readKeyPart (s : List Char) : Option (List Char × List Char) :=
  match s with
  | '"' :: rest => readLineString '"' (rest.length + 1) rest
  | '\'' :: rest => readLineString '\'' (rest.length + 1) rest
  | s =>
    let key := s.takeWhile isBareKey
    if key.isEmpty then none else some (key, s.drop key.length)

/-- Reads a key with its dots, blanks around each part allowed. -/
def readKey : Nat → List Char → Option (List (List Char) × List Char)
  | 0, _ => none
  | fuel + 1, s =>
    match readKeyPart (skipTomlBlanks s) with
    | none => none
    | some (part, rest) =>
      match skipTomlBlanks rest with
      | '.' :: rest => (readKey fuel rest).map fun r => (part :: r.1, r.2)
      | rest => some ([part], rest)

/-- A key has fewer than 80 parts, and values nest less than 80 deep. -/
def depthLimit : Nat := 80

def readWholeKey (s : List Char) : Option (List (List Char) × List Char) :=
  match readKey (s.length + 1) s with
  | some (keys, rest) => if keys.length < depthLimit then some (keys, rest) else none
  | none => none

/-- Reads digits of a kind, with single underscores between them. -/
def readDigitRun (isDigit : Char → Bool) (s : List Char) : Option (List Char × List Char) :=
  let run := s.takeWhile fun c => isDigit c || c == '_'
  let parts := splitAll (· == '_') run
  if parts.any List.isEmpty then none else some (parts.flatten, s.drop run.length)

/-- Digits without a zero in front, zero itself aside. -/
def readWholePart (s : List Char) : Option (List Char × List Char) :=
  match s with
  | '0' :: rest => some (['0'], rest)
  | s => readDigitRun isAsciiDigit s

def readSign (s : List Char) : Bool × List Char :=
  match s with
  | '+' :: rest => (false, rest)
  | '-' :: rest => (true, rest)
  | s => (false, s)

def integerOf? (isNegative : Bool) (n : Nat) : Option Toml :=
  if isNegative then if n ≤ 9223372036854775808 then some (.integer (-Int.ofNat n)) else none
  else if n ≤ 9223372036854775807 then some (.integer (Int.ofNat n)) else none

def radixValue (radix : Nat) (digits : List Char) : Nat :=
  digits.foldl (fun n c => n * radix + (hexValue? c).getD 0) 0

/-- Reads digits in another base after its mark. -/
def readRadix (radix : Nat) (s : List Char) : Option (Toml × List Char) :=
  let isDigit := fun c => (hexValue? c).any (· < radix)
  match readDigitRun isDigit s with
  | none => none
  | some (digits, rest) => (integerOf? false (radixValue radix digits)).map fun v => (v, rest)

def readTomlFraction (s : List Char) : Option (List Char × List Char) :=
  match s with
  | '.' :: rest => readDigitRun isAsciiDigit rest
  | s => some ([], s)

/-- Reads an exponent with its sign. -/
def readTomlExponent (s : List Char) : Option (Option Int × List Char) :=
  match s with
  | e :: rest =>
    if e == 'e' || e == 'E' then
      let (isNegative, rest) := readSign rest
      match readDigitRun isAsciiDigit rest with
      | none => none
      | some (digits, rest) =>
        let size := Int.ofNat (decimalValue digits)
        some (some (if isNegative then -size else size), rest)
    else some (none, s)
  | [] => some (none, [])

/-- A float too large to be one is refused, unless it is negative. -/
def floatOf? (isNegative : Bool) (whole fraction : List Char) (exponent : Int) : Option Toml :=
  let size := floatOfDecimal (whole ++ fraction) (exponent - Int.ofNat fraction.length)
  if isNegative then some (.float (-size))
  else if size.isInf then none
  else some (.float size)

/-- Reads an integer or a float in decimal digits. -/
def readDecimal (s : List Char) : Option (Toml × List Char) :=
  let (isNegative, rest) := readSign s
  match readWholePart rest with
  | none => none
  | some (whole, rest) =>
    match readTomlFraction rest with
    | none => none
    | some (fraction, afterFraction) =>
      match readTomlExponent afterFraction with
      | none => none
      | some (exponent, afterExponent) =>
        if fraction.isEmpty && exponent.isNone then
          (integerOf? isNegative (decimalValue whole)).map fun v => (v, afterExponent)
        else
          (floatOf? isNegative whole fraction (exponent.getD 0)).map fun v => (v, afterExponent)

def readFixedDigits (count low high : Nat) (s : List Char) : Option (Nat × List Char) :=
  let digits := s.take count
  let n := decimalValue digits
  if digits.length == count && digits.all isAsciiDigit && low ≤ n && n ≤ high then
    some (n, s.drop count)
  else none

def readChar (c : Char) (s : List Char) : Option (List Char) := after? [c] s

def monthLength (year month : Nat) : Nat :=
  if month == 2 then
    if year % 4 == 0 && (year % 100 != 0 || year % 400 == 0) then 29 else 28
  else if [4, 6, 9, 11].contains month then 30
  else 31

def readDate (s : List Char) : Option (List Char) := do
  let (year, s) ← readFixedDigits 4 0 9999 s
  let s ← readChar '-' s
  let (month, s) ← readFixedDigits 2 1 12 s
  let s ← readChar '-' s
  let (_, s) ← readFixedDigits 2 1 (monthLength year month) s
  return s

def readTime (s : List Char) : Option (List Char) := do
  let (_, s) ← readFixedDigits 2 0 23 s
  let s ← readChar ':' s
  let (_, s) ← readFixedDigits 2 0 59 s
  let s ← readChar ':' s
  let (_, s) ← readFixedDigits 2 0 60 s
  match s with
  | '.' :: c :: rest => if isAsciiDigit c then return rest.dropWhile isAsciiDigit else return s
  | s => return s

def readZone (s : List Char) : Option (List Char) :=
  match s with
  | 'Z' :: rest => some rest
  | 'z' :: rest => some rest
  | c :: rest =>
    if c == '+' || c == '-' then do
      let (_, s) ← readFixedDigits 2 0 23 rest
      let s ← readChar ':' s
      let (_, s) ← readFixedDigits 2 0 59 s
      return s
    else none
  | [] => none

/-- Reads a date, a time or both. -/
def readMoment (s : List Char) : Option (List Char) :=
  match readDate s with
  | none => readTime s
  | some rest =>
    match rest with
    | c :: after =>
      if c == 'T' || c == 't' || c == ' ' then
        match readTime after with
        | some rest => some ((readZone rest).getD rest)
        | none => some rest
      else some rest
    | [] => some []

def keyword? (s : List Char) : Option (Toml × List Char) :=
  let words : List (String × Toml) :=
    [("true", .boolean true), ("false", .boolean false), ("inf", .float (1.0 / 0.0)),
      ("+inf", .float (1.0 / 0.0)), ("-inf", .float (-1.0 / 0.0)), ("nan", .float (0.0 / 0.0)),
      ("+nan", .float (0.0 / 0.0)), ("-nan", .float (0.0 / 0.0))]
  words.findSome? fun (word, value) => (after? word.toList s).map fun rest => (value, rest)

/-- Reads a value that is neither an array nor a table. -/
def readScalar (s : List Char) : Option (Toml × List Char) :=
  match s with
  | '"' :: _ | '\'' :: _ => (readString s).map fun r => (.text r.1, r.2)
  | '0' :: 'x' :: rest => readRadix 16 rest
  | '0' :: 'o' :: rest => readRadix 8 rest
  | '0' :: 'b' :: rest => readRadix 2 rest
  | s =>
    match keyword? s with
    | some found => some found
    | none =>
      match readMoment s with
      | some rest => some (.moment, rest)
      | none => readDecimal s

mutual

/-- Reads a value; `depth` counts the arrays and tables around it, `fuel` bounds its length. -/
def readValue : Nat → Nat → List Char → Option (Toml × List Char)
  | 0, _, _ => none
  | fuel + 1, depth, s =>
    match s with
    | '[' :: rest => if depth + 1 < depthLimit then readItems fuel (depth + 1) [] rest else none
    | '\x7b' :: rest =>
      if depth + 1 < depthLimit then
        match skipTomlBlanks rest with
        | '\x7d' :: rest => some (.emptyTable .inline, rest)
        | rest => readPairs fuel (depth + 1) (.emptyTable .inline) rest
      else none
    | s => readScalar s

/-- Reads the rest of an array. -/
def readItems : Nat → Nat → List Toml → List Char → Option (Toml × List Char)
  | 0, _, _, _ => none
  | fuel + 1, depth, found, s =>
    match skipLines (s.length + 1) s with
    | ']' :: rest => some (.array found, rest)
    | s =>
      match readValue fuel depth s with
      | none => none
      | some (v, rest) =>
        match skipLines (rest.length + 1) rest with
        | ',' :: rest => readItems fuel depth (found ++ [v]) rest
        | ']' :: rest => some (.array (found ++ [v]), rest)
        | _ => none

/-- Reads the rest of a table in braces, from a key on. -/
def readPairs : Nat → Nat → Toml → List Char → Option (Toml × List Char)
  | 0, _, _, _ => none
  | fuel + 1, depth, t, s =>
    match readWholeKey s with
    | none => none
    | some (keys, rest) =>
      match rest with
      | '=' :: rest =>
        match readValue fuel depth (skipTomlBlanks rest) with
        | none => none
        | some (v, rest) =>
          match assign keys v t, skipTomlBlanks rest with
          | some t, ',' :: rest => readPairs fuel depth t rest
          | some t, '\x7d' :: rest => some (t, rest)
          | _, _ => none
      | _ => none

end

/-- The text behind a line that has nothing more to tell. -/
def endLine (s : List Char) : Option (List Char) :=
  match skipComment (skipTomlBlanks s) with
  | [] => some []
  | s => afterLineEnd? s

/-- Reads a header and opens its table; the result tells which table the next keys belong to. -/
def readHeader (root : Toml) (s : List Char) : Option (Toml × List (List Char) × List Char) :=
  match s with
  | '[' :: rest =>
    match readWholeKey rest with
    | some (keys, ']' :: ']' :: rest) => (alterParent openItem keys root).map fun t => (t, keys, rest)
    | _ => none
  | s =>
    match readWholeKey s with
    | some (keys, ']' :: rest) => (alterParent openTable keys root).map fun t => (t, keys, rest)
    | _ => none

/-- Reads a key with its value into the open table. -/
def readAssignment (root : Toml) (path : List (List Char)) (s : List Char) :
    Option (Toml × List Char) :=
  match readWholeKey s with
  | some (keys, '=' :: rest) =>
    match readValue (rest.length + 1) 0 (skipTomlBlanks rest) with
    | some (v, rest) => (alterOpen (assign keys v) path root).map fun t => (t, rest)
    | none => none
  | _ => none

/-- Reads line after line; `fuel` bounds their number. -/
def readLines : Nat → Toml → List (List Char) → List Char → Option Toml
  | 0, _, _, _ => none
  | fuel + 1, root, path, s =>
    match skipTomlBlanks s with
    | [] => some root
    | '[' :: rest =>
      match readHeader root rest with
      | none => none
      | some (root, path, rest) => (endLine rest).bind fun rest => readLines fuel root path rest
    | c :: rest =>
      if c == '#' || c == '\n' || c == '\r' then
        (endLine (c :: rest)).bind fun rest => readLines fuel root path rest
      else
        match readAssignment root path (c :: rest) with
        | none => none
        | some (root, rest) => (endLine rest).bind fun rest => readLines fuel root path rest

def dropByteOrderMark : List Char → List Char
  | '\uFEFF' :: rest => rest
  | s => s

end Toml

/-- Reads a whole TOML text. -/
def Toml.parse? (s : List Char) : Option Toml :=
  let s := Toml.dropByteOrderMark s
  Toml.readLines (s.length + 1) (.emptyTable .header) [] s

end Archiver
