namespace Archiver

/-- The characters with the White_Space property. -/
def isBlank (c : Char) : Bool :=
  (9 ≤ c.val && c.val ≤ 13) || c.val == 0x20 || c.val == 0x85 || c.val == 0xA0 ||
    c.val == 0x1680 || (0x2000 ≤ c.val && c.val ≤ 0x200A) || c.val == 0x2028 ||
    c.val == 0x2029 || c.val == 0x202F || c.val == 0x205F || c.val == 0x3000

/-- The control characters: C0, DEL and C1. -/
def isControl (c : Char) : Bool :=
  c.val ≤ 0x1F || (0x7F ≤ c.val && c.val ≤ 0x9F)

def trimStart (s : List Char) : List Char := s.dropWhile isBlank

def trimEnd (s : List Char) : List Char := (s.reverse.dropWhile isBlank).reverse

def trim (s : List Char) : List Char := trimEnd (trimStart s)

/-- Puts a character in front of the first run of a list of runs. -/
def consFirst (c : Char) : List (List Char) → List (List Char)
  | [] => [[c]]
  | run :: runs => (c :: run) :: runs

/-- The pieces between the characters that `sep` picks, empty ones included. -/
def splitAll (sep : Char → Bool) : List Char → List (List Char)
  | [] => [[]]
  | c :: rest => if sep c then [] :: splitAll sep rest else consFirst c (splitAll sep rest)

/-- The maximal runs of characters that are not blank. -/
def words (s : List Char) : List (List Char) := (splitAll isBlank s).filter (!·.isEmpty)

/-- Blank runs become one space and the ends are bare. -/
def collapseBlanks (s : List Char) : List Char := [' '].intercalate (words s)

def dropLineReturn (line : List Char) : List Char :=
  match line.reverse with
  | '\r' :: rest => rest.reverse
  | _ => line

/-- Every piece but the last ended in a line feed and loses one carriage return before it. -/
def closeLines : List (List Char) → List (List Char)
  | [] => []
  | [last] => if last.isEmpty then [] else [last]
  | line :: rest => dropLineReturn line :: closeLines rest

/-- The lines of a text; a final line end opens no further line. -/
def lines (s : List Char) : List (List Char) := closeLines (splitAll (· == '\n') s)

/-- The text after `head`, if the text starts with it. -/
def after? (head s : List Char) : Option (List Char) :=
  match head, s with
  | [], s => some s
  | _ :: _, [] => none
  | h :: head, c :: s => if h = c then after? head s else none

def startsWith (head s : List Char) : Bool := (after? head s).isSome

def endsWith (tail s : List Char) : Bool := startsWith tail.reverse s.reverse

/-- True if `part` occurs in the text as one piece. -/
def occursIn (part : List Char) : List Char → Bool
  | [] => part.isEmpty
  | c :: s => startsWith part (c :: s) || occursIn part s

/-- Parts a text at the first character that `sep` picks, which neither side keeps. -/
def splitFirst (sep : Char → Bool) : List Char → Option (List Char × List Char)
  | [] => none
  | c :: rest =>
    if sep c then some ([], rest)
    else (splitFirst sep rest).map fun parts => (c :: parts.1, parts.2)

def isAsciiDigit (c : Char) : Bool := 0x30 ≤ c.val && c.val ≤ 0x39

def isAsciiUpper (c : Char) : Bool := 0x41 ≤ c.val && c.val ≤ 0x5A

def isAsciiLower (c : Char) : Bool := 0x61 ≤ c.val && c.val ≤ 0x7A

def isAsciiLetter (c : Char) : Bool := isAsciiUpper c || isAsciiLower c

def isAscii (c : Char) : Bool := c.val < 0x80

/-- The value of a hexadecimal digit of either case. -/
def hexValue? (c : Char) : Option Nat :=
  if isAsciiDigit c then some (c.toNat - 48)
  else if 0x61 ≤ c.val && c.val ≤ 0x66 then some (c.toNat - 87)
  else if 0x41 ≤ c.val && c.val ≤ 0x46 then some (c.toNat - 55)
  else none

def isHexDigit (c : Char) : Bool := (hexValue? c).isSome

/-- Lower case for the letters A to Z alone. -/
def asciiLower (c : Char) : Char :=
  if isAsciiUpper c then Char.ofNat (c.toNat + 32) else c

def asciiUpper (c : Char) : Char :=
  if isAsciiLower c then Char.ofNat (c.toNat - 32) else c

/-- The number a run of decimal digits writes; the caller has checked the digits. -/
def decimalValue (digits : List Char) : Nat :=
  digits.foldl (fun n c => n * 10 + (c.toNat - 48)) 0

/-- The number a run of hexadecimal digits writes. -/
def hexNumber (digits : List Char) : Nat :=
  digits.foldl (fun n c => n * 16 + (hexValue? c).getD 0) 0

/-- Replaces every occurrence of `part`, from the left; `part` is not empty. -/
def replaceAll (part new : List Char) : Nat → List Char → List Char
  | 0, s => s
  | _ + 1, [] => []
  | fuel + 1, c :: s =>
    match after? part (c :: s) with
    | some rest => new ++ replaceAll part new fuel rest
    | none => c :: replaceAll part new fuel s

/-- Replaces every occurrence of `part`, from the left. -/
def replace (part new s : List Char) : List Char := replaceAll part new s.length s

end Archiver
