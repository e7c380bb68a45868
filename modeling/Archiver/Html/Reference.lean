import Archiver.Html.Names

namespace Archiver

/-- What the numbers 80 to 9F stand for where they differ from the code points. -/
def windowsCodes : List (Nat × Nat) :=
  [(0x80, 0x20AC), (0x82, 0x201A), (0x83, 0x0192), (0x84, 0x201E), (0x85, 0x2026), (0x86, 0x2020),
    (0x87, 0x2021), (0x88, 0x02C6), (0x89, 0x2030), (0x8A, 0x0160), (0x8B, 0x2039), (0x8C, 0x0152),
    (0x8E, 0x017D), (0x91, 0x2018), (0x92, 0x2019), (0x93, 0x201C), (0x94, 0x201D), (0x95, 0x2022),
    (0x96, 0x2013), (0x97, 0x2014), (0x98, 0x02DC), (0x99, 0x2122), (0x9A, 0x0161), (0x9B, 0x203A),
    (0x9C, 0x0153), (0x9E, 0x017E), (0x9F, 0x0178)]

/-- The character a numeric reference stands for. -/
def numericCharacter (n : Nat) : Char :=
  if n = 0 || n > 0x10FFFF || (0xD800 ≤ n && n ≤ 0xDFFF) then '\uFFFD'
  else Char.ofNat ((windowsCodes.lookup n).getD n)

def dropSemicolon : List Char → List Char
  | ';' :: rest => rest
  | s => s

/-- Reads a numeric reference after its ampersand and number sign. -/
def numericReference? (s : List Char) : Option (Char × List Char) :=
  match s with
  | x :: rest =>
    if x == 'x' || x == 'X' then
      let digits := rest.takeWhile isHexDigit
      if digits.isEmpty then none
      else some (numericCharacter (hexNumber digits), dropSemicolon (rest.drop digits.length))
    else
      let digits := s.takeWhile isAsciiDigit
      if digits.isEmpty then none
      else some (numericCharacter (decimalValue digits), dropSemicolon (s.drop digits.length))
  | [] => none

def isAsciiAlphanumeric (c : Char) : Bool := isAsciiLetter c || isAsciiDigit c

/-- The longest known name of at most `length` characters at the head of the text. -/
def longestName? (s : List Char) : Nat → Option (List Nat × List Char)
  | 0 => none
  | length + 1 =>
    match namedReferences.find? (s.take (length + 1)) with
    | some text => some (text, s.drop (length + 1))
    | none => longestName? s length

/-- Reads a named reference after its ampersand. Inside an attribute a name without a semicolon
does not count in front of a letter, a digit or an equals sign. -/
def namedReference? (inAttribute : Bool) (s : List Char) : Option (List Nat × List Char) :=
  let run := s.takeWhile isAsciiAlphanumeric
  let whole :=
    if (s.drop run.length).head? == some ';' then namedReferences.find? (run ++ [';']) else none
  match whole with
  | some text => some (text, s.drop (run.length + 1))
  | none =>
    match longestName? run (min run.length 6) with
    | none => none
    | some (text, left) =>
      let rest := s.drop (run.length - left.length)
      if inAttribute && (rest.head?.any fun c => c == '=' || isAsciiAlphanumeric c) then none
      else some (text, rest)

/-- The text with its character references replaced; `fuel` bounds its length. -/
def decodeReferencesWithin (inAttribute : Bool) : Nat → List Char → List Char
  | 0, _ => []
  | _ + 1, [] => []
  | fuel + 1, '&' :: '#' :: rest =>
    match numericReference? rest with
    | some (c, rest) => c :: decodeReferencesWithin inAttribute fuel rest
    | none => '&' :: '#' :: decodeReferencesWithin inAttribute fuel rest
  | fuel + 1, '&' :: rest =>
    match namedReference? inAttribute rest with
    | some (text, rest) => text.map Char.ofNat ++ decodeReferencesWithin inAttribute fuel rest
    | none => '&' :: decodeReferencesWithin inAttribute fuel rest
  | fuel + 1, c :: rest => c :: decodeReferencesWithin inAttribute fuel rest

def decodeReferences (inAttribute : Bool) (s : List Char) : List Char :=
  decodeReferencesWithin inAttribute s.length s

end Archiver
