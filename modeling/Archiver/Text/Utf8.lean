import Archiver.Text.Blank

namespace Archiver

/-- The character that stands for bytes that encode none. -/
def replacement : Char := '\uFFFD'

def isContinuation (b : UInt8) : Bool := 0x80 ≤ b && b ≤ 0xBF

/-- What one step over bytes finds: a character, or a faulty stretch, and the bytes after it. -/
inductive Utf8Step where
  | char (c : Char) (rest : List UInt8)
  | fault (rest : List UInt8)

/-- Reads the continuation bytes that a lead byte calls for, the first of them between `lo` and
`hi`; a stretch that breaks off is one fault. -/
def utf8Tail (value : Nat) (lo hi : UInt8) : Nat → List UInt8 → Utf8Step
  | 0, rest => .char (Char.ofNat value) rest
  | _ + 1, [] => .fault []
  | n + 1, b :: rest =>
    if lo ≤ b && b ≤ hi then utf8Tail (value * 64 + (b.toNat - 0x80)) 0x80 0xBF n rest
    else .fault (b :: rest)

def utf8Step (b : UInt8) (rest : List UInt8) : Utf8Step :=
  if b < 0x80 then .char (Char.ofNat b.toNat) rest
  else if 0xC2 ≤ b && b ≤ 0xDF then utf8Tail (b.toNat - 0xC0) 0x80 0xBF 1 rest
  else if b == 0xE0 then utf8Tail 0 0xA0 0xBF 2 rest
  else if b == 0xED then utf8Tail 13 0x80 0x9F 2 rest
  else if 0xE1 ≤ b && b ≤ 0xEF then utf8Tail (b.toNat - 0xE0) 0x80 0xBF 2 rest
  else if b == 0xF0 then utf8Tail 0 0x90 0xBF 3 rest
  else if 0xF1 ≤ b && b ≤ 0xF3 then utf8Tail (b.toNat - 0xF0) 0x80 0xBF 3 rest
  else if b == 0xF4 then utf8Tail 4 0x80 0x8F 3 rest
  else .fault rest

def decodeBytes : Nat → List UInt8 → List Char
  | 0, _ => []
  | _ + 1, [] => []
  | fuel + 1, b :: rest =>
    match utf8Step b rest with
    | .char c rest => c :: decodeBytes fuel rest
    | .fault rest => replacement :: decodeBytes fuel rest

/-- Reads UTF-8; every faulty stretch reads as one replacement character. -/
def decodeUtf8 (bytes : List UInt8) : List Char := decodeBytes bytes.length bytes

def decodeStrict : Nat → List UInt8 → Option (List Char)
  | 0, bytes => if bytes.isEmpty then some [] else none
  | _ + 1, [] => some []
  | fuel + 1, b :: rest =>
    match utf8Step b rest with
    | .char c rest => (decodeStrict fuel rest).map (c :: ·)
    | .fault _ => none

/-- Reads UTF-8 that has no faulty stretch. -/
def decodeUtf8? (bytes : List UInt8) : Option (List Char) := decodeStrict bytes.length bytes

/-- The bytes of a character. -/
def encodeChar (c : Char) : List UInt8 :=
  let n := c.toNat
  if n < 0x80 then [n.toUInt8]
  else if n < 0x800 then [(0xC0 + n / 64).toUInt8, (0x80 + n % 64).toUInt8]
  else if n < 0x10000 then
    [(0xE0 + n / 4096).toUInt8, (0x80 + n / 64 % 64).toUInt8, (0x80 + n % 64).toUInt8]
  else
    [(0xF0 + n / 262144).toUInt8, (0x80 + n / 4096 % 64).toUInt8, (0x80 + n / 64 % 64).toUInt8,
      (0x80 + n % 64).toUInt8]

def encodeUtf8 (s : List Char) : List UInt8 := s.flatMap encodeChar

/-- The number of bytes of a character in UTF-8. -/
def charBytes (c : Char) : Nat :=
  if c.toNat < 0x80 then 1 else if c.toNat < 0x800 then 2 else if c.toNat < 0x10000 then 3 else 4

/-- The number of bytes of a text in UTF-8. -/
def utf8Length (s : List Char) : Nat := s.foldl (fun n c => n + charBytes c) 0

end Archiver
