import Archiver.Digest

namespace Archiver

def upperHexDigit (n : Nat) : Char := Char.ofNat (if n < 10 then 48 + n else 55 + n)

def percentByte (b : UInt8) : List Char :=
  ['%', upperHexDigit (b.toNat / 16), upperHexDigit (b.toNat % 16)]

/-- Writes the bytes of every character that `keep` does not pick as percent escapes. -/
def percentEncode (keep : Char → Bool) (s : List Char) : List Char :=
  s.flatMap fun c => if keep c then [c] else (encodeChar c).flatMap percentByte

/-- The bytes of a text in which each `%` before two hexadecimal digits stands for one byte. -/
def percentDecode : List Char → List UInt8
  | '%' :: a :: b :: rest =>
    match hexValue? a, hexValue? b with
    | some h, some l => (16 * h + l).toUInt8 :: percentDecode rest
    | _, _ => encodeChar '%' ++ percentDecode (a :: b :: rest)
  | c :: rest => encodeChar c ++ percentDecode rest
  | [] => []

/-- ASCII without control characters. -/
def isPlainAscii (c : Char) : Bool := 0x20 ≤ c.val && c.val < 0x7F

def staysInFragment (c : Char) : Bool :=
  isPlainAscii c && c != ' ' && c != '"' && c != '<' && c != '>' && c != Char.ofNat 0x60

def staysInPath (c : Char) : Bool :=
  staysInFragment c && c != '#' && c != '?' && c != '\x7b' && c != '\x7d'

def staysInUserinfo (c : Char) : Bool :=
  staysInPath c && !(['/', ':', ';', '=', '@', '[', '\\', ']', '^', '|'].contains c)

def staysInQuery (isSpecial : Bool) (c : Char) : Bool :=
  isPlainAscii c && c != ' ' && c != '"' && c != '#' && c != '<' && c != '>' &&
    !(isSpecial && c == '\'')

end Archiver
