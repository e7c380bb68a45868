import Archiver.Digest

namespace Archiver

/-- What a dotted part says: no number, a number beyond 32 bits, or a number. -/
inductive AddressPart where
  | word
  | tooLarge
  | value (n : Nat)
deriving DecidableEq

/-- Reads a decimal number, an octal one after `0` or a hexadecimal one after `0x`. -/
def AddressPart.read (s : List Char) : AddressPart :=
  let bounded := fun (n : Nat) => if n < 4294967296 then value n else tooLarge
  let hex := fun (digits : List Char) =>
    if digits.all isHexDigit then bounded (hexNumber digits) else word
  match s with
  | [] => word
  | '0' :: 'x' :: digits => hex digits
  | '0' :: 'X' :: digits => hex digits
  | '0' :: d :: digits =>
    if (d :: digits).all fun c => 0x30 ≤ c.val && c.val ≤ 0x37 then
      bounded ((d :: digits).foldl (fun n c => n * 8 + (c.toNat - 48)) 0)
    else word
  | digits => if digits.all isAsciiDigit then bounded (decimalValue digits) else word

/-- The dotted parts of a host name, without the empty one after a final dot. -/
def dottedParts (s : List Char) : List (List Char) :=
  let parts := splitAll (· == '.') s
  match parts.reverse with
  | [] :: _ :: _ => parts.dropLast
  | _ => parts

/-- True if the last dotted part is a number, so that the host must be an IPv4 address. -/
def endsInNumber (s : List Char) : Bool :=
  match (dottedParts s).getLast? with
  | none => false
  | some part =>
    !part.isEmpty && (part.all isAsciiDigit || AddressPart.read part != AddressPart.word)

def AddressPart.value? : AddressPart → Option Nat
  | .value n => some n
  | _ => none

/-- Reads one to four numbers; the last fills all the bytes that the others leave. -/
def readIpv4? (s : List Char) : Option Nat := do
  let parts := dottedParts s
  if 4 < parts.length then none
  else
    let numbers ← parts.mapM fun p => (AddressPart.read p).value?
    match numbers.reverse with
    | [] => none
    | last :: front =>
      let front := front.reverse
      if front.any (255 < ·) || Nat.pow 256 (4 - front.length) ≤ last then none
      else
        some (last +
          (front.zipIdx.foldl (fun n (p : Nat × Nat) => n + p.1 * Nat.pow 256 (3 - p.2)) 0))

def ipv4Text (address : Nat) : List Char :=
  let byte := fun (k : Nat) => (address / Nat.pow 256 k % 256).repr.toList
  byte 3 ++ '.' :: (byte 2 ++ '.' :: (byte 1 ++ '.' :: byte 0))

/-- Reads the four dotted bytes at the end of an IPv6 address. -/
def readTailBytes : Nat → List Char → Option (List Nat)
  | 0, s => if s.isEmpty then some [] else none
  | n + 1, s =>
    let digits := s.takeWhile isAsciiDigit
    let rest := s.dropWhile isAsciiDigit
    if digits.isEmpty || 255 < decimalValue digits || (1 < digits.length && digits.head? == some '0')
    then none
    else
      let rest := if n == 0 then some rest else match rest with
        | '.' :: r => some r
        | _ => none
      rest.bind fun r => (readTailBytes n r).map (decimalValue digits :: ·)

/-- Reads the pieces of an IPv6 address; `gap` is the place where zeros were left out. -/
def readIpv6Pieces : Nat → List Char → List Nat → Option Nat → Option (List Nat × Option Nat)
  | 0, _, _, _ => none
  | _ + 1, [], pieces, gap => some (pieces, gap)
  | fuel + 1, c :: rest, pieces, gap =>
    if 8 ≤ pieces.length then none
    else if c == ':' then
      match gap with
      | some _ => none
      | none => readIpv6Pieces fuel rest (pieces ++ [0]) (some (pieces.length + 1))
    else
      let s := c :: rest
      let digits := (s.take 4).takeWhile isHexDigit
      let value := hexNumber digits
      match s.drop digits.length with
      | [] => some (pieces ++ [value], gap)
      | '.' :: _ =>
        if digits.isEmpty || 6 < pieces.length then none
        else match readTailBytes 4 s with
          | some [a, b, c, d] => some (pieces ++ [a * 256 + b, c * 256 + d], gap)
          | _ => none
      | ':' :: rest =>
        if rest.isEmpty then none else readIpv6Pieces fuel rest (pieces ++ [value]) gap
      | _ => none

/-- Reads the text between the brackets of an IPv6 host as eight pieces. -/
def readIpv6? (s : List Char) : Option (List Nat) :=
  let start : Option (List Char × List Nat × Option Nat) := match s with
    | [] => none
    | [_] => none
    | ':' :: ':' :: rest => some (rest, [0], some 1)
    | ':' :: _ => none
    | _ => some (s, [], none)
  match start with
  | none => none
  | some (s, pieces, gap) =>
    match readIpv6Pieces (s.length + 1) s pieces gap with
    | none => none
    | some (pieces, some gap) =>
      some (pieces.take gap ++ List.replicate (8 - pieces.length) 0 ++ pieces.drop gap)
    | some (pieces, none) => if pieces.length == 8 then some pieces else none

/-- The start and length of the first of the longest runs of two or more zeros. -/
def longestZeros (pieces : List Nat) : Option (Nat × Nat) :=
  let runAt := fun (i : Nat) => ((pieces.drop i).takeWhile (· == 0)).length
  (List.range pieces.length).foldl
    (fun best i =>
      let n := runAt i
      match best with
      | some (_, m) => if m < n then some (i, n) else best
      | none => if 2 ≤ n then some (i, n) else none)
    none

def hexNatText (n : Nat) : List Char := Nat.toDigits 16 n

def ipv6Text (pieces : List Nat) : List Char :=
  let join := fun (ps : List Nat) => [':'].intercalate (ps.map hexNatText)
  match longestZeros pieces with
  | none => join pieces
  | some (i, n) => join (pieces.take i) ++ ':' :: ':' :: join (pieces.drop (i + n))

end Archiver
