import Archiver.Text.Blank

namespace Archiver

/-- The digits 0 to 35 as `a` to `z` and `0` to `9`. -/
def punycodeDigit (d : Nat) : Char := Char.ofNat (if d < 26 then 97 + d else 22 + d)

def punycodeValue? (c : Char) : Option Nat :=
  if isAsciiDigit c then some (c.toNat - 22)
  else if isAsciiLower c then some (c.toNat - 97)
  else if isAsciiUpper c then some (c.toNat - 65)
  else none

/-- Divides a delta down; the result counts the digits that are not the last. -/
def adaptSteps : Nat → Nat → Nat → Nat
  | 0, delta, k => k + 36 * delta / (delta + 38)
  | fuel + 1, delta, k =>
    if 455 < delta then adaptSteps fuel (delta / 35) (k + 36) else k + 36 * delta / (delta + 38)

/-- The next bias after a delta, for a text that then has `count` characters. -/
def adaptBias (delta count : Nat) (first : Bool) : Nat :=
  let delta := if first then delta / 700 else delta / 2
  adaptSteps 16 (delta + delta / count) 0

/-- The threshold of the digit at place `k`. -/
def threshold (k bias : Nat) : Nat :=
  if k ≤ bias then 1 else if bias + 26 ≤ k then 26 else k - bias

/-- Writes a delta in digits of varying base. -/
def deltaDigits : Nat → Nat → Nat → Nat → List Char
  | 0, _, _, _ => []
  | fuel + 1, q, k, bias =>
    let t := threshold k bias
    if q < t then [punycodeDigit q]
    else
      punycodeDigit (t + (q - t) % (36 - t)) :: deltaDigits fuel ((q - t) / (36 - t)) (k + 36) bias

/-- What the encoder has reached: the next code point, the delta, the bias and the count of
characters written. -/
structure PunycodeState where
  next : Nat
  delta : Nat
  bias : Nat
  count : Nat

/-- Writes the characters equal to `next` and counts the smaller ones. -/
def encodePass (basic : Nat) : List Char → PunycodeState → List Char × PunycodeState
  | [], st => ([], st)
  | c :: rest, st =>
    if c.toNat < st.next then encodePass basic rest { st with delta := st.delta + 1 }
    else if c.toNat == st.next then
      let bias := adaptBias st.delta (st.count + 1) (st.count == basic)
      let (out, st') := encodePass basic rest ⟨st.next, 0, bias, st.count + 1⟩
      (deltaDigits 64 st.delta 36 st.bias ++ out, st')
    else encodePass basic rest st

def encodePasses (s : List Char) (basic : Nat) : Nat → PunycodeState → List Char
  | 0, _ => []
  | fuel + 1, st =>
    match (s.map Char.toNat).filter (st.next ≤ ·) with
    | [] => []
    | n :: ns =>
      let m := ns.foldl min n
      let delta := st.delta + (m - st.next) * (st.count + 1)
      let (out, st') := encodePass basic s ⟨m, delta, st.bias, st.count⟩
      out ++ encodePasses s basic fuel ⟨st'.next + 1, st'.delta + 1, st'.bias, st'.count⟩

/-- The ASCII form of a label: its ASCII characters, a hyphen if there are any, then the others. -/
def punycodeEncode (s : List Char) : List Char :=
  let basic := s.filter isAscii
  (if basic.isEmpty then [] else basic ++ ['-']) ++
    encodePasses s basic.length (s.length + 1) ⟨128, 0, 72, basic.length⟩

/-- Reads one delta and the text after it. -/
def readDelta : Nat → List Char → Nat → Nat → Nat → Nat → Option (Nat × List Char)
  | 0, _, _, _, _, _ => none
  | _ + 1, [], _, _, _, _ => none
  | fuel + 1, c :: rest, i, w, k, bias =>
    match punycodeValue? c with
    | none => none
    | some d =>
      let i := i + d * w
      let t := threshold k bias
      if 4294967295 < i then none
      else if d < t then some (i, rest)
      else if 4294967295 < w * (36 - t) then none
      else readDelta fuel rest i (w * (36 - t)) (k + 36) bias

def decodePunycodeFrom : Nat → List Char → List Char → Nat → Nat → Nat → Bool → Option (List Char)
  | 0, _, _, _, _, _, _ => none
  | fuel + 1, s, out, n, i, bias, first =>
    if s.isEmpty then some out
    else
      match readDelta 64 s i 1 36 bias with
      | none => none
      | some (i', rest) =>
        let count := out.length + 1
        let n := n + i' / count
        if 0x10FFFF < n || (0xD800 ≤ n && n < 0xE000) then none
        else
          let place := i' % count
          decodePunycodeFrom fuel rest (out.take place ++ Char.ofNat n :: out.drop place) n
            (place + 1) (adaptBias (i' - i) count first) false

/-- The label that an ASCII form stands for; a hyphen at its very beginning parts nothing. -/
def punycodeDecode? (s : List Char) : Option (List Char) :=
  let tail := s.reverse.takeWhile (· != '-')
  let (basic, digits) :=
    if tail.length + 1 < s.length then (s.take (s.length - tail.length - 1), tail.reverse)
    else ([], s)
  if basic.all isAscii then decodePunycodeFrom (s.length + 1) digits basic 128 0 72 true else none

end Archiver
