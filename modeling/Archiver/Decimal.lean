import Archiver.Text.Blank

namespace Archiver

/-- The exact value of a finite float: `mantissa * 2 ^ exponent`, with a sign. -/
structure Dyadic where
  negative : Bool
  mantissa : Nat
  exponent : Int
deriving DecidableEq

/-- The value of a float, unless it is infinite or not a number. -/
def Dyadic.ofFloat? (x : Float) : Option Dyadic :=
  let bits := x.toBits.toNat
  let field := bits / Nat.pow 2 52 % 2048
  let low := bits % Nat.pow 2 52
  if field == 2047 then none
  else if field == 0 then some ⟨bits / Nat.pow 2 63 == 1, low, -1074⟩
  else some ⟨bits / Nat.pow 2 63 == 1, low + Nat.pow 2 52, (field : Int) - 1075⟩

/-- The value without its sign as a quotient. -/
def Dyadic.quotient (d : Dyadic) : Nat × Nat :=
  match d.exponent with
  | .ofNat e => (d.mantissa * Nat.pow 2 e, 1)
  | .negSucc e => (d.mantissa, Nat.pow 2 (e + 1))

/-- The quotient rounded to a whole number; a half goes to the even neighbour. -/
def roundHalfEven (num den : Nat) : Nat :=
  let q := num / den
  let twice := 2 * (num % den)
  if twice < den then q
  else if den < twice then q + 1
  else if q % 2 == 0 then q else q + 1

/-- Digits with the point `places` digits before their end. -/
def placePoint (places : Nat) (digits : List Char) : List Char :=
  let padded := List.replicate (places + 1 - digits.length) '0' ++ digits
  let whole := padded.take (padded.length - places)
  if places == 0 then whole else whole ++ '.' :: padded.drop (padded.length - places)

/-- A float with a fixed number of digits after the point; a half goes to the even neighbour. -/
def fixedText (places : Nat) (x : Float) : List Char :=
  match Dyadic.ofFloat? x with
  | none => if x.isNaN then "NaN".toList else if x < 0 then "-inf".toList else "inf".toList
  | some d =>
    let (num, den) := d.quotient
    let digits := (roundHalfEven (num * Nat.pow 10 places) den).repr.toList
    (if d.negative then ['-'] else []) ++ placePoint places digits

/-- The digits and the number of digits before the point of the shortest decimal that rounds to
the positive value `mantissa * 2 ^ exponent`; of several the nearest, and of two as near the larger. -/
def Dyadic.shortest (d : Dyadic) : List Char × Int :=
  let (num, den) := d.quotient
  -- In units of a quarter of the last mantissa bit the value is `4m` and its neighbours' midpoints
  -- lie at `4m + 2` and at `4m - 2`, or at `4m - 1` below a power of two.
  let unit := if d.mantissa == 0 then 1 else num / d.mantissa
  let up := 2 * unit
  let down := if d.mantissa == Nat.pow 2 52 && d.exponent != -1074 then unit else 2 * unit
  let num := 4 * num
  let den := 4 * den
  let ends := d.mantissa % 2 == 0
  let point : Int :=
    if den ≤ num then ((num / den).repr.length : Int)
    else 1 - ((((den + num - 1) / num).repr.length : Int)) +
      (if Nat.pow 10 ((den + num - 1) / num).repr.length == 10 * ((den + num - 1) / num) then 1 else 0)
  let within := fun (n e : Nat × Nat) =>
    -- `n.1 / n.2` lies in the interval around the value `e.1 / e.2`
    let a := n.1 * e.2
    let b := e.1 * n.2
    if a ≤ b then
      let gap := b - a
      gap < down * n.2 || (ends && gap == down * n.2)
    else
      let gap := a - b
      gap < up * n.2 || (ends && gap == up * n.2)
  let grid := fun (count : Nat) =>
    -- the grid of decimals with `count` digits from the point on: scale `10 ^ (count - point)`
    let shift : Int := (count : Int) - point
    let (top, bottom) := match shift with
      | .ofNat s => (num * Nat.pow 10 s, den)
      | .negSucc s => (num, den * Nat.pow 10 (s + 1))
    let low := top / bottom
    let asValue := fun (k : Nat) => match shift with
      | .ofNat s => (k, Nat.pow 10 s)
      | .negSucc s => (k * Nat.pow 10 (s + 1), 1)
    let lowFits := within (asValue low) (num, den)
    let highFits := within (asValue (low + 1)) (num, den)
    let nearLow := 2 * (top % bottom) < bottom
    if lowFits && (nearLow || !highFits) then some low
    else if highFits then some (low + 1)
    else none
  match (List.range 18).findSome? fun k => (grid (k + 1)).map fun v => (k + 1, v) with
  | none => (['0'], 1)
  | some (count, v) =>
    let digits := v.repr.toList
    let point := if count < digits.length then point + 1 else point
    (((digits.reverse.dropWhile (· == '0')).reverse), point)

/-- The shortest decimal text that reads back as the float, without an exponent. -/
def shortestText (x : Float) : List Char :=
  match Dyadic.ofFloat? x with
  | none => if x.isNaN then "NaN".toList else if x < 0 then "-inf".toList else "inf".toList
  | some d =>
    let sign := if d.negative then ['-'] else []
    if d.mantissa == 0 then sign ++ ['0']
    else
      let (digits, point) := d.shortest
      sign ++ match point with
        | .ofNat p =>
          if p == 0 then '0' :: '.' :: digits
          else if digits.length ≤ p then digits ++ List.replicate (p - digits.length) '0'
          else digits.take p ++ '.' :: digits.drop p
        | .negSucc p => '0' :: '.' :: (List.replicate (p + 1) '0' ++ digits)

/-- The float nearest to `digits * 10 ^ exponent`. -/
def floatOfDecimal (digits : List Char) (exponent : Int) : Float :=
  let digits := digits.dropWhile (· == '0')
  let size : Int := digits.length + exponent
  if digits.isEmpty || size < -400 then 0.0
  else if 400 < size then 1.0 / 0.0
  else match exponent with
    | .ofNat e => Float.ofScientific (decimalValue digits) false e
    | .negSucc e => Float.ofScientific (decimalValue digits) true (e + 1)

/-- Reads digits, a fraction and an exponent, each of the last two optional but not both of the
first two empty. -/
def readUnsignedFloat? (s : List Char) : Option Float :=
  let whole := s.takeWhile isAsciiDigit
  let rest := s.dropWhile isAsciiDigit
  let (fraction, rest) := match rest with
    | '.' :: r => (r.takeWhile isAsciiDigit, r.dropWhile isAsciiDigit)
    | _ => ([], rest)
  if whole.isEmpty && fraction.isEmpty then none
  else
    let scaled := fun (e : Int) => floatOfDecimal (whole ++ fraction) (e - fraction.length)
    match rest with
    | [] => some (scaled 0)
    | c :: r =>
      if c == 'e' || c == 'E' then
        let (negative, digits) := match r with
          | '-' :: d => (true, d)
          | '+' :: d => (false, d)
          | d => (false, d)
        if digits.isEmpty || !digits.all isAsciiDigit then none
        else
          let e : Int := decimalValue digits
          some (scaled (if negative then -e else e))
      else none

/-- Reads a signed float; `inf` and `nan` are read in any letter case. -/
def readFloat? (s : List Char) : Option Float :=
  let (negative, s) := match s with
    | '-' :: r => (true, r)
    | '+' :: r => (false, r)
    | r => (false, r)
  let word := s.map asciiLower
  let value :=
    if word == "inf".toList || word == "infinity".toList then some (1.0 / 0.0)
    else if word == "nan".toList then some (0.0 / 0.0)
    else readUnsignedFloat? s
  value.map fun x => if negative then -x else x

end Archiver
