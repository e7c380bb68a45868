import Archiver.Text.Blank

namespace Archiver

/-- Code points `first` to `last`, all of them or every second one; a code point at distance
`d` from `first` stands for the code point at distance `d` from `target`. -/
structure CharRun where
  first : Nat
  last : Nat
  step : Nat
  target : Nat
deriving DecidableEq, Inhabited

def CharRun.holds (r : CharRun) (n : Nat) : Bool :=
  r.first ≤ n && n ≤ r.last && (n - r.first) % r.step == 0

def CharRun.map (r : CharRun) (n : Nat) : Nat := r.target + (n - r.first)

/-- Reads `first`, `first-last` or, for every second code point, `first:last`, and then `>target`,
all in hexadecimal. -/
def CharRun.read (s : List Char) : CharRun :=
  let (span, target) := (splitFirst (· == '>') s).getD (s, [])
  match splitFirst (fun c => c == '-' || c == ':') span with
  | some (first, last) =>
    ⟨hexNumber first, hexNumber last, if span.contains ':' then 2 else 1, hexNumber target⟩
  | none => ⟨hexNumber span, hexNumber span, 1, hexNumber target⟩

/-- Runs in ascending order, written with blanks between them. -/
abbrev CharTable := Array CharRun

def CharTable.read (text : String) : CharTable :=
  ((words text.toList).map CharRun.read).toArray

/-- Halves the stretch from `lo` to `hi` until the only run that can hold `n` is left. -/
def CharTable.search (table : CharTable) (n : Nat) : Nat → Nat → Nat → Option CharRun
  | 0, _, _ => none
  | fuel + 1, lo, hi =>
    if lo < hi then
      let mid := (lo + hi) / 2
      match table[mid]? with
      | none => none
      | some r =>
        if n < r.first then CharTable.search table n fuel lo mid
        else if r.last < n then CharTable.search table n fuel (mid + 1) hi
        else if r.holds n then some r
        else none
    else none

def CharTable.find? (table : CharTable) (n : Nat) : Option CharRun :=
  table.search n (table.size + 1) 0 table.size

def CharTable.contains (table : CharTable) (n : Nat) : Bool := (table.find? n).isSome

end Archiver
