import Archiver.Text.CharTable

namespace Archiver

/-- A code point and the code points it stands for. -/
structure CharText where
  code : Nat
  text : List Nat
deriving DecidableEq, Inhabited

/-- Reads `code>first.second` and so on, all in hexadecimal. -/
def CharText.read (s : List Char) : CharText :=
  let (code, text) := (splitFirst (· == '>') s).getD (s, [])
  ⟨hexNumber code, (splitAll (· == '.') text).map hexNumber⟩

/-- Entries in ascending order of their code points, written with blanks between them. -/
abbrev CharTexts := Array CharText

def CharTexts.read (text : String) : CharTexts :=
  ((words text.toList).map CharText.read).toArray

/-- Halves the stretch from `lo` to `hi` until the only entry that can be for `n` is left. -/
def CharTexts.search (table : CharTexts) (n : Nat) : Nat → Nat → Nat → Option (List Nat)
  | 0, _, _ => none
  | fuel + 1, lo, hi =>
    if lo < hi then
      let mid := (lo + hi) / 2
      match table[mid]? with
      | none => none
      | some e =>
        if n < e.code then CharTexts.search table n fuel lo mid
        else if e.code < n then CharTexts.search table n fuel (mid + 1) hi
        else some e.text
    else none

def CharTexts.find? (table : CharTexts) (n : Nat) : Option (List Nat) :=
  table.search n (table.size + 1) 0 table.size

end Archiver
