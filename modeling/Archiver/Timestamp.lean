import Archiver.Text.Blank

namespace Archiver

/-- A day of the Gregorian calendar, extended to all years. -/
structure Day where
  year : Int
  month : Nat
  day : Nat
deriving DecidableEq

def isLeapYear (y : Int) : Bool := y % 4 == 0 && (y % 100 != 0 || y % 400 == 0)

def daysInMonth (y : Int) (m : Nat) : Nat :=
  if m == 2 then (if isLeapYear y then 29 else 28)
  else if m == 4 || m == 6 || m == 9 || m == 11 then 30 else 31

/-- Days since 1970-01-01. The year is taken to begin in March, so that a leap day ends it. -/
def Day.number (d : Day) : Int :=
  let y := if d.month ≤ 2 then d.year - 1 else d.year
  let era := y / 400
  let yearOfEra := y - era * 400
  let monthFromMarch : Int := if d.month ≤ 2 then d.month + 9 else (d.month : Int) - 3
  let dayOfYear := (153 * monthFromMarch + 2) / 5 + d.day - 1
  era * 146097 + (yearOfEra * 365 + yearOfEra / 4 - yearOfEra / 100 + dayOfYear) - 719468

/-- The day that lies `n` days after 1970-01-01. -/
def Day.ofNumber (n : Int) : Day :=
  let z := n + 719468
  let era := z / 146097
  let dayOfEra := z - era * 146097
  let yearOfEra := (dayOfEra - dayOfEra / 1460 + dayOfEra / 36524 - dayOfEra / 146096) / 365
  let dayOfYear := dayOfEra - (365 * yearOfEra + yearOfEra / 4 - yearOfEra / 100)
  let monthFromMarch := (5 * dayOfYear + 2) / 153
  let day := dayOfYear - (153 * monthFromMarch + 2) / 5 + 1
  let month := if monthFromMarch < 10 then monthFromMarch + 3 else monthFromMarch - 9
  let y := yearOfEra + era * 400
  ⟨if month ≤ 2 then y + 1 else y, month.toNat, day.toNat⟩

/-- A moment in UTC. In a leap second `nanos` counts from 10^9 on. -/
structure Timestamp where
  /-- Whole seconds since 1970-01-01T00:00:00Z. -/
  seconds : Int
  nanos : Nat
deriving DecidableEq, Inhabited

def Timestamp.later (a b : Timestamp) : Bool :=
  b.seconds < a.seconds || (a.seconds == b.seconds && b.nanos < a.nanos)

def Timestamp.afterMillis (t : Timestamp) (millis : Nat) : Timestamp :=
  let nanos := t.nanos + millis * 1000000
  ⟨t.seconds + Int.ofNat (nanos / 1000000000), nanos % 1000000000⟩

/-- The first and the last day that a timestamp may fall on. -/
def firstDay : Day := ⟨-262143, 1, 1⟩
def lastDay : Day := ⟨262142, 12, 31⟩

def Timestamp.day (t : Timestamp) : Day := Day.ofNumber (t.seconds / 86400)

/-- At least two digits. -/
def twoDigits (n : Nat) : List Char := if n < 10 then '0' :: n.repr.toList else n.repr.toList

def padLeft (width : Nat) (digits : List Char) : List Char :=
  List.replicate (width - digits.length) '0' ++ digits

/-- Four digits for the years 0 to 9999; any other year has a sign and at least four digits. -/
def yearText (y : Int) : List Char :=
  match y with
  | .ofNat n => if n ≤ 9999 then padLeft 4 n.repr.toList else '+' :: padLeft 4 n.repr.toList
  | .negSucc n => '-' :: padLeft 4 (n + 1).repr.toList

def Day.text (d : Day) : List Char :=
  yearText d.year ++ '-' :: (twoDigits d.month ++ '-' :: twoDigits d.day)

/-- A fraction of 0, 3, 6 or 9 digits, as few as keep the value. -/
def fractionText (nanos : Nat) : List Char :=
  if nanos == 0 then []
  else if nanos % 1000000 == 0 then '.' :: padLeft 3 (nanos / 1000000).repr.toList
  else if nanos % 1000 == 0 then '.' :: padLeft 6 (nanos / 1000).repr.toList
  else '.' :: padLeft 9 nanos.repr.toList

/-- Date, `T` and time of day to the second; a leap second is the second 60. -/
def Timestamp.secondsText (t : Timestamp) : List Char :=
  let time := (t.seconds % 86400).toNat
  let second := time % 60 + (if 1000000000 ≤ t.nanos then 1 else 0)
  t.day.text ++ 'T' :: (twoDigits (time / 3600) ++ ':' :: (twoDigits (time / 60 % 60) ++
    ':' :: twoDigits second))

def Timestamp.dateTimeText (t : Timestamp) : List Char :=
  t.secondsText ++ fractionText (t.nanos % 1000000000)

/-- The form `2024-05-01T10:00:00Z`. -/
def Timestamp.text (t : Timestamp) : List Char := t.dateTimeText ++ ['Z']

/-- The form `2024-05-01T10:00:00+00:00`. -/
def Timestamp.offsetText (t : Timestamp) : List Char := t.dateTimeText ++ "+00:00".toList

/-- Three digits of fraction, whatever the value. -/
def Timestamp.millisText (t : Timestamp) : List Char :=
  t.secondsText ++ '.' :: (padLeft 3 (t.nanos % 1000000000 / 1000000).repr.toList ++ ['Z'])

/-- One to `width` digits after blanks. -/
def readDigits (width : Nat) (s : List Char) : Option (Nat × List Char) :=
  let s := trimStart s
  let digits := (s.take width).takeWhile isAsciiDigit
  if digits.isEmpty then none else some (decimalValue digits, s.drop digits.length)

/-- Digits without a bound where a sign stands before them, else up to four. -/
def readYear (s : List Char) : Option (Int × List Char) :=
  let s := trimStart s
  let unbounded := fun (r : List Char) =>
    match r with
    | c :: _ => if isAsciiDigit c then readDigits r.length r else none
    | [] => none
  match s with
  | '-' :: r => (unbounded r).map fun p => (-(p.1 : Int), p.2)
  | '+' :: r => (unbounded r).map fun p => ((p.1 : Int), p.2)
  | _ => (readDigits 4 s).map fun p => ((p.1 : Int), p.2)

/-- The given character, with blanks before it skipped. -/
def readMark (mark : Char) (s : List Char) : Option (List Char) :=
  match trimStart s with
  | c :: r => if c == mark then some r else none
  | [] => none

/-- An optional fraction, of which nine digits count. -/
def readFraction (s : List Char) : Option (Nat × List Char) :=
  match s with
  | '.' :: r =>
    let digits := r.takeWhile isAsciiDigit
    if digits.isEmpty then none
    else
      let kept := digits.take 9
      some (decimalValue kept * Nat.pow 10 (9 - kept.length), r.dropWhile isAsciiDigit)
  | _ => some (0, s)

/-- `Z`, `UTC` or hours and minutes with a sign; seconds east of UTC. -/
def readOffset (s : List Char) : Option (Int × List Char) :=
  let s := trimStart s
  if (s.take 3).map asciiUpper == "UTC".toList then some (0, s.drop 3)
  else match s with
    | [] => none
    | c :: r =>
      if c == 'Z' || c == 'z' then some (0, r)
      else
        let sign : Option Int :=
          if c == '+' then some 1 else if c == '-' || c == '−' then some (-1) else none
        match sign, r with
        | some sign, h1 :: h2 :: r =>
          match r.dropWhile (fun c => c == ':' || isBlank c) with
          | m1 :: m2 :: r =>
            if [h1, h2, m1, m2].all isAsciiDigit && m1.val < 0x36 then
              some (sign * (decimalValue [h1, h2] * 3600 + decimalValue [m1, m2] * 60 : Nat), r)
            else none
          | _ => none
        | _, _ => none

/-- Reads a date and time with an offset from UTC. -/
def Timestamp.read? (s : List Char) : Option Timestamp := do
  let (year, s) ← readYear s
  let s ← readMark '-' s
  let (month, s) ← readDigits 2 s
  let s ← readMark '-' s
  let (day, s) ← readDigits 2 s
  let s ← match s with
    | c :: r => if c == 'T' || c == 't' || c == ' ' then some r else none
    | [] => none
  let (hour, s) ← readDigits 2 s
  let s ← readMark ':' s
  let (minute, s) ← readDigits 2 s
  let s ← readMark ':' s
  let (second, s) ← readDigits 2 s
  let (nanos, s) ← readFraction s
  let (offset, s) ← readOffset s
  if !(trimStart s).isEmpty then none
  else if month < 1 || 12 < month || day < 1 || daysInMonth year month < day then none
  else if 23 < hour || 59 < minute || 60 < second || 86400 ≤ offset.natAbs then none
  else
    let date : Day := ⟨year, month, day⟩
    let leap := second == 60
    let time : Nat := hour * 3600 + minute * 60 + (if leap then 59 else second)
    let local' := date.number * 86400 + time
    let utc := local' - offset
    let low := firstDay.number * 86400
    let high := (lastDay.number + 1) * 86400
    if low ≤ local' && local' < high && low ≤ utc && utc < high then
      some ⟨utc, if leap then nanos + 1000000000 else nanos⟩
    else none

end Archiver
