import Archiver.Url.Idna.Mapping
import Archiver.Url.Idna.Marks
import Archiver.Text.Composed
import Archiver.Url.Punycode

namespace Archiver

/-- ASCII characters that no host name may hold. -/
def isRefusedInHost (c : Char) : Bool :=
  c.val ≤ 0x20 || c.val == 0x7F ||
    ['%', '#', '/', ':', '<', '>', '?', '@', '[', '\\', ']', '^', '|'].contains c

/-- A joiner stands after a virama, or between letters that join across it. -/
def joinersFit (before : List Char) : List Char → Bool
  | [] => true
  | c :: rest =>
    let afterVirama := before.head?.any fun p => combiningClass p == 9
    let fits :=
      if c.val == 0x200D then afterVirama
      else if c.val == 0x200C then
        let through := fun (s : List Char) => (s.dropWhile (joiningType · == 1)).head?
        afterVirama ||
          ((through before).any (fun l => joiningType l == 2 || joiningType l == 4) &&
            (through rest).any fun r => joiningType r == 3 || joiningType r == 4)
      else true
    fits && joinersFit (c :: before) rest

/-- A label of a name that is in part written from right to left keeps to one direction. -/
def directionsFit (label : List Char) : Bool :=
  let classes := label.map direction
  let ending := (classes.reverse.dropWhile (· == .mark)).head?
  match classes with
  | [] => true
  | first :: _ =>
    if first == .right || first == .arabic then
      classes.all (· != .left) &&
        ending.any (fun d => d == .right || d == .arabic || d == .number || d == .arabicNumber) &&
        !(classes.contains .number && classes.contains .arabicNumber)
    else if first == .left then
      classes.all (fun d => d != .right && d != .arabic && d != .arabicNumber) &&
        ending.any fun d => d == .left || d == .number
    else false

/-- True for the characters of scripts written from right to left; none of them is ASCII. -/
def isRightward (c : Char) : Bool :=
  !isAscii c && (direction c == .right || direction c == .arabic || direction c == .arabicNumber)

/-- The most characters that are brought into an ASCII form. -/
def encodeLimit : Nat := 1000

/-- The longest ASCII form that is read. -/
def decodeLimit : Nat := 2000

/-- True if a label is its own mapping, begins with no mark and is not too long for an ASCII form if it
needs one. -/
def labelFits (label : List Char) : Bool :=
  !(label.head?.any isMark) && label.all (fun c => !isRefusedInHost c) && joinersFit [] label &&
    (label.all isAscii || label.length ≤ encodeLimit)

/-- The label behind an ASCII form, or the label itself; `none` if the form is faulty. -/
def unicodeLabel? (label : List Char) : Option (List Char) :=
  match after? "xn--".toList label with
  | none => if labelFits label then some label else none
  | some form =>
    match punycodeDecode? form with
    | none => none
    | some decoded =>
      if form.length ≤ decodeLimit && form.getLast? != some '-' && !decoded.all isAscii &&
          decoded.mapM mapHostChar == some (decoded.map fun c => [c]) &&
          composed decoded == decoded && labelFits decoded then
        some decoded
      else none

def asciiLabel (label : List Char) : List Char :=
  if label.all isAscii then label else "xn--".toList ++ punycodeEncode label

/-- The ASCII form of a host name of any script; `none` if it is no host name. -/
def hostToAscii? (name : List Char) : Option (List Char) := do
  let mapped ← name.mapM mapHostChar
  let labels ← (splitAll (· == '.') (composed mapped.flatten)).mapM unicodeLabel?
  if labels.any (·.any isRightward) && !labels.all directionsFit then none
  else some (['.'].intercalate (labels.map asciiLabel))

end Archiver
