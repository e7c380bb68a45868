import Archiver.Text.Blank
import Archiver.Text.Utf8

namespace Archiver

/-- The characters a file name may not hold on some file system. -/
def isReserved (c : Char) : Bool := ['<', '>', ':', '"', '/', '\\', '|', '?', '*'].contains c

def dropForbidden (s : List Char) : List Char := s.filter fun c => !(isControl c || isReserved c)

/-- Turns each run of blanks into one hyphen; `inBlank` tells that a run is open. -/
def hyphenate (inBlank : Bool) : List Char → List Char
  | [] => []
  | c :: s =>
    if isBlank c then if inBlank then hyphenate true s else '-' :: hyphenate true s
    else c :: hyphenate false s

/-- The longest beginning of at most `limit` bytes. -/
def takeBytes : Nat → List Char → List Char
  | _, [] => []
  | limit, c :: s => if charBytes c ≤ limit then c :: takeBytes (limit - charBytes c) s else []

/-- A text made fit for a file name: 80 characters and 120 bytes at most. -/
def sanitizeFileName (s : List Char) : List Char :=
  takeBytes 120 ((hyphenate false (dropForbidden s)).take 80)

end Archiver
