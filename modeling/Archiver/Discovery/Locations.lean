import Archiver.Url.Parse

namespace Archiver

/-- The text before the first `part` and the text after it, if the text holds one. -/
def splitAtText (part : List Char) : List Char → Option (List Char × List Char)
  | [] => if part.isEmpty then some ([], []) else none
  | c :: s =>
    match after? part (c :: s) with
    | some rest => some ([], rest)
    | none => (splitAtText part s).map fun parts => (c :: parts.1, parts.2)

/-- The shortest character data that ends in `]]>` and, blanks aside, `</loc>`. -/
def dataBeforeClose : List Char → Option (List Char × List Char)
  | [] => none
  | c :: s =>
    match (after? "]]>".toList (c :: s)).bind fun rest => after? "</loc>".toList (trimStart rest) with
    | some rest => some ([], rest)
    | none => (dataBeforeClose s).map fun parts => (c :: parts.1, parts.2)

/-- Reads one location in character data at the head of the text. -/
def dataLocation? (s : List Char) : Option (List Char × List Char) := do
  let inside ← after? "<loc>".toList s
  let data ← after? "<![CDATA[".toList (trimStart inside)
  dataBeforeClose data

/-- Reads one location in plain text at the head of the text. -/
def plainLocation? (s : List Char) : Option (List Char × List Char) := do
  let inside ← after? "<loc>".toList s
  let place := trimStart inside
  let text := place.takeWhile fun c => c != '<' && !isBlank c
  if text.isEmpty then none
  else
    let rest ← after? "</loc>".toList (trimStart (place.drop text.length))
    some (text, rest)

/-- Every match of a reader, from the left, none overlapping another. -/
def scanAll (reader : List Char → Option (List Char × List Char)) :
    Nat → List Char → List (List Char)
  | 0, _ => []
  | _ + 1, [] => []
  | fuel + 1, c :: s =>
    match reader (c :: s) with
    | some (found, rest) => found :: scanAll reader fuel rest
    | none => scanAll reader fuel s

/-- The five named entities, the ampersand last. -/
def decodeEntities (s : List Char) : List Char :=
  replace "&amp;".toList ['&']
    (replace "&apos;".toList ['\'']
      (replace "&quot;".toList ['"']
        (replace "&gt;".toList ['>'] (replace "&lt;".toList ['<'] s))))

/-- Drops every element that occurred before. -/
def dropRepeats {α : Type} [BEq α] (seen : List α) : List α → List α
  | [] => []
  | a :: rest => if seen.contains a then dropRepeats seen rest else a :: dropRepeats (a :: seen) rest

/-- The locations of a listing: those in character data first, each text once. -/
def extractLocations (document : List Char) : List (List Char) :=
  let data := (scanAll dataLocation? document.length document).map trim
  let plain := (scanAll plainLocation? document.length document).map fun l => decodeEntities (trim l)
  dropRepeats [] ((data ++ plain).filter (!·.isEmpty))

/-- A location leads to another listing if its path ends in `.xml`. -/
def isNestedListing (location : List Char) : Bool :=
  match Url.parse location with
  | .error _ => false
  | .ok u => endsWith ".xml".toList (u.path.map asciiLower)

end Archiver
