import Archiver.Url.Parse
import Archiver.Text.Lowercase

namespace Archiver

/-- Why a text has no canonical form. -/
inductive CanonicalError where
  | unparsable (cause : UrlError)
  | foreignScheme (scheme : List Char)
  | hostless
  | unsettableHost (cause : UrlError)
deriving DecidableEq

def CanonicalError.message : CanonicalError → String
  | .unparsable cause => "Failed to parse URL: " ++ cause.message
  | .foreignScheme scheme =>
    "Invalid URL scheme: Only HTTP and HTTPS schemes are supported, got: " ++ String.ofList scheme
  | .hostless => "Missing domain in URL"
  | .unsettableHost cause => "Malformed URL: Failed to set host: " ++ cause.message

/-- The text of an article's address: two addresses of one article have the same text. -/
structure CanonicalUrl where
  text : String
deriving DecidableEq, Hashable, Inhabited

/-- Segments that are empty or a dot are left out; a double dot removes the one before it. -/
def tidySegments : List (List Char) → List (List Char) → List (List Char)
  | stack, [] => stack
  | stack, segment :: rest =>
    if segment == [] || segment == ['.'] then tidySegments stack rest
    else if segment == ['.', '.'] then tidySegments stack.tail rest
    else tidySegments (segment :: stack) rest

/-- The path without empty segments, dot segments or a final slash. -/
def tidyPath (path : List Char) : List Char :=
  match tidySegments [] (splitAll (· == '/') path) with
  | [] => ['/']
  | stack => pathOfStack stack

/-- The canonical form of a parsed URL: its host in lower case, its path tidied, its query and
fragment dropped. -/
def Url.canonical (u : Url) : Except CanonicalError Url :=
  if !isWebScheme u.scheme then .error (.foreignScheme u.scheme)
  else
    match u.authority with
    | none => .error .hostless
    | some a =>
      match a.host with
      | none => .error .hostless
      | some host =>
        match parseHostText true (lowercase host.text) with
        | .error cause => .error (.unsettableHost cause)
        | .ok host =>
          .ok ⟨u.scheme, some { a with host := some host },
            pathOfStack (addSegments false [] ((splitAll (· == '/') (tidyPath u.path)).drop 1)),
            none, none⟩

/-- The canonical form of a text, blanks around it aside. -/
def CanonicalUrl.normalize (s : List Char) : Except CanonicalError CanonicalUrl :=
  match Url.parse (trim s) with
  | .error cause => .error (.unparsable cause)
  | .ok u => u.canonical.map fun u => ⟨String.ofList u.text⟩

def CanonicalUrl.url (c : CanonicalUrl) : Except UrlError Url := Url.parse c.text.toList

/-- The text after the first `part`, if the text holds one. -/
def afterFirst? (part : List Char) : List Char → Option (List Char)
  | [] => if part.isEmpty then some [] else none
  | c :: s => (after? part (c :: s)).or (afterFirst? part s)

/-- The last path segment, if there is one. -/
def CanonicalUrl.slug (c : CanonicalUrl) : Option (List Char) := do
  let place ← afterFirst? "://".toList c.text.toList
  let (_, path) ← splitFirst (· == '/') place
  (splitAll (· == '/') path).reverse.find? (!·.isEmpty)

/-- The number that the last path segment writes, if it is digits alone and below 2^64. -/
def CanonicalUrl.articleId (c : CanonicalUrl) : Option Nat := do
  let slug ← c.slug
  if slug.all isAsciiDigit && decimalValue slug < 18446744073709551616 then
    some (decimalValue slug)
  else none

/-- The canonical address a link on the page at `base` leads to, if it can be an article's. -/
def normalizeLink (href : List Char) (base : Url) : Option CanonicalUrl :=
  let href := trim href
  if href.isEmpty || href.head? == some '#' then none
  else if ["javascript:", "mailto:", "tel:", "data:"].any fun s => startsWith s.toList href then none
  else match Url.resolve (some base) href with
    | .error _ => none
    | .ok u => (CanonicalUrl.normalize u.text).toOption

end Archiver
