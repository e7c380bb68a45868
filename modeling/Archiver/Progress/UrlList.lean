import Archiver.Progress.Store
import Archiver.Text.Utf8

namespace Archiver

/-- A list of URLs, one a line. -/
def urlListText (urls : List CanonicalUrl) : List Char := urls.flatMap fun u => u.text.toList ++ ['\n']

/-- Leaves out what has come before. -/
def keepFirst (seen : List CanonicalUrl) : List CanonicalUrl → List CanonicalUrl
  | [] => []
  | u :: rest => if seen.contains u then keepFirst seen rest else u :: keepFirst (u :: seen) rest

/-- The URLs of a list in its order; a line that is no URL and a URL seen before are left out. -/
def readUrlList (s : List Char) : List CanonicalUrl :=
  keepFirst [] ((lines s).filterMap fun line => (CanonicalUrl.normalize (trim line)).toOption)

/-- The text of a list and the number of its URLs, both built up URL by URL. -/
def urlLines (urls : List CanonicalUrl) : List Char × Nat :=
  urls.foldr (fun u written => (u.text.toList ++ '\n' :: written.1, written.2 + 1)) ([], 0)

/-- Puts a list of URLs in its place in one step, and tells how many it wrote. -/
def Files.writeUrls (f : Files) (path : Path) (urls : List CanonicalUrl) :
    Except ProgressError (Files × Nat) :=
  let (text, count) := urlLines urls
  match f.replace path (encodeUtf8 text) with
  | .error _ => .error .unwritable
  | .ok f => .ok (f, count)

/-- The files after a list of URLs is put in its place. -/
def Files.writeUrlList (f : Files) (path : Path) (urls : List CanonicalUrl) :
    Except ProgressError Files :=
  (f.writeUrls path urls).map (·.1)

def Files.loadUrlList (f : Files) (path : Path) : Except ProgressError (List CanonicalUrl) :=
  match (f.bytes? path).bind decodeUtf8? with
  | none => .error .unreadable
  | some s => .ok (readUrlList s)

end Archiver
