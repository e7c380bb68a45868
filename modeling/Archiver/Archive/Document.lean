import Archiver.Archive.FileName
import Archiver.Digest
import Archiver.Page.Extraction
import Archiver.Storage.Files
import Archiver.Timestamp

namespace Archiver

/-- An article without a title is called untitled. -/
def Extraction.title (e : Extraction) : List Char := e.metadata.title.getD "Untitled".toList

/-- The last path segment of an address, cut to 60 bytes. -/
def slugName (url : CanonicalUrl) : List Char :=
  match (url.slug.map fun slug => takeBytes 60 (sanitizeFileName slug)).getD [] with
  | [] => "index".toList
  | name => name

def titleName (title : List Char) : List Char :=
  match sanitizeFileName title with
  | [] => "Untitled".toList
  | name => name

/-- The directories of an article below the archive, and the name of its file. -/
def Extraction.fileNames (e : Extraction) (captured : Timestamp) : List String :=
  let day := captured.day
  [String.ofList (yearText day.year), String.ofList (twoDigits day.month),
    String.ofList (day.text ++ "__".toList ++ slugName e.url ++ "__".toList ++ titleName e.title ++
      ".md".toList)]

/-- Where an article captured at that time is kept. -/
def archivePath (root : String) (e : Extraction) (captured : Timestamp) : String :=
  (e.fileNames captured).foldl joinPath root

def escapeQuotes (s : List Char) : List Char :=
  s.flatMap fun c => if c == '"' then ['\\', '"'] else [c]

/-- The beginning of the digest of a text. -/
def contentHash (s : List Char) : List Char := (digestText s).take 16

def quotedText (s : List Char) : List Char := '"' :: (escapeQuotes s ++ ['"'])

/-- The lines that say where an article comes from and how it was captured. -/
def frontMatter (e : Extraction) (captured : Timestamp) : List (List Char) :=
  [ "source_url: ".toList ++ e.url.text.toList,
    "captured_at: ".toList ++ captured.millisText,
    "title: ".toList ++ quotedText e.title,
    "category: ".toList ++ quotedText (e.metadata.category.getD "unknown".toList),
    "is_premium: ".toList ++ (if e.metadata.isPremium then "true" else "false").toList,
    "publish_date: ".toList ++ e.metadata.publishDate.getD "null".toList,
    "conversion_method: ".toList ++ (e.stage.elim "none" Stage.name).toList,
    "file_hash: ".toList ++ contentHash e.markdown ]

def rule : List Char := "---\n".toList

/-- The file of an article: its front matter between two rules, an empty line and its text. -/
def renderDocument (e : Extraction) (captured : Timestamp) : List Char :=
  rule ++ (frontMatter e captured).flatMap (· ++ ['\n']) ++ rule ++ '\n' :: (e.markdown ++ ['\n'])

/-- An article that could not be written to its place, and the files that this leaves. -/
structure ArchiveError where
  path : String
  left : Files

def ArchiveError.message (e : ArchiveError) : String := "Failed to write archive file " ++ e.path

/-- Puts an article in its place. -/
def Files.archive (f : Files) (root : String) (e : Extraction) (captured : Timestamp) :
    Except ArchiveError Files :=
  let path := archivePath root e captured
  (f.replace (Path.ofText path) (encodeUtf8 (renderDocument e captured))).mapError (⟨path, ·⟩)

end Archiver
