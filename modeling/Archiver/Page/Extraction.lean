import Archiver.Page.MainContent
import Archiver.Page.Markdown
import Archiver.Page.Metadata
import Archiver.Url.Canonical

namespace Archiver

/-- A way to turn a page into Markdown, the strongest first. -/
inductive Stage where
  | mainContent
  | wholeBody
  | textOnly
deriving DecidableEq, Inhabited

def Stage.chain : List Stage := [.mainContent, .wholeBody, .textOnly]

def Stage.name : Stage → String
  | .mainContent => "readability"
  | .wholeBody => "html-to-markdown"
  | .textOnly => "plain-text"

/-- What a stage makes of a page; none if it finds nothing at all. -/
def Stage.run (stage : Stage) (d : Document) : Option (List Char) :=
  match stage with
  | .mainContent => d.mainContent?.map htmlToMarkdown
  | .wholeBody => some (htmlToMarkdown d.bodyHtml)
  | .textOnly => some d.plainText

/-- An article as it was taken from its page. -/
structure Extraction where
  url : CanonicalUrl
  markdown : List Char
  stage : Option Stage
  metadata : Metadata
deriving Inhabited

def Extraction.success (e : Extraction) : Bool := e.stage.isSome

/-- The first stage whose trimmed output has at least `least` characters, with that output. -/
def firstAccepted (least : Nat) (d : Document) : List Stage → Option (Stage × List Char)
  | [] => none
  | stage :: rest =>
    match stage.run d with
    | none => firstAccepted least d rest
    | some markdown =>
      if least ≤ (trim markdown).length then some (stage, trim markdown)
      else firstAccepted least d rest

/-- Takes the article from a page by the first stage of the chain that yields enough. -/
def extract (least : Nat) (chain : List Stage) (url : CanonicalUrl) (d : Document) : Extraction :=
  match firstAccepted least d chain with
  | none => ⟨url, [], none, d.metadata⟩
  | some (stage, markdown) => ⟨url, markdown, some stage, d.metadata⟩

/-- Takes the article from the markup of a page by the whole chain. -/
def extractPage (least : Nat) (url : CanonicalUrl) (markup : List Char) : Extraction :=
  extract least Stage.chain url (parseDocument markup)

end Archiver
