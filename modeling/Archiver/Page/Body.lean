import Archiver.Html.Place
import Archiver.Html.Print

namespace Archiver

/-- Elements whose text is never part of an article. -/
def hiddenNames : List String := ["script", "style", "noscript", "template", "iframe", "svg"]

/-- The place of the outermost element. -/
def Document.rootPlace (d : Document) : Place := ⟨⟨d.root.1, d.root.2, [], []⟩, [], !d.isFragment⟩

/-- The body, or the whole page if it has none. -/
def Document.body (d : Document) : Place :=
  ((d.select fun p => p.element.name == "body").head?).getD d.rootPlace

def Document.bodyHtml (d : Document) : List Char := outerHtml d.body.element d.body.children

/-- The texts that are not blank, outside hidden elements, their blanks collapsed. -/
def Nodes.visibleTexts : Nodes → List (List Char)
  | .nil => []
  | .text content rest =>
    let text := collapseBlanks content
    if text.isEmpty then rest.visibleTexts else text :: rest.visibleTexts
  | .comment _ rest => rest.visibleTexts
  | .element e children rest =>
    (if hiddenNames.contains e.name then [] else children.visibleTexts) ++ rest.visibleTexts

/-- The visible text of the body, a paragraph for each text node. -/
def Document.plainText (d : Document) : List Char :=
  let body := d.body
  if body.above.any fun level => hiddenNames.contains level.element.name then []
  else ['\n', '\n'].intercalate body.children.visibleTexts

end Archiver
