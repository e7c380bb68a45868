import Archiver.Html.BodyRules

namespace Archiver

namespace Builder

def tablePartNames : List String := ["table", "tbody", "tfoot", "thead", "tr"]

def sectionNames : List String := ["tbody", "tfoot", "thead"]

/-- Text in a table waits until it is clear whether all of it is blank. -/
def tableText (b : Builder) (t : Token) : Ruling :=
  if b.currentIs tablePartNames then { b with returnMode := b.mode }.again .inTableText t
  else b.fosterRules t

def tableStartTag (b : Builder) (tag : Tag) : Ruling :=
  let t := Token.startTag tag
  let name := tag.name
  let cleared := b.popUntil ["table", "template", "html"]
  if name == "caption" then { cleared.addMarker.openTag tag with mode := .inCaption }.done
  else if name == "colgroup" then { cleared.openTag tag with mode := .inColumnGroup }.done
  else if name == "col" then (cleared.openNamed "colgroup").again .inColumnGroup t
  else if sectionNames.contains name then { cleared.openTag tag with mode := .inTableBody }.done
  else if ["td", "th", "tr"].contains name then (cleared.openNamed "tbody").again .inTableBody t
  else if name == "table" then
    if b.inScope endsTableScope ["table"] then ((b.popThrough ["table"]).reset, some t) else b.done
  else if ["style", "script", "template"].contains name then (b.openHeadTag tag).done
  else if name == "input" && isHidden tag then (b.putTag tag).done
  else if name == "form" then
    if b.hasOpen "template" || b.form.isSome then b.done
    else
      let (id, b) := b.putElement .html tag.name tag.attributes
      { b with form := some id }.done
  else b.fosterRules t

def tableRules (b : Builder) (t : Token) : Ruling :=
  match t with
  | .null | .text _ => b.tableText t
  | .comment content => (b.addComment content).done
  | .startTag tag => b.tableStartTag tag
  | .endTag tag =>
    let name := tag.name
    if name == "table" then
      (if b.inScope endsTableScope ["table"] then (b.popThrough ["table"]).reset else b).done
    else if ["body", "caption", "col", "colgroup", "html", "tbody", "td", "tfoot", "th", "thead",
        "tr"].contains name then b.done
    else if name == "template" then b.endTemplate.done
    else b.fosterRules t
  | .finish => b.bodyRules t
  | .doctype _ => b.done

/-- Lets waiting text go where it belongs. -/
def releaseText (b : Builder) : Builder :=
  let runs := b.pending.reverse
  let b := { b with pending := [] }
  if runs.all fun run => run.all isHtmlSpace then runs.foldl addText b
  else runs.foldl (fun b run => (b.fosterRules (.text run)).1) b

def tableTextRules (b : Builder) (t : Token) : Ruling :=
  match t with
  | .null => b.done
  | .text content => { b with pending := content :: b.pending }.done
  | t => b.releaseText.again b.returnMode t

def closeCaption (b : Builder) : Builder :=
  ((b.closeImplied impliedEnds).popThrough ["caption"]).dropToMarker

def captionRules (b : Builder) (t : Token) : Ruling :=
  let inCaption := b.inScope endsTableScope ["caption"]
  match t with
  | .startTag tag =>
    if ["caption", "col", "colgroup", "tbody", "td", "tfoot", "th", "thead", "tr"].contains tag.name then
      if inCaption then b.closeCaption.again .inTable t else b.done
    else b.bodyRules t
  | .endTag tag =>
    if tag.name == "caption" then
      (if inCaption then { b.closeCaption with mode := .inTable } else b).done
    else if tag.name == "table" then if inCaption then b.closeCaption.again .inTable t else b.done
    else if ["body", "col", "colgroup", "html", "tbody", "td", "tfoot", "th", "thead", "tr"].contains
        tag.name then b.done
    else b.bodyRules t
  | t => b.bodyRules t

/-- Leaves a column group that a token does not belong to. -/
def leaveColumns (b : Builder) (t : Token) : Ruling :=
  if b.currentIs ["colgroup"] then b.pop.again .inTable t else b.done

def columnRules (b : Builder) (t : Token) : Ruling :=
  match t with
  | .text content =>
    b.splitText content addText fun b rest =>
      if b.currentIs ["colgroup"] then b.pop.again .inTable (.text rest) else b.skipOthers rest
  | .comment content => (b.addComment content).done
  | .startTag tag =>
    if tag.name == "html" then (b.addToRoot tag).done
    else if tag.name == "col" then (b.putTag tag).done
    else if tag.name == "template" then (b.openHeadTag tag).done
    else b.leaveColumns t
  | .endTag tag =>
    if tag.name == "colgroup" then
      (if b.currentIs ["colgroup"] then { b.pop with mode := .inTable } else b).done
    else if tag.name == "col" then b.done
    else if tag.name == "template" then b.endTemplate.done
    else b.leaveColumns t
  | .finish => b.bodyRules t
  | t => b.leaveColumns t

def clearSection (b : Builder) : Builder := b.popUntil ["tbody", "tfoot", "thead", "template", "html"]

def sectionRules (b : Builder) (t : Token) : Ruling :=
  let leave : Ruling :=
    if b.inScope endsTableScope ["table", "tbody", "tfoot"] then b.clearSection.pop.again .inTable t
    else b.done
  match t with
  | .startTag tag =>
    if tag.name == "tr" then { b.clearSection.openTag tag with mode := .inRow }.done
    else if ["th", "td"].contains tag.name then (b.clearSection.openNamed "tr").again .inRow t
    else if ["caption", "col", "colgroup", "tbody", "tfoot", "thead"].contains tag.name then leave
    else b.tableRules t
  | .endTag tag =>
    if sectionNames.contains tag.name then
      (if b.inScope endsTableScope [tag.name] then { b.clearSection.pop with mode := .inTable }
        else b).done
    else if tag.name == "table" then leave
    else if ["body", "caption", "col", "colgroup", "html", "td", "th", "tr"].contains tag.name then b.done
    else b.tableRules t
  | t => b.tableRules t

def closeRow (b : Builder) : Builder :=
  { (b.popUntil ["tr", "template", "html"]).pop with mode := .inTableBody }

def rowRules (b : Builder) (t : Token) : Ruling :=
  let leave : Ruling := if b.inScope endsTableScope ["tr"] then (b.closeRow, some t) else b.done
  match t with
  | .startTag tag =>
    if ["th", "td"].contains tag.name then
      { ((b.popUntil ["tr", "template", "html"]).openTag tag).addMarker with mode := .inCell }.done
    else if ["caption", "col", "colgroup", "tbody", "tfoot", "thead", "tr"].contains tag.name then leave
    else b.tableRules t
  | .endTag tag =>
    if tag.name == "tr" then (if b.inScope endsTableScope ["tr"] then b.closeRow else b).done
    else if tag.name == "table" then leave
    else if sectionNames.contains tag.name then
      if b.inScope endsTableScope [tag.name] then leave else b.done
    else if ["body", "caption", "col", "colgroup", "html", "td", "th"].contains tag.name then b.done
    else b.tableRules t
  | t => b.tableRules t

def closeCell (b : Builder) : Builder :=
  { ((b.closeImplied impliedEnds).popThrough ["td", "th"]).dropToMarker with mode := .inRow }

def cellRules (b : Builder) (t : Token) : Ruling :=
  match t with
  | .startTag tag =>
    if ["caption", "col", "colgroup", "tbody", "td", "tfoot", "th", "thead", "tr"].contains tag.name then
      if b.inScope endsTableScope ["td", "th"] then (b.closeCell, some t) else b.done
    else b.bodyRules t
  | .endTag tag =>
    let name := tag.name
    if ["td", "th"].contains name then
      (if b.inScope endsTableScope [name] then
        { ((b.closeImplied impliedEnds).popThrough [name]).dropToMarker with mode := .inRow }
      else b).done
    else if ["body", "caption", "col", "colgroup", "html"].contains name then b.done
    else if tablePartNames.contains name then
      if b.inScope endsTableScope [name] then (b.closeCell, some t) else b.done
    else b.bodyRules t
  | t => b.bodyRules t

def closeSelect (b : Builder) : Builder := (b.popThrough ["select"]).reset

def selectStartTag (b : Builder) (tag : Tag) : Ruling :=
  let name := tag.name
  let inSelect := b.inScope endsSelectScope ["select"]
  if name == "html" then (b.addToRoot tag).done
  else if name == "option" then ((if b.currentIs ["option"] then b.pop else b).openTag tag).done
  else if name == "optgroup" then
    let b := if b.currentIs ["option"] then b.pop else b
    ((if b.currentIs ["optgroup"] then b.pop else b).openTag tag).done
  else if name == "select" then (if inSelect then b.closeSelect else b).done
  else if ["input", "keygen", "textarea"].contains name then
    if inSelect then (b.closeSelect, some (.startTag tag)) else b.done
  else if ["script", "template"].contains name then (b.openHeadTag tag).done
  else b.done

def selectRules (b : Builder) (t : Token) : Ruling :=
  match t with
  | .null => b.done
  | .text content => (b.addText content).done
  | .comment content => (b.addComment content).done
  | .startTag tag => b.selectStartTag tag
  | .endTag tag =>
    let name := tag.name
    if name == "optgroup" then
      let b :=
        if b.currentIs ["option"] && b.isNamed (b.openIds.tail.headD 0) ["optgroup"] then b.pop else b
      (if b.currentIs ["optgroup"] then b.pop else b).done
    else if name == "option" then (if b.currentIs ["option"] then b.pop else b).done
    else if name == "select" then
      (if b.inScope endsSelectScope ["select"] then b.closeSelect else b).done
    else if name == "template" then b.endTemplate.done
    else b.done
  | .finish => b.bodyRules t
  | .doctype _ => b.done

def selectInTableRules (b : Builder) (t : Token) : Ruling :=
  let parts := ["caption", "table", "tbody", "tfoot", "thead", "tr", "td", "th"]
  match t with
  | .startTag tag => if parts.contains tag.name then (b.closeSelect, some t) else b.selectRules t
  | .endTag tag =>
    if parts.contains tag.name then
      if b.inScope endsTableScope [tag.name] then (b.closeSelect, some t) else b.done
    else b.selectRules t
  | t => b.selectRules t

/-- From here on a template's content is read by the rules of another mode. -/
def turnTemplate (b : Builder) (mode : Mode) (t : Token) : Ruling :=
  { b with templateModes := mode :: b.templateModes.tail }.again mode t

def templateRules (b : Builder) (t : Token) : Ruling :=
  match t with
  | .startTag tag =>
    let name := tag.name
    if headNames.contains name then (b.openHeadTag tag).done
    else if ["caption", "colgroup", "tbody", "tfoot", "thead"].contains name then
      b.turnTemplate .inTable t
    else if name == "col" then b.turnTemplate .inColumnGroup t
    else if name == "tr" then b.turnTemplate .inTableBody t
    else if ["td", "th"].contains name then b.turnTemplate .inRow t
    else b.turnTemplate .inBody t
  | .endTag tag => (if tag.name == "template" then b.endTemplate else b).done
  | .finish => b.templateFinish
  | .null => b.done
  | t => b.bodyRules t

def afterBodyRules (b : Builder) (t : Token) : Ruling :=
  match t with
  | .text content =>
    b.splitText content (fun b run => (b.bodyRules (.text run)).1) fun b rest =>
      b.again .inBody (.text rest)
  | .comment content => (b.addCommentTo b.outermost content).done
  | .startTag tag => if tag.name == "html" then (b.addToRoot tag).done else b.again .inBody t
  | .endTag tag =>
    if tag.name == "html" then (if b.isFragment then b else { b with mode := .afterAfterBody }).done
    else b.again .inBody t
  | .finish => b.done
  | t => b.again .inBody t

def afterAfterBodyRules (b : Builder) (t : Token) : Ruling :=
  match t with
  | .text content =>
    b.splitText content (fun b run => (b.bodyRules (.text run)).1) fun b rest =>
      b.again .inBody (.text rest)
  | .comment content => (b.addCommentTo 0 content).done
  | .startTag tag => if tag.name == "html" then (b.addToRoot tag).done else b.again .inBody t
  | .finish => b.done
  | t => b.again .inBody t

def framesetRules (b : Builder) (t : Token) : Ruling :=
  match t with
  | .text content => b.splitText content addText skipOthers
  | .comment content => (b.addComment content).done
  | .startTag tag =>
    let name := tag.name
    if name == "html" then (b.addToRoot tag).done
    else if name == "frameset" then (b.openTag tag).done
    else if name == "frame" then (b.putTag tag).done
    else if name == "noframes" then (b.openHeadTag tag).done
    else b.done
  | .endTag tag =>
    if tag.name == "frameset" && b.openIds.length ≠ 1 then
      let b := b.pop
      (if !b.isFragment && !b.currentIs ["frameset"] then { b with mode := .afterFrameset } else b).done
    else b.done
  | _ => b.done

def afterFramesetRules (b : Builder) (t : Token) : Ruling :=
  match t with
  | .text content => b.splitText content addText skipOthers
  | .comment content => (b.addComment content).done
  | .startTag tag =>
    if tag.name == "html" then (b.addToRoot tag).done
    else if tag.name == "noframes" then (b.openHeadTag tag).done
    else b.done
  | .endTag tag => (if tag.name == "html" then { b with mode := .afterAfterFrameset } else b).done
  | _ => b.done

def afterAfterFramesetRules (b : Builder) (t : Token) : Ruling :=
  match t with
  | .text content => b.splitText content (fun b run => (b.bodyRules (.text run)).1) skipOthers
  | .comment content => (b.addCommentTo 0 content).done
  | .startTag tag =>
    if tag.name == "html" then (b.addToRoot tag).done
    else if tag.name == "noframes" then (b.openHeadTag tag).done
    else b.done
  | _ => b.done

/-- Reads a token by the rules of the mode. -/
def modeRules (b : Builder) (t : Token) : Ruling :=
  match b.mode with
  | .initial => b.initialRules t
  | .beforeHtml => b.beforeHtmlRules t
  | .beforeHead => b.beforeHeadRules t
  | .inHead => b.headRules t
  | .afterHead => b.afterHeadRules t
  | .inBody => b.bodyRules t
  | .inText => b.textRules t
  | .inTable => b.tableRules t
  | .inTableText => b.tableTextRules t
  | .inCaption => b.captionRules t
  | .inColumnGroup => b.columnRules t
  | .inTableBody => b.sectionRules t
  | .inRow => b.rowRules t
  | .inCell => b.cellRules t
  | .inSelect => b.selectRules t
  | .inSelectInTable => b.selectInTableRules t
  | .inTemplate => b.templateRules t
  | .afterBody => b.afterBodyRules t
  | .inFrameset => b.framesetRules t
  | .afterFrameset => b.afterFramesetRules t
  | .afterAfterBody => b.afterAfterBodyRules t
  | .afterAfterFrameset => b.afterAfterFramesetRules t

end Builder

end Archiver
