import Archiver.Html.Parse
import Archiver.Css.Parse
import Archiver.Url.Canonical

namespace Archiver

/-- What a page of a category lists, and the page that comes next. -/
structure CategoryPage where
  links : List CanonicalUrl
  next : Option Url

/-- A control is disabled by a class, by its attribute or for assistive tools. -/
def Element.isDisabled (e : Element) : Bool :=
  (e.classes.any fun c => c.map asciiLower == "disabled".toList) ||
    (e.attribute? "disabled").isSome ||
    (e.attribute? "aria-disabled").any fun v => (trim v).map asciiLower == "true".toList

def isLink (p : Place) : Bool := p.element.name == "a" && (p.element.attribute? "href").isSome

/-- The target of a control itself, or of the first link inside it. -/
def controlHref? (control : Place) : Option (List Char) :=
  match control.element.attribute? "href" with
  | some href => some href
  | none => (control.below.find? isLink).bind fun a => a.element.attribute? "href"

/-- True for targets that only stand in for a page. -/
def isPlaceholder (href : List Char) : Bool :=
  href.isEmpty || href.head? == some '#' || startsWith "javascript:".toList (href.map asciiLower)

/-- The page a control leads to. One that is disabled, itself or up to two elements out, leads
nowhere. -/
def nextTarget? (control : Place) (base : Url) : Option Url :=
  if (control :: control.ancestors.take 2).any fun p => p.element.isDisabled then none
  else
    match controlHref? control with
    | none => none
    | some href =>
      if isPlaceholder (trim href) then none
      else
        match Url.resolve (some base) (trim href) with
        | .error _ => none
        | .ok u => some (dropFragment u)

/-- Reads a category page at `base`. -/
def readCategoryPage (markup : List Char) (base : Url) (nextSelector : Selectors) : CategoryPage :=
  let d := parseDocument markup
  { links := (d.select isLink).filterMap fun p =>
      (p.element.attribute? "href").bind fun href => normalizeLink href base
    next := (d.select nextSelector.matches).head?.bind fun control => nextTarget? control base }

end Archiver
