import Archiver.Html.Place

namespace Archiver

/-- How an attribute's value relates to a given one. -/
inductive Relation where
  | equal
  | word
  | dashed
  | beginning
  | ending
  | inside
deriving DecidableEq, Inhabited

/-- Whether letters A to Z differ by case; `byName` leaves it to the attribute. -/
inductive CaseRule where
  | byName
  | differ
  | same
deriving DecidableEq, Inhabited

/-- A demand on an attribute: to exist, or to relate to a value. -/
structure AttributeTest where
  anySpace : Bool
  name : String
  demand : Option (Relation × List Char × CaseRule)
deriving DecidableEq, Inhabited

/-- The places `step * n + offset` among the siblings, of the same type only or counted from the
end. -/
structure PlaceTest where
  step : Int
  offset : Int
  ofType : Bool
  fromEnd : Bool
deriving DecidableEq, Inhabited

inductive Combinator where
  | descendant
  | child
  | next
  | later
deriving DecidableEq, Inhabited

mutual

/-- One condition on an element. -/
inductive Simple where
  | never
  | named (name : String)
  | identified (id : List Char)
  | classed (name : List Char)
  | attributed (t : AttributeTest)
  | placed (t : PlaceTest)
  | empty
  | root
  | anyOf (s : Selectors)
  | noneOf (s : Selectors)

/-- Conditions that all hold of one element. -/
inductive Compound where
  | nil
  | cons (first : Simple) (rest : Compound)

/-- Conditions on an element and on elements around it. -/
inductive Complex where
  | single (c : Compound)
  | chain (left : Complex) (link : Combinator) (right : Compound)

/-- Alternatives. -/
inductive Selectors where
  | nil
  | cons (first : Complex) (rest : Selectors)

end

/-- Attributes of HTML elements whose values do not differ by case. -/
def caselessAttributes : List String :=
  ["accept", "accept-charset", "align", "alink", "axis", "bgcolor", "charset", "checked", "clear",
    "codetype", "color", "compact", "declare", "defer", "dir", "direction", "disabled", "enctype",
    "face", "frame", "hreflang", "http-equiv", "lang", "language", "link", "media", "method",
    "multiple", "nohref", "noresize", "noshade", "nowrap", "readonly", "rel", "rev", "rules", "scope",
    "scrolling", "selected", "shape", "target", "text", "type", "valign", "valuetype", "vlink"]

def lowered (name : String) : String := String.ofList (name.toList.map asciiLower)

def isValueBlank (c : Char) : Bool :=
  c == ' ' || c == '\t' || c == '\n' || c == '\x0c' || c == '\r'

def Relation.holds (r : Relation) (wanted value : List Char) : Bool :=
  match r with
  | .equal => value == wanted
  | .word => !wanted.isEmpty && (splitAll isValueBlank value).contains wanted
  | .dashed => value == wanted || startsWith (wanted ++ ['-']) value
  | .beginning => !wanted.isEmpty && startsWith wanted value
  | .ending => !wanted.isEmpty && endsWith wanted value
  | .inside => !wanted.isEmpty && occursIn wanted value

def AttributeTest.accepts (t : AttributeTest) (isHtml : Bool) (value : List Char) : Bool :=
  match t.demand with
  | none => true
  | some (relation, wanted, rule) =>
    let foldsCase := match rule with
      | .same => true
      | .differ => false
      | .byName => isHtml && !t.anySpace && caselessAttributes.contains (lowered t.name)
    if foldsCase then relation.holds (wanted.map asciiLower) (value.map asciiLower)
    else relation.holds wanted value

def AttributeTest.matches (t : AttributeTest) (e : Element) : Bool :=
  let isHtml := e.space == .html
  let name := if isHtml then lowered t.name else t.name
  e.attributes.any fun a =>
    (t.anySpace || a.space == .plain) && a.name == name && t.accepts isHtml a.value

/-- The number of a place, from 1, among siblings of which the list gives those on one side. -/
def placeNumber (ofType : Bool) (e : Element) (side : List (Element × Nodes)) : Nat :=
  1 + (side.filter fun s => !ofType || (s.1.name == e.name && s.1.space == e.space)).length

def PlaceTest.matches (t : PlaceTest) (p : Place) : Bool :=
  let side := if t.fromEnd then p.level.after else p.level.before
  let distance := Int.ofNat (placeNumber t.ofType p.element side) - t.offset
  if t.step == 0 then distance == 0
  else distance % t.step == 0 && 0 ≤ distance * t.step

/-- The siblings in front of an element, the nearest first. -/
def Place.earlierFrom (p : Place) (after : List (Element × Nodes)) :
    List (Element × Nodes) → List Place
  | [] => []
  | (e, children) :: before =>
    { p with level := ⟨e, children, before, after⟩ } ::
      p.earlierFrom ((e, children) :: after) before

def Place.earlier (p : Place) : List Place :=
  p.earlierFrom ((p.element, p.children) :: p.level.after) p.level.before

/-- The places from which a combinator leads to this one. -/
def Combinator.sources (c : Combinator) (p : Place) : List Place :=
  match c with
  | .descendant => p.ancestors
  | .child => p.ancestors.take 1
  | .next => p.earlier.take 1
  | .later => p.earlier

mutual

def Simple.matches : Simple → Place → Bool
  | .never, _ => false
  | .named name, p => p.element.name == if p.element.space == .html then lowered name else name
  | .identified id, p => p.element.id? == some id
  | .classed name, p => p.element.hasClass name
  | .attributed t, p => t.matches p.element
  | .placed t, p => t.matches p
  | .empty, p => !p.children.hasContent
  | .root, p => p.above.isEmpty && p.inPage
  | .anyOf s, p => s.matches p
  | .noneOf s, p => !s.matches p

def Compound.matches : Compound → Place → Bool
  | .nil, _ => true
  | .cons first rest, p => first.matches p && rest.matches p

def Complex.matches : Complex → Place → Bool
  | .single c, p => c.matches p
  | .chain left link right, p => right.matches p && (link.sources p).any fun q => left.matches q

def Selectors.matches : Selectors → Place → Bool
  | .nil, _ => false
  | .cons first rest, p => first.matches p || rest.matches p

end

end Archiver
