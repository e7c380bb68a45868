import Archiver.Html.Builder

namespace Archiver

namespace Builder

/-- Closes elements up to the innermost of this name, unless a special element is in between. -/
def closeGeneric (b : Builder) (name : String) : Builder :=
  match b.openIds.find? fun id => b.isNamed id (name :: specialNames) with
  | none => b
  | some id =>
    if b.isNamed id [name] then
      let b := b.closeImpliedExcept name
      { b with openIds := (b.openIds.dropWhile (· != id)).tail }
    else b

/-- Puts another element in place of a formatting element. -/
def replaceFormatting (b : Builder) (old new : Nat) (tag : Tag) : Builder :=
  { b with formatting := b.formatting.map fun f => if f.holds old then .entry new tag else f }

/-- Remembers a formatting element right behind another one. -/
def addFormattingBehind (mark id : Nat) (tag : Tag) : List Formatting → List Formatting
  | [] => []
  | f :: rest =>
    if f.holds mark then .entry id tag :: f :: rest else f :: addFormattingBehind mark id tag rest

def formattingTag? (b : Builder) (id : Nat) : Option Tag :=
  b.formatting.findSome? fun
    | .entry other tag => if other == id then some tag else none
    | .marker => none

/-- The state of the walk from the furthest block out to the formatting element: the node that moves
next, the clones still open, and the clone made first. -/
structure Climb where
  builder : Builder
  moving : Nat
  kept : List Nat
  firstClone : Option Nat

/-- One element on the way out: a formatting element is cloned around what moves, any other is
closed; the fourth and later ones are forgotten. -/
def climb (c : Climb) (passed : Nat) : List Nat → Climb
  | [] => c
  | id :: rest =>
    let b := c.builder
    if 3 ≤ passed then climb { c with builder := b.removeFormatting id } (passed + 1) rest
    else
      match b.formattingTag? id with
      | none => climb c (passed + 1) rest
      | some tag =>
        let (clone, b) := b.makeElement .html tag.name tag.attributes
        let b := b.replaceFormatting id clone tag
        let b := { b with draft := (b.draft.detach c.moving).append clone c.moving }
        climb ⟨b, clone, c.kept ++ [clone], c.firstClone.or (some clone)⟩ (passed + 1) rest

/-- The open elements inside `id`, innermost first, and those outside. -/
def splitOpen (id : Nat) : List Nat → List Nat × List Nat
  | [] => ([], [])
  | i :: rest =>
    if i = id then ([], rest)
    else let (inside, outside) := splitOpen id rest; (i :: inside, outside)

/-- The outermost special element of a list, with the elements inside and outside of it. -/
def furthestBlock? (b : Builder) (inside : List Nat) : Option (List Nat × Nat × List Nat) :=
  let outward := inside.reverse
  match outward.find? fun id => b.isNamed id specialNames with
  | none => none
  | some block =>
    let (deeper, between) := splitOpen block inside
    some (deeper, block, between)

/-- Moves the content of the furthest block out of a misnested formatting element. -/
def adoptBlock (b : Builder) (id : Nat) (tag : Tag) (deeper : List Nat) (block : Nat)
    (between outside : List Nat) : Builder :=
  let c := climb ⟨b, block, [], none⟩ 0 between
  let b := { c.builder with draft := c.builder.draft.detach c.moving }
  let b := b.place (b.spotFor (outside.headD 0)) c.moving
  let (clone, b) := b.makeElement .html tag.name tag.attributes
  let b := { b with draft := (b.draft.moveChildren block clone).append block clone }
  let b :=
    match c.firstClone with
    | none => b.replaceFormatting id clone tag
    | some mark =>
      { b with formatting := addFormattingBehind mark clone tag b.formatting }.removeFormatting id
  { b with openIds := deeper ++ clone :: block :: c.kept ++ outside }

/-- Closes a formatting element that other elements may overlap, in at most `rounds` rounds. -/
def adoptRounds (b : Builder) (name : String) : Nat → Builder
  | 0 => b
  | rounds + 1 =>
    match b.recentFormatting.find? fun f => f.2.name == name with
    | none => b.closeGeneric name
    | some (id, tag) =>
      if !b.openIds.contains id then b.removeFormatting id
      else if !b.findInScope endsScope (· == id) b.openIds then b
      else
        let (inside, outside) := splitOpen id b.openIds
        match b.furthestBlock? inside with
        | none => { b with openIds := outside }.removeFormatting id
        | some (deeper, block, between) =>
          (b.adoptBlock id tag deeper block between outside).adoptRounds name rounds

/-- The end of a formatting element. -/
def adopt (b : Builder) (name : String) : Builder :=
  if b.currentIs [name] && !b.isFormatting b.current then b.pop
  else b.adoptRounds name 8

end Builder

end Archiver
