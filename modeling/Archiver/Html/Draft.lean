import Archiver.Html.Tree

namespace Archiver

/-- What a node of a page under construction is. -/
inductive NodeKind where
  | page
  | element (space : Space) (name : String) (attributes : List Attribute)
  | text (content : List Char)
  | comment (content : List Char)
deriving DecidableEq, Inhabited

structure DraftNode where
  kind : NodeKind
  parent : Option Nat
  children : List Nat
deriving DecidableEq, Inhabited

/-- A page under construction: its nodes in the order of their making, the page itself first. -/
structure Draft where
  nodes : Array DraftNode

def Draft.empty : Draft := ⟨#[⟨.page, none, []⟩]⟩

def Draft.node (d : Draft) (id : Nat) : DraftNode := d.nodes.getD id default

def Draft.update (d : Draft) (id : Nat) (f : DraftNode → DraftNode) : Draft := ⟨d.nodes.modify id f⟩

/-- Makes a node that stands nowhere yet. -/
def Draft.make (d : Draft) (kind : NodeKind) : Nat × Draft :=
  (d.nodes.size, ⟨d.nodes.push ⟨kind, none, []⟩⟩)

def Draft.name? (d : Draft) (id : Nat) : Option (Space × String) :=
  match (d.node id).kind with
  | .element space name _ => some (space, name)
  | _ => none

/-- Takes a node with all below it away from its parent. -/
def Draft.detach (d : Draft) (id : Nat) : Draft :=
  match (d.node id).parent with
  | none => d
  | some parent =>
    (d.update parent fun n => { n with children := n.children.filter (· != id) }).update id
      fun n => { n with parent := none }

/-- Makes a node the last child of `parent`. -/
def Draft.append (d : Draft) (parent id : Nat) : Draft :=
  ((d.detach id).update parent fun n => { n with children := n.children ++ [id] }).update id
    fun n => { n with parent := some parent }

def insertBefore (mark id : Nat) : List Nat → List Nat
  | [] => [id]
  | i :: rest => if i = mark then id :: i :: rest else i :: insertBefore mark id rest

/-- Makes a node the sibling in front of `mark`, if that has a parent. -/
def Draft.putBefore (d : Draft) (mark id : Nat) : Draft :=
  let d := d.detach id
  match (d.node mark).parent with
  | none => d
  | some parent =>
    (d.update parent fun n => { n with children := insertBefore mark id n.children }).update id
      fun n => { n with parent := some parent }

def Draft.isText (d : Draft) (id : Nat) : Bool :=
  match (d.node id).kind with
  | .text _ => true
  | _ => false

def NodeKind.addText (more : List Char) : NodeKind → NodeKind
  | .text content => .text (content ++ more)
  | kind => kind

/-- Adds text to the text node `last`, or as a node of its own through `place`. -/
def Draft.joinText (d : Draft) (last : Option Nat) (content : List Char)
    (place : Draft → Nat → Draft) : Draft :=
  match last with
  | some last =>
    if d.isText last then d.update last fun n => { n with kind := n.kind.addText content }
    else let (id, d) := d.make (.text content); place d id
  | none => let (id, d) := d.make (.text content); place d id

def Draft.appendText (d : Draft) (parent : Nat) (content : List Char) : Draft :=
  d.joinText (d.node parent).children.getLast? content fun d id => d.append parent id

/-- The node in front of `mark` in a list. -/
def siblingBefore (mark : Nat) : List Nat → Option Nat
  | [] => none
  | [_] => none
  | a :: b :: rest => if b = mark then some a else siblingBefore mark (b :: rest)

def Draft.putTextBefore (d : Draft) (mark : Nat) (content : List Char) : Draft :=
  match (d.node mark).parent with
  | none => d
  | some parent =>
    d.joinText (siblingBefore mark (d.node parent).children) content fun d id => d.putBefore mark id

/-- Moves all children of one node to the end of another's. -/
def Draft.moveChildren (d : Draft) (source target : Nat) : Draft :=
  (d.node source).children.foldl (fun d id => d.append target id) d

/-- Adds the attributes that the element does not have yet. -/
def NodeKind.addAttributes (more : List Attribute) : NodeKind → NodeKind
  | .element space name attributes =>
    .element space name (more.foldl (fun attributes a =>
      if attributes.any fun b => b.space == a.space && b.name == a.name then attributes
      else attributes ++ [a]) attributes)
  | kind => kind

def Draft.addAttributes (d : Draft) (id : Nat) (more : List Attribute) : Draft :=
  d.update id fun n => { n with kind := n.kind.addAttributes more }

/-- The trees of a list of nodes; `fuel` bounds the nodes met on one way down and to the right. -/
def Draft.trees (d : Draft) : Nat → List Nat → Nodes
  | 0, _ => .nil
  | _ + 1, [] => .nil
  | fuel + 1, id :: rest =>
    let n := d.node id
    match n.kind with
    | .page => d.trees fuel rest
    | .text content => .text content (d.trees fuel rest)
    | .comment content => .comment content (d.trees fuel rest)
    | .element space name attributes =>
      .element ⟨id, space, name, attributes⟩ (d.trees fuel n.children) (d.trees fuel rest)

def Draft.looseTrees (d : Draft) : List (Element × Nodes) :=
  (List.range d.nodes.size).filterMap fun id =>
    let n := d.node id
    match n.kind, n.parent with
    | .element space name attributes, none =>
      if n.children.isEmpty then none
      else some (⟨id, space, name, attributes⟩, d.trees (d.nodes.size + 1) n.children)
    | _, _ => none

/-- The finished page. -/
def Draft.document (d : Draft) (isFragment : Bool) : Document :=
  ⟨d.trees (d.nodes.size + 1) (d.node 0).children, d.looseTrees, isFragment⟩

end Archiver
