import Mathlib.Data.List.Forall2
import Archiver.Page.MainContent
import Archiver.Page.Body

namespace Archiver

/-- Elements that hold a program or the rules of a layout, no text of the page. -/
def Element.isSilent (e : Element) : Bool := e.name == "script" || e.name == "style"

/-- Two elements that differ at most in their orders, which `R` ties to each other. -/
def Element.Twin (R : Nat → Nat → Prop) (e e' : Element) : Prop :=
  ∃ n, R e.order n ∧ e' = { e with order := n }

/-- Two lists of siblings that differ at most in the texts in and below silent elements; `silent`
tells that the siblings themselves stand in one. -/
inductive Nodes.Twin (R : Nat → Nat → Prop) : Bool → Nodes → Nodes → Prop
  | nil {silent : Bool} : Twin R silent .nil .nil
  | text {silent : Bool} (content : List Char) {rest rest' : Nodes} :
    Twin R silent rest rest' → Twin R silent (.text content rest) (.text content rest')
  | comment {silent : Bool} (content : List Char) {rest rest' : Nodes} :
    Twin R silent rest rest' → Twin R silent (.comment content rest) (.comment content rest')
  | element {silent : Bool} {e e' : Element} {children children' rest rest' : Nodes} :
    e.Twin R e' → Twin R (silent || e.isSilent) children children' → Twin R silent rest rest' →
    Twin R silent (.element e children rest) (.element e' children' rest')
  | left (content : List Char) {rest rest' : Nodes} :
    Twin R true rest rest' → Twin R true (.text content rest) rest'
  | right (content : List Char) {rest rest' : Nodes} :
    Twin R true rest rest' → Twin R true rest (.text content rest')

/-- Two elements with their children that differ no more than that. -/
def TreeTwin (R : Nat → Nat → Prop) (silent : Bool) (tree tree' : Element × Nodes) : Prop :=
  tree.1.Twin R tree'.1 ∧ Nodes.Twin R (silent || tree.1.isSilent) tree.2 tree'.2

/-- No silent element stands among the siblings or below. -/
def Nodes.isOpen : Nodes → Bool
  | .nil => true
  | .text _ rest => rest.isOpen
  | .comment _ rest => rest.isOpen
  | .element e children rest => !e.isSilent && children.isOpen && rest.isOpen

/-- Two lists of siblings with the same texts and the same markup. -/
structure Nodes.SameText (ns ms : Nodes) : Prop where
  content : ns.textContent = ms.textContent
  texts : ns.texts = ms.texts
  linked : ns.linkedLength = ms.linkedLength
  written : ∀ raw, ns.written raw = ms.written raw

section Twins

variable {R : Nat → Nat → Prop} {silent : Bool} {e e' : Element} {ns ms : Nodes}

theorem hidden_of_silent (h : e.isSilent = true) : hiddenNames.contains e.name = true := by
  simp only [Element.isSilent, Bool.or_eq_true, beq_iff_eq] at h
  rcases h with h | h <;> rw [h] <;> decide

theorem elements_twin (h : Nodes.Twin R silent ns ms) :
    List.Forall₂ (TreeTwin R silent) ns.elements ms.elements := by
  induction h with
  | nil => exact .nil
  | text _ _ ih => exact ih
  | comment _ _ ih => exact ih
  | element he hchildren _ _ ih => exact .cons ⟨he, hchildren⟩ ih
  | left _ _ ih => exact ih
  | right _ _ ih => exact ih

/-- What a reader sees of two such lists is the same. -/
theorem visibleTexts_twin (h : Nodes.Twin R false ns ms) : ns.visibleTexts = ms.visibleTexts := by
  generalize hsilent : false = silent at h
  induction h with
  | nil => rfl
  | text content _ ih => simp only [Nodes.visibleTexts, ih hsilent]
  | comment content _ ih => simp only [Nodes.visibleTexts, ih hsilent]
  | @element _ e _ children children' _ _ he _ _ ihchildren ih =>
    obtain ⟨n, -, rfl⟩ := he
    subst hsilent
    cases hname : e.isSilent with
    | true => simp only [Nodes.visibleTexts, hidden_of_silent hname, if_true, ih rfl]
    | false => simp only [Nodes.visibleTexts, ihchildren (by rw [hname]; rfl), ih rfl]
  | left => cases hsilent
  | right => cases hsilent

theorem Nodes.SameText.textLength (h : ns.SameText ms) : ns.textLength = ms.textLength := by
  rw [Nodes.textLength, Nodes.textLength, h.texts]

theorem sameText_of_open (h : Nodes.Twin R false ns ms) (hopen : ns.isOpen = true) :
    ns.SameText ms := by
  generalize hsilent : false = silent at h
  induction h with
  | nil => exact ⟨rfl, rfl, rfl, fun _ => rfl⟩
  | text content _ ih =>
    have hrest := ih hopen hsilent
    exact
      { content := by simp only [Nodes.textContent, hrest.content]
        texts := by simp only [Nodes.texts, hrest.texts]
        linked := by simp only [Nodes.linkedLength, hrest.linked]
        written := fun raw => by simp only [Nodes.written, hrest.written] }
  | comment content _ ih =>
    have hrest := ih hopen hsilent
    exact
      { content := by simp only [Nodes.textContent, hrest.content]
        texts := by simp only [Nodes.texts, hrest.texts]
        linked := by simp only [Nodes.linkedLength, hrest.linked]
        written := fun raw => by simp only [Nodes.written, hrest.written] }
  | @element _ e _ children children' _ _ he _ _ ihchildren ih =>
    obtain ⟨n, -, rfl⟩ := he
    subst hsilent
    simp only [Nodes.isOpen, Bool.and_eq_true, Bool.not_eq_true'] at hopen
    obtain ⟨⟨hname, hchildren⟩, hrest⟩ := hopen
    have hchildren := ihchildren hchildren (by rw [hname]; rfl)
    have hrest := ih hrest rfl
    exact
      { content := by simp only [Nodes.textContent, hchildren.content, hrest.content]
        texts := by simp only [Nodes.texts, hchildren.texts, hrest.texts]
        linked := by
          simp only [Nodes.linkedLength, hchildren.textLength, hchildren.linked, hrest.linked]
        written := fun raw => by
          simp only [Nodes.written, hchildren.written, hrest.written]
          rfl }
  | left => cases hsilent
  | right => cases hsilent

theorem linkDensity_eq (h : ns.SameText ms) : ns.linkDensity = ms.linkDensity := by
  rw [Nodes.linkDensity, Nodes.linkDensity, h.textLength, h.linked]

theorem outerHtml_eq (he : e.Twin R e') (h : ns.SameText ms) : outerHtml e ns = outerHtml e' ms := by
  obtain ⟨n, -, rfl⟩ := he
  simp only [outerHtml, Nodes.written, h.written]
  rfl

end Twins

end Archiver
