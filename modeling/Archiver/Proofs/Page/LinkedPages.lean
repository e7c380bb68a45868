import Archiver.Html.Parse
import Archiver.Page.Body
import Archiver.Proofs.Page.Candidates
import Archiver.Proofs.Page.CountShares
import Archiver.Proofs.Text.Lines

namespace Archiver

open Float.Model

/-- Every text that is not blank stands in a link. -/
def Nodes.isLinked : Nodes → Bool
  | .nil => true
  | .text content rest => content.all isBlank && rest.isLinked
  | .comment _ rest => rest.isLinked
  | .element e children rest => (e.name == "a" || children.isLinked) && rest.isLinked

/-- The element is a link or stands in one. -/
def Place.inLink (p : Place) : Bool := (p.level :: p.above).any fun l => l.element.name == "a"

/-- Every text of an element that is not blank stands in a link, one below the element or around
it. -/
def Place.isLinked (p : Place) : Bool := p.inLink || p.children.isLinked

section Lengths

variable {ns : Nodes} {tree : Element × Nodes}

theorem textLength_eq (ns : Nodes) :
    ns.textLength = (ns.texts.map fun text => (trim text).length).sum := by
  rw [Nodes.textLength, List.sum_eq_foldl, List.foldl_map]

theorem textLength_text (content : List Char) (rest : Nodes) :
    (Nodes.text content rest).textLength = (trim content).length + rest.textLength := by
  rw [textLength_eq, textLength_eq, Nodes.texts, List.map_cons, List.sum_cons]

theorem textLength_element (e : Element) (children rest : Nodes) :
    (Nodes.element e children rest).textLength = children.textLength + rest.textLength := by
  simp only [textLength_eq, Nodes.texts, List.map_append, List.sum_append]

/-- One tree has no more text than all of them. -/
theorem textLength_tree (h : tree ∈ ns.elements) : tree.2.textLength ≤ ns.textLength := by
  induction ns with
  | nil => exact absurd h List.not_mem_nil
  | text content rest ih =>
    rw [textLength_text]
    exact (ih h).trans (Nat.le_add_left _ _)
  | comment _ rest ih => exact ih h
  | element e children rest _ ih =>
    rw [textLength_element]
    rcases List.mem_cons.mp h with rfl | h
    · exact Nat.le_add_right _ _
    · exact (ih h).trans (Nat.le_add_left _ _)

/-- A text without length is blank throughout. -/
theorem blank_of_textLength (h : ns.textLength = 0) : ns.textContent.all isBlank = true := by
  induction ns with
  | nil => rfl
  | text content rest ih =>
    rw [textLength_text, Nat.add_eq_zero_iff, List.length_eq_zero_iff, trim_eq_nil_iff] at h
    rw [Nodes.textContent, List.all_append, h.1, ih h.2]
    rfl
  | comment _ rest ih => exact ih h
  | element e children rest ihchildren ih =>
    rw [textLength_element, Nat.add_eq_zero_iff] at h
    rw [Nodes.textContent, List.all_append, ihchildren h.1, ih h.2]
    rfl

/-- If every text stands in a link, links hold at least as much as there is. -/
theorem textLength_le_linkedLength (h : ns.isLinked = true) : ns.textLength ≤ ns.linkedLength := by
  induction ns with
  | nil => exact Nat.le_refl 0
  | text content rest ih =>
    rw [Nodes.isLinked, Bool.and_eq_true] at h
    rw [textLength_text, Nodes.linkedLength, trim_eq_nil_iff.mpr h.1, List.length_nil, Nat.zero_add]
    exact ih h.2
  | comment _ rest ih => exact ih h
  | element e children rest ihchildren ih =>
    rw [Nodes.isLinked, Bool.and_eq_true, Bool.or_eq_true] at h
    have hrest := ih h.2
    rw [textLength_element, Nodes.linkedLength]
    rcases h.1 with hlink | hchildren
    · rw [if_pos hlink]
      omega
    · have hbelow := ihchildren hchildren
      omega

end Lengths

section Links

variable {inPage : Bool} {above : List Level} {before : List (Element × Nodes)} {p : Place}

theorem above_places {ns : Nodes} (hp : p ∈ ns.places inPage above before) : above <:+ p.above := by
  induction ns generalizing above before with
  | nil => exact absurd hp List.not_mem_nil
  | text _ rest ih => exact ih hp
  | comment _ rest ih => exact ih hp
  | element e children rest ihchildren ih =>
    rcases List.mem_cons.mp hp with rfl | hp
    · exact List.suffix_rfl
    rcases List.mem_append.mp hp with hp | hp
    · exact (List.suffix_cons _ _).trans (ihchildren hp)
    · exact ih hp

theorem inLink_places {ns : Nodes} (hlink : (above.any fun l => l.element.name == "a") = true)
    (hp : p ∈ ns.places inPage above before) : p.inLink = true := by
  obtain ⟨l, hl, hname⟩ := List.any_eq_true.mp hlink
  exact List.any_eq_true.mpr ⟨l, List.mem_cons_of_mem _ ((above_places hp).subset hl), hname⟩

theorem isLinked_of_inLink (h : p.inLink = true) : p.isLinked = true :=
  Bool.or_eq_true_iff.mpr (.inl h)

theorem isLinked_of_children (h : p.children.isLinked = true) : p.isLinked = true :=
  Bool.or_eq_true_iff.mpr (.inr h)

theorem isLinked_places {ns : Nodes} (h : ns.isLinked = true)
    (hp : p ∈ ns.places inPage above before) : p.isLinked = true := by
  induction ns generalizing above before with
  | nil => exact absurd hp List.not_mem_nil
  | text _ rest ih => exact ih (Bool.and_eq_true_iff.mp h).2 hp
  | comment _ rest ih => exact ih h hp
  | element e children rest ihchildren ih =>
    obtain ⟨hfirst, hrest⟩ := Bool.and_eq_true_iff.mp h
    rw [Bool.or_eq_true] at hfirst
    -- An element that is no link hands the condition on to its children; below a link there is none.
    rcases List.mem_cons.mp hp with rfl | hp
    · rcases hfirst with hname | hchildren
      · exact isLinked_of_inLink (List.any_eq_true.mpr ⟨_, List.mem_cons_self, hname⟩)
      · exact isLinked_of_children hchildren
    rcases List.mem_append.mp hp with hp | hp
    · rcases hfirst with hname | hchildren
      · have hlink := inLink_places (List.any_eq_true.mpr ⟨_, List.mem_cons_self, hname⟩) hp
        exact isLinked_of_inLink hlink
      · exact ihchildren hchildren hp
    · exact ih hrest hp

/-- What holds of an element whose text stands in links holds of all elements below it. -/
theorem isLinked_below {q : Place} (h : q.isLinked = true) (hp : p ∈ q :: q.below) :
    p.isLinked = true := by
  rcases List.mem_cons.mp hp with rfl | hp
  · exact h
  · rcases Bool.or_eq_true_iff.mp h with hlink | hchildren
    · exact isLinked_of_inLink (inLink_places hlink hp)
    · exact isLinked_places hchildren hp

end Links

section Shares

variable {d : Document} {c : Candidate} {children : Nodes}

/-- A candidate has text: the paragraph that it gets points from stands in it. -/
theorem textLength_candidate (hc : c ∈ d.candidates) : c.place.children.textLength ≠ 0 := by
  obtain ⟨p, hp, -, hlong, hparent⟩ := candidates_earn d c hc
  have hp := mem_everyPlace.mpr (.inl hp)
  have hparagraph : p.children.textLength ≠ 0 := by
    intro hnone
    rw [trim_eq_nil_iff.mpr (blank_of_textLength hnone)] at hlong
    exact absurd hlong (by decide)
  have hinside : p.children.textLength ≤ c.place.children.textLength := by
    rcases hparent with hparent | hparent
    · exact textLength_tree (everyPlace_parent hp hparent).2
    · obtain ⟨q, hq, hparent⟩ := Option.bind_eq_some_iff.mp hparent
      obtain ⟨hplace, hchild⟩ := everyPlace_parent hp hq
      exact (textLength_tree hchild).trans (textLength_tree (everyPlace_parent hplace hparent).2)
  omega

theorem linkDensity_one (htext : children.textLength ≠ 0) (h : children.isLinked = true) :
    children.linkDensity = 1.0 := by
  rw [Nodes.linkDensity, if_neg htext, smaller,
    if_neg (share_not_lt htext (textLength_le_linkedLength h))]

theorem linkDensity_zero (htext : children.textLength ≠ 0) (h : children.linkedLength = 0) :
    children.linkDensity = 0.0 := by
  rw [Nodes.linkDensity, if_neg htext, h, share_none htext]
  rfl

/-- What is links throughout scores nothing. -/
theorem adjusted_lt (hdensity : c.place.children.linkDensity = 1.0)
    (hfinite : c.score.isFinite = true) : c.adjusted < leastScore := by
  have hnothing : (1.0 - 1.0 : Float) = 0.0 := rfl
  have hproduct : (c.score * 0.0).toModel.unpack =
    (pack (UnpackedFloat.mul .binary64 c.score.toModel.unpack (.zero .positive))).unpack := rfl
  rw [isFinite_eq] at hfinite
  rw [Candidate.adjusted, hdensity, hnothing, float_lt_iff, hproduct]
  cases hscore : c.score.toModel.unpack with
  | infinity s =>
    rw [hscore] at hfinite
    cases hfinite
  | notANumber =>
    rw [hscore] at hfinite
    cases hfinite
  | finite s m e hm =>
    rw [UnpackedFloat.mul]
    cases s <;> rfl
  | zero s => cases s <;> rfl

end Shares

section Pages

variable {d : Document}

/-- The main content is missing just when no candidate is good enough. -/
theorem mainContent_isSome : d.mainContent?.isSome = true ↔
    ∃ top, bestCandidate? d.candidates = some top ∧ ¬ top.adjusted < leastScore := by
  unfold Document.mainContent?
  dsimp only
  split
  · next hnone => simp [hnone]
  · next top hbest =>
    rw [hbest]
    split
    · next hless => simp [hless]
    · next hless => simp [hless]

end Pages

/-- On a page whose texts all stand in links, a candidate of the body that stands in no link is links
throughout, and scores nothing. But the share counts the links below a candidate alone: it is zero if
there is none, also for one that is a link or stands in one. So the page has main content if such a
candidate scores well, and only if one does that stands in a link or outside the body, or that has no
finite score. -/
theorem linked_page {d : Document} (h : d.body.isLinked = true) :
    (∀ c ∈ d.candidates,
      (c.place ∈ d.body :: d.body.below → c.place.inLink = false →
        c.place.children.linkDensity = 1.0) ∧
      (c.place.children.linkedLength = 0 → c.place.children.linkDensity = 0.0) ∧
      (leastScore ≤ c.adjusted → d.mainContent?.isSome = true)) ∧
    (d.mainContent?.isSome = true → ∃ c ∈ d.candidates, ¬ c.adjusted < leastScore ∧
      (c.place.inLink = true ∨ c.place ∉ d.body :: d.body.below ∨ c.score.isFinite = false)) := by
  have hshare : ∀ c ∈ d.candidates, c.place ∈ d.body :: d.body.below → c.place.inLink = false →
      c.place.children.linkDensity = 1.0 := by
    intro c hc hplace hlink
    have hlinked := isLinked_below h hplace
    rw [Place.isLinked, hlink, Bool.false_or] at hlinked
    exact linkDensity_one (textLength_candidate hc) hlinked
  refine ⟨fun c hc => ⟨hshare c hc, linkDensity_zero (textLength_candidate hc), fun hgood => ?_⟩,
    fun hsome => ?_⟩
  · obtain ⟨top, htop⟩ := Option.isSome_iff_exists.mp (bestCandidate_isSome hc)
    refine mainContent_isSome.mpr ⟨top, htop, fun hless => ?_⟩
    exact (bestCandidate_some htop).2 c hc (float_lt_of_lt_of_le hless hgood)
  · obtain ⟨top, htop, hgood⟩ := mainContent_isSome.mp hsome
    have hmem := (bestCandidate_some htop).1
    refine ⟨top, hmem, hgood, ?_⟩
    by_contra hnot
    simp only [not_or, not_not, Bool.not_eq_true, Bool.not_eq_false] at hnot
    obtain ⟨hlink, hplace, hfinite⟩ := hnot
    exact hgood (adjusted_lt (hshare top hmem hplace hlink) hfinite)

deriving instance DecidableEq for Level, Place

def teaser : String := "Read more about the old harbour and its boats."

/-- A page with a title, as it is read; `marks` are the attributes of its outermost element. -/
def harbourPage (marks : List Attribute) (body : Nodes) : Document where
  nodes :=
    .element ⟨1, .html, "html", marks⟩
      (.element ⟨2, .html, "head", []⟩
        (.element ⟨3, .html, "title", []⟩ (.text "News from the harbour and the sea".toList .nil) .nil)
        (.element ⟨5, .html, "body", []⟩ body .nil))
      .nil
  loose := []
  isFragment := false

def linkElement (order : Nat) : Element := ⟨order, .html, "a", [⟨.plain, "href", "x".toList⟩]⟩

def regionElement (order : Nat) : Element :=
  ⟨order, .html, "div", [⟨.plain, "class", "content".toList⟩]⟩

def paragraphElement (order : Nat) : Element := ⟨order, .html, "p", []⟩

def linkInParagraph : Document :=
  harbourPage [] (.element (regionElement 6)
    (.element (paragraphElement 7)
      (.element (linkElement 8) (.text teaser.toList .nil) .nil) .nil) .nil)

def linkAroundRegion : Document :=
  harbourPage [] (.element (linkElement 6)
    (.element (regionElement 7)
      (.element (paragraphElement 8) (.text teaser.toList .nil) .nil) .nil) .nil)

def linkOnMarkedPage : Document :=
  harbourPage [⟨.plain, "class", "content".toList⟩, ⟨.plain, "id", "page".toList⟩]
    (.element (paragraphElement 6)
      (.element (linkElement 7) (.text teaser.toList .nil) .nil) .nil)

theorem linked_page_inside :
    linkInParagraph.body.isLinked = true ∧ linkInParagraph.candidates.length = 2 ∧
      (∀ c ∈ linkInParagraph.candidates, c.place.children.linkDensity = 1.0) ∧
      linkInParagraph.mainContent? = none := by
  have hlinked : linkInParagraph.body.isLinked = true := by decide +kernel
  have hinside : ∀ c ∈ linkInParagraph.candidates,
      c.place ∈ linkInParagraph.body :: linkInParagraph.body.below ∧ c.place.inLink = false ∧
        c.score.isFinite = true := by
    decide +kernel
  obtain ⟨hshares, hsome⟩ := linked_page hlinked
  refine ⟨hlinked, by decide +kernel, fun c hc => ?_, ?_⟩
  · obtain ⟨hplace, hlink, -⟩ := hinside c hc
    exact (hshares c hc).1 hplace hlink
  · rw [← Option.not_isSome_iff_eq_none]
    intro hcontent
    obtain ⟨c, hc, -, hlink | hplace | hfinite⟩ := hsome hcontent
    · exact absurd hlink (by rw [(hinside c hc).2.1]; decide)
    · exact hplace (hinside c hc).1
    · exact absurd hfinite (by rw [(hinside c hc).2.2]; decide)

/-- Two pages that are all links have main content: a region in a link, and a page whose outermost
element is taken for a region, with its title. -/
theorem links_taken_for_content :
    parseDocument ("<title>News from the harbour and the sea</title>" ++
        "<a href=x><div class=content><p>" ++ teaser).toList = linkAroundRegion ∧
      linkAroundRegion.body.isLinked = true ∧
      linkAroundRegion.mainContent? =
        some ("<div class=\"content\"><p>" ++ teaser ++ "</p></div>").toList ∧
      parseDocument ("<html class=content id=page><title>News from the harbour and the sea</title>" ++
        "<p><a href=x>" ++ teaser).toList = linkOnMarkedPage ∧
      linkOnMarkedPage.body.isLinked = true ∧
      linkOnMarkedPage.mainContent? =
        some (outerHtml linkOnMarkedPage.root.1 linkOnMarkedPage.root.2) :=
  ⟨by decide +kernel, by decide +kernel, by decide +kernel, by decide +kernel, by decide +kernel,
    by decide +kernel⟩

end Archiver
