import Archiver.Page.Metadata
import Archiver.Proofs.Page.Twins

namespace Archiver

/-- One of some levels is silent. -/
def silenced (levels : List Level) : Bool := levels.any fun l => l.element.isSilent

/-- Two ways outward through elements that differ no more than twins do. -/
inductive LevelsTwin (R : Nat → Nat → Prop) : List Level → List Level → Prop
  | nil : LevelsTwin R [] []
  | cons {l l' : Level} {above above' : List Level} : l.element.Twin R l'.element →
    Nodes.Twin R (silenced (l :: above)) l.children l'.children → LevelsTwin R above above' →
    LevelsTwin R (l :: above) (l' :: above')

/-- Two places that differ no more than twins do, in themselves and in what is around them. -/
structure Place.Twin (R : Nat → Nat → Prop) (p p' : Place) : Prop where
  levels : LevelsTwin R (p.level :: p.above) (p'.level :: p'.above)
  inPage : p.inPage = p'.inPage

/-- No silent element stands around a place or below it. -/
def Place.isOpen (p : Place) : Bool := !silenced (p.level :: p.above) && p.children.isOpen

/-- Orders that `R` ties to each other tell the same of what was made first. -/
def KeepsOrder (R : Nat → Nat → Prop) : Prop :=
  ∀ a a' b b', R a a' → R b b' → (a ≤ b ↔ a' ≤ b')

/-- Two pages that differ at most in the texts in and below silent elements, the outermost element
being none of them. -/
structure Document.TwinBy (R : Nat → Nat → Prop) (d d' : Document) : Prop where
  order : KeepsOrder R
  nodes : Nodes.Twin R false d.nodes d'.nodes
  loose : List.Forall₂ (TreeTwin R false) d.loose d'.loose
  isFragment : d.isFragment = d'.isFragment
  root : d.root.1.isSilent = false

/-- Two pages that differ at most in the texts in and below silent elements. -/
def Document.Twin (d d' : Document) : Prop := ∃ R, d.TwinBy R d'

section Places

variable {R : Nat → Nat → Prop} {p p' : Place} {ps ps' : List Place}

theorem silenced_cons (l : Level) (above : List Level) :
    silenced (l :: above) = (silenced above || l.element.isSilent) := Bool.or_comm _ _

theorem places_twin {ns ms : Nodes} {above above' : List Level}
    (h : Nodes.Twin R (silenced above) ns ms) (habove : LevelsTwin R above above') (inPage : Bool)
    (before before' : List (Element × Nodes)) :
    List.Forall₂ (Place.Twin R) (ns.places inPage above before)
      (ms.places inPage above' before') := by
  generalize hsilent : silenced above = silent at h
  induction h generalizing above above' before before' with
  | nil => exact .nil
  | text _ _ ih => exact ih habove _ _ hsilent
  | comment _ _ ih => exact ih habove _ _ hsilent
  | @element _ e e' children children' rest rest' he hchildren _ ihchildren ih =>
    subst hsilent
    have hlevels : LevelsTwin R (⟨e, children, before, rest.elements⟩ :: above)
        (⟨e', children', before', rest'.elements⟩ :: above') :=
      .cons he (by rwa [silenced_cons]) habove
    exact .cons ⟨hlevels, rfl⟩
      (List.rel_append (ihchildren hlevels _ _ (silenced_cons _ _)) (ih habove _ _ rfl))
  | left _ _ ih => exact ih habove _ _ hsilent
  | right _ _ ih => exact ih habove _ _ hsilent

theorem loosePlaces_twin {tree tree' : Element × Nodes} (h : TreeTwin R false tree tree') :
    List.Forall₂ (Place.Twin R) (loosePlaces tree) (loosePlaces tree') := by
  have hchildren : Nodes.Twin R (silenced [⟨tree.1, tree.2, [], []⟩]) tree.2 tree'.2 := by
    rw [silenced_cons]
    exact h.2
  exact places_twin hchildren (.cons h.1 hchildren .nil) _ _ _

theorem Place.Twin.element (h : p.Twin R p') : p.element.Twin R p'.element := by
  cases h.levels with
  | cons he _ _ => exact he

theorem Place.Twin.children (h : p.Twin R p') :
    Nodes.Twin R (silenced (p.level :: p.above)) p.children p'.children := by
  cases h.levels with
  | cons _ hchildren _ => exact hchildren

theorem Place.Twin.parent (h : p.Twin R p') : Option.Rel (Place.Twin R) p.parent? p'.parent? := by
  obtain ⟨level, above, inPage⟩ := p
  obtain ⟨level', above', inPage'⟩ := p'
  cases h.levels with
  | cons _ _ habove =>
    cases habove with
    | nil => exact .none
    | cons he hchildren habove => exact .some ⟨.cons he hchildren habove, h.inPage⟩

/-- The text and the markup of an open place are those of its twin. -/
theorem Place.Twin.sameText (h : p.Twin R p') (hopen : p.isOpen = true) :
    p.children.SameText p'.children := by
  simp only [Place.isOpen, Bool.and_eq_true, Bool.not_eq_true'] at hopen
  have hchildren := h.children
  rw [hopen.1] at hchildren
  exact sameText_of_open hchildren hopen.2

theorem putByOrder_twin (horder : KeepsOrder R) (hp : p.Twin R p')
    (h : List.Forall₂ (Place.Twin R) ps ps') :
    List.Forall₂ (Place.Twin R) (putByOrder p ps) (putByOrder p' ps') := by
  induction h with
  | nil => exact .cons hp .nil
  | @cons q q' ps ps' hq hps ih =>
    have hle : p.element.order ≤ q.element.order ↔ p'.element.order ≤ q'.element.order := by
      obtain ⟨n, hn, he⟩ := hp.element
      obtain ⟨m, hm, he'⟩ := hq.element
      rw [he, he']
      exact horder _ _ _ _ hn hm
    rw [putByOrder, putByOrder]
    by_cases hbefore : p.element.order ≤ q.element.order
    · rw [if_pos hbefore, if_pos (hle.mp hbefore)]
      exact .cons hp (.cons hq hps)
    · rw [if_neg hbefore, if_neg fun h => hbefore (hle.mpr h)]
      exact .cons hq ih

theorem putAll_twin (horder : KeepsOrder R) (h : List.Forall₂ (Place.Twin R) ps ps') :
    List.Forall₂ (Place.Twin R) (ps.foldr putByOrder []) (ps'.foldr putByOrder []) := by
  induction h with
  | nil => exact .nil
  | cons hp _ ih => exact putByOrder_twin horder hp ih

end Places

section Pages

variable {R : Nat → Nat → Prop} {d d' : Document}

theorem pagePlaces_twin (h : d.TwinBy R d') :
    List.Forall₂ (Place.Twin R) d.places d'.places := by
  have hnodes : List.Forall₂ (Place.Twin R) (d.nodes.places (!d.isFragment) [] [])
      (d'.nodes.places (!d.isFragment) [] []) := places_twin h.nodes .nil _ _ _
  have hloose := List.rel_flatMap h.loose fun _ _ htree => loosePlaces_twin htree
  rw [Document.places, Document.places, ← h.isFragment]
  exact putAll_twin h.order (List.rel_append hnodes hloose)

theorem select_twin (h : d.TwinBy R d') (wanted : Element → Bool)
    (hwanted : ∀ e n, wanted { e with order := n } = wanted e) :
    List.Forall₂ (Place.Twin R) (d.select fun p => wanted p.element)
      (d'.select fun p => wanted p.element) := by
  refine List.rel_filter (fun p p' hp => ?_) (pagePlaces_twin h)
  obtain ⟨n, -, he⟩ := hp.element
  change wanted p.element = true ↔ wanted p'.element = true
  rw [he, hwanted p.element n]

/-- The visible text below a place. -/
def Place.visibleText (p : Place) : List Char :=
  if p.above.any fun level => hiddenNames.contains level.element.name then []
  else ['\n', '\n'].intercalate p.children.visibleTexts

theorem anyHidden_twin {levels levels' : List Level} (h : LevelsTwin R levels levels') :
    (levels.any fun l => hiddenNames.contains l.element.name) =
      levels'.any fun l => hiddenNames.contains l.element.name := by
  induction h with
  | nil => rfl
  | cons he _ _ ih =>
    obtain ⟨n, -, he⟩ := he
    rw [List.any_cons, List.any_cons, ih, he]

theorem silenced_of_anyHidden {levels : List Level}
    (h : (levels.any fun l => hiddenNames.contains l.element.name) = false) :
    silenced levels = false := by
  rw [silenced, List.any_eq_false]
  intro l hl hsilent
  exact List.any_eq_false.mp h l hl (hidden_of_silent hsilent)

theorem visibleText_twin {p p' : Place} (h : p.Twin R p') (hname : p.element.isSilent = false) :
    p.visibleText = p'.visibleText := by
  have habove : LevelsTwin R p.above p'.above := by
    cases h.levels with
    | cons _ _ habove => exact habove
  unfold Place.visibleText
  rw [← anyHidden_twin habove]
  split
  · rfl
  · next hhidden =>
    have hchildren := h.children
    rw [silenced_cons, silenced_of_anyHidden (Bool.not_eq_true _ ▸ hhidden), Bool.false_or]
      at hchildren
    have hopen : p.level.element.isSilent = false := hname
    rw [hopen] at hchildren
    rw [visibleTexts_twin hchildren]

theorem rootText_twin (h : d.TwinBy R d') :
    d.rootPlace.visibleText = d'.rootPlace.visibleText := by
  have helements := elements_twin h.nodes
  have hroot := h.root
  unfold Document.rootPlace Document.root at *
  revert hroot
  generalize d.nodes.elements = trees at *
  generalize d'.nodes.elements = trees' at *
  cases helements with
  | nil => exact fun _ => rfl
  | @cons tree tree' _ _ htree _ =>
    intro hroot
    have hlevels : LevelsTwin R [⟨tree.1, tree.2, [], []⟩] [⟨tree'.1, tree'.2, [], []⟩] :=
      .cons htree.1 (by rw [silenced_cons]; exact htree.2) .nil
    rw [h.isFragment]
    exact visibleText_twin ⟨hlevels, rfl⟩ hroot

theorem bodyText_twin (h : d.TwinBy R d') : d.body.visibleText = d'.body.visibleText := by
  have hbodies := select_twin h (fun e => e.name == "body") fun _ _ => rfl
  have hname : ∀ p ∈ d.select fun p => p.element.name == "body", p.element.isSilent = false := by
    intro p hp
    have hp : p.element.name = "body" := beq_iff_eq.mp (List.mem_filter.mp hp).2
    rw [Element.isSilent, hp]
    rfl
  unfold Document.body
  revert hbodies hname
  generalize (d.select fun p => p.element.name == "body") = ps
  generalize (d'.select fun p => p.element.name == "body") = ps'
  intro hbodies hname
  cases hbodies with
  | nil => exact rootText_twin h
  | cons hp _ => exact visibleText_twin hp (hname _ List.mem_cons_self)

theorem plainText_twin (h : d.TwinBy R d') : d.plainText = d'.plainText := bodyText_twin h

theorem map_twin {α : Type} {f : Place → α} {ps ps' : List Place}
    (h : List.Forall₂ (Place.Twin R) ps ps')
    (hf : ∀ p ∈ ps, ∀ p', p.Twin R p' → f p = f p') : ps.map f = ps'.map f := by
  induction h with
  | nil => rfl
  | @cons p p' ps ps' hp _ ih =>
    rw [List.map_cons, List.map_cons, hf p List.mem_cons_self p' hp,
      ih fun q hq => hf q (List.mem_cons_of_mem p hq)]

theorem firstText_twin (h : d.TwinBy R d') {wanted : Element → Bool}
    (hwanted : ∀ e n, wanted { e with order := n } = wanted e)
    (hopen : ∀ p ∈ d.places, wanted p.element = true → p.isOpen = true) :
    d.firstText? wanted = d'.firstText? wanted := by
  unfold Document.firstText?
  rw [map_twin (select_twin h wanted hwanted) fun p hp p' htwin => ?_]
  obtain ⟨hmem, hpicked⟩ := List.mem_filter.mp hp
  rw [(htwin.sameText (hopen p hmem hpicked)).content]

theorem firstTime_twin (h : d.TwinBy R d') : d.firstTime? = d'.firstTime? := by
  have hvalues := map_twin (f := fun p => (p.element.attribute? "datetime").map trim)
    (select_twin h (fun e => e.name == "time") fun _ _ => rfl) fun p _ p' htwin => by
      obtain ⟨n, -, he⟩ := htwin.element
      rw [he]
      rfl
  have hkept := congrArg (List.filterMap id) hvalues
  rw [List.filterMap_map, List.filterMap_map] at hkept
  exact congrArg (List.find? (!·.isEmpty)) hkept

theorem isPremium_twin (h : d.TwinBy R d') : d.metadata.isPremium = d'.metadata.isPremium := by
  have hmarks := map_twin (f := fun p => p.element.hasAnyClass ["premium", "lock", "members-only"])
    (pagePlaces_twin h) fun p _ p' htwin => by
      obtain ⟨n, -, he⟩ := htwin.element
      rw [he]
      rfl
  have hany := congrArg (List.any · id) hmarks
  simp only [List.any_map] at hany
  exact hany

/-- Elements whose text gives a page its title or its category. -/
def Element.namesPage (e : Element) : Bool :=
  isHeadline e || e.name == "title" || e.hasAnyClass ["category", "post-category", "tag"]

/-- Title and category are read from open places alone. -/
def Document.NamesOpenly (d : Document) : Prop :=
  ∀ p ∈ d.places, p.element.namesPage = true → p.isOpen = true

theorem metadata_twin (h : d.TwinBy R d') (hopen : d.NamesOpenly) : d.metadata = d'.metadata := by
  have htext : ∀ wanted : Element → Bool, (∀ e n, wanted { e with order := n } = wanted e) →
      (∀ e, wanted e = true → e.namesPage = true) → d.firstText? wanted = d'.firstText? wanted :=
    fun wanted hwanted hnames =>
      firstText_twin h hwanted fun p hp hpicked => hopen p hp (hnames _ hpicked)
  have htitle : d.metadata.title = d'.metadata.title :=
    congrArg₂ Option.or
      (htext isHeadline (fun _ _ => rfl) fun e he => by simp only [Element.namesPage, he, Bool.true_or])
      (htext (fun e => e.name == "title") (fun _ _ => rfl) fun e he => by
        simp only [Element.namesPage, he, Bool.or_true, Bool.true_or])
  have hcategory : d.metadata.category = d'.metadata.category :=
    htext (fun e => e.hasAnyClass ["category", "post-category", "tag"]) (fun _ _ => rfl) fun e he => by
      simp only [Element.namesPage, he, Bool.or_true]
  have hdate : d.metadata.publishDate = d'.metadata.publishDate := firstTime_twin h
  rw [show d.metadata = ⟨d.metadata.title, d.metadata.category, d.metadata.isPremium,
    d.metadata.publishDate⟩ from rfl, htitle, hcategory, isPremium_twin h, hdate]

end Pages

end Archiver
