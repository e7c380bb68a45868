import Archiver.Proofs.Page.Candidates
import Archiver.Proofs.Page.TwinPages

namespace Archiver

/-- No silent element stands around or in a paragraph, nor around or in an element that paragraphs
give points to; the order tells which element that is. -/
structure Document.ScoredOpenly (d : Document) : Prop where
  paragraphs : ∀ p ∈ d.places, isParagraph p = true → p.isOpen = true
  candidates : ∀ p ∈ d.everyPlace,
    (∃ c ∈ d.candidates, c.place.element.order = p.element.order) → p.isOpen = true

/-- Two candidates for twins of one another that have the same score. -/
structure Candidate.Twin (R : Nat → Nat → Prop) (c c' : Candidate) : Prop where
  place : c.place.Twin R c'.place
  score : c.score = c'.score

/-- Two such candidates that are open. -/
def Candidate.OpenTwin (R : Nat → Nat → Prop) (c c' : Candidate) : Prop :=
  c.place.isOpen = true ∧ c.Twin R c'

/-- An element with a place in the choice of siblings: a candidate, or else a paragraph. -/
def Element.mayJoin (candidates : List Candidate) (e : Element) : Prop :=
  e.name = "p" ∨ ∃ c ∈ candidates, c.place.element.order = e.order

/-- What a tree adds to the content beside a winner. -/
def besideWinner (candidates : List Candidate) (threshold : Float) (top : Candidate)
    (tree : Element × Nodes) : List Char :=
  if tree.1.order == top.place.element.order || joinsContent candidates threshold tree.1 tree.2 then
    outerHtml tree.1 tree.2
  else []

section Scores

variable {R : Nat → Nat → Prop} {cs cs' : List Candidate} {p p' : Place}

theorem order_beq (horder : KeepsOrder R) {e e' f f' : Element} (he : e.Twin R e')
    (hf : f.Twin R f') : (e.order == f.order) = (e'.order == f'.order) := by
  obtain ⟨n, hn, rfl⟩ := he
  obtain ⟨m, hm, rfl⟩ := hf
  have hle := horder _ _ _ _ hn hm
  have hge := horder _ _ _ _ hm hn
  rw [Bool.eq_iff_iff, beq_iff_eq, beq_iff_eq]
  simp only
  omega

theorem award_twin (horder : KeepsOrder R) (points : Float) (hp : p.Twin R p')
    (h : List.Forall₂ (Candidate.Twin R) cs cs') :
    List.Forall₂ (Candidate.Twin R) (award points p cs) (award points p' cs') := by
  induction h with
  | nil =>
    obtain ⟨n, -, he⟩ := hp.element
    refine .cons ⟨hp, ?_⟩ .nil
    change p.element.startScore + points = p'.element.startScore + points
    rw [he]
    rfl
  | @cons c c' cs cs' hc hcs ih =>
    rw [award, award, order_beq horder hc.place.element hp.element]
    split
    · exact .cons ⟨hc.place, congrArg (· + points) hc.score⟩ hcs
    · exact .cons hc ih

theorem awardTo_twin (horder : KeepsOrder R) (points : Float) {place place' : Option Place}
    (hplace : Option.Rel (Place.Twin R) place place')
    (h : List.Forall₂ (Candidate.Twin R) cs cs') :
    List.Forall₂ (Candidate.Twin R) (awardTo points place cs) (awardTo points place' cs') := by
  cases hplace with
  | none => exact h
  | some hp => exact award_twin horder points hp h

theorem bind_parent {place place' : Option Place}
    (h : Option.Rel (Place.Twin R) place place') :
    Option.Rel (Place.Twin R) (place.bind Place.parent?) (place'.bind Place.parent?) := by
  cases h with
  | none => exact .none
  | some hp => exact hp.parent

theorem awardParagraph_twin (horder : KeepsOrder R) (hp : p.Twin R p') (hopen : p.isOpen = true)
    (h : List.Forall₂ (Candidate.Twin R) cs cs') :
    List.Forall₂ (Candidate.Twin R) (awardParagraph cs p) (awardParagraph cs' p') := by
  have htext := (hp.sameText hopen).content
  unfold awardParagraph
  simp only [htext]
  split
  · exact h
  · exact awardTo_twin horder _ (bind_parent hp.parent) (awardTo_twin horder _ hp.parent h)

theorem candidates_twin {d d' : Document} (h : d.TwinBy R d') (hopen : d.ScoredOpenly) :
    List.Forall₂ (Candidate.OpenTwin R) d.candidates d'.candidates := by
  have hselect : List.Forall₂ (Place.Twin R) (d.select isParagraph) (d'.select isParagraph) :=
    select_twin h (fun e => ["p", "pre", "blockquote"].contains e.name) fun _ _ => rfl
  have hparagraphs : ∀ p ∈ d.select isParagraph, p.isOpen = true := fun p hp =>
    hopen.paragraphs p (List.mem_filter.mp hp).1 (List.mem_filter.mp hp).2
  have hopenSelect := (List.forall₂_and_left _ _).mpr ⟨hparagraphs, hselect⟩
  have hcandidates : ∀ c ∈ d.candidates, c.place.isOpen = true := fun c hc =>
    hopen.candidates c.place (candidates_everyPlace d c hc) ⟨c, hc, rfl⟩
  refine (List.forall₂_and_left _ _).mpr ⟨hcandidates, ?_⟩
  exact List.rel_foldl (fun _ _ hcs _ _ hp => awardParagraph_twin h.order hp.2 hp.1 hcs) .nil
    hopenSelect

theorem adjusted_twin {c c' : Candidate} (h : c.OpenTwin R c') : c.adjusted = c'.adjusted := by
  rw [Candidate.adjusted, Candidate.adjusted, h.2.score, linkDensity_eq (h.2.place.sameText h.1)]

/-- Lists whose members have the same adjusted scores have the same winner. -/
theorem bestCandidate_rel {S : Candidate → Candidate → Prop}
    (hadjusted : ∀ c c', S c c' → c.adjusted = c'.adjusted) (h : List.Forall₂ S cs cs') :
    Option.Rel S (bestCandidate? cs) (bestCandidate? cs') := by
  refine List.rel_foldl (fun best best' hbest c c' hc => ?_) .none h
  cases hbest with
  | none => exact .some hc
  | some hb =>
    simp only [hadjusted _ _ hc, hadjusted _ _ hb]
    split
    · exact .some hc
    · exact .some hb

end Scores

section Siblings

variable {R : Nat → Nat → Prop} {cs cs' : List Candidate} {e e' : Element} {ns ms : Nodes}

/-- The candidates for an element and for its twin score the same. -/
theorem find_twin (horder : KeepsOrder R) (he : e.Twin R e')
    (h : List.Forall₂ (Candidate.OpenTwin R) cs cs') :
    (cs.find? fun c => c.place.element.order == e.order).map (·.score) =
      (cs'.find? fun c => c.place.element.order == e'.order).map (·.score) := by
  induction h with
  | nil => rfl
  | cons hc _ ih =>
    rw [List.find?_cons, List.find?_cons, order_beq horder hc.2.place.element he]
    split
    · exact congrArg some hc.2.score
    · exact ih

theorem joinsContent_twin (horder : KeepsOrder R) (threshold : Float) (he : e.Twin R e')
    (htext : ns.SameText ms) (h : List.Forall₂ (Candidate.OpenTwin R) cs cs') :
    joinsContent cs threshold e ns = joinsContent cs' threshold e' ms := by
  have hscore := find_twin horder he h
  obtain ⟨n, -, rfl⟩ := he
  unfold joinsContent
  rw [linkDensity_eq htext, htext.content]
  revert hscore
  generalize cs.find? (fun c => c.place.element.order == e.order) = found
  generalize cs'.find? (fun c => c.place.element.order == n) = found'
  intro hscore
  match found, found', hscore with
  | none, none, _ => rfl
  | some c, some c', hscore =>
    have hscore : c.score = c'.score := Option.some.inj hscore
    simp only [hscore]

theorem joinsContent_of_not_mayJoin (threshold : Float) (hjoin : ¬ e.mayJoin cs) :
    joinsContent cs threshold e ns = false := by
  have hname : (e.name == "p") = false := beq_eq_false_iff_ne.mpr fun hname => hjoin (.inl hname)
  have hfind : cs.find? (fun c => c.place.element.order == e.order) = none :=
    List.find?_eq_none.mpr fun c hc heq => hjoin (.inr ⟨c, hc, beq_iff_eq.mp heq⟩)
  simp only [joinsContent, hfind, hname, Bool.false_and]

theorem mayJoin_iff_find (cs : List Candidate) (e : Element) :
    e.mayJoin cs ↔ e.name = "p" ∨
      ((cs.find? fun c => c.place.element.order == e.order).map (·.score)).isSome = true := by
  simp only [Element.mayJoin, Option.isSome_map, List.find?_isSome, beq_iff_eq]

theorem mayJoin_twin (horder : KeepsOrder R) (he : e.Twin R e')
    (h : List.Forall₂ (Candidate.OpenTwin R) cs cs') : e.mayJoin cs ↔ e'.mayJoin cs' := by
  rw [mayJoin_iff_find, mayJoin_iff_find, find_twin horder he h]
  obtain ⟨n, -, rfl⟩ := he
  exact Iff.rfl

/-- Trees are printed the same beside a winner; the text of one that cannot join has no part in it. -/
theorem besideWinner_twin (horder : KeepsOrder R) (threshold : Float) {top top' : Candidate}
    (htop : top.OpenTwin R top') (hmem : top ∈ cs) {tree tree' : Element × Nodes}
    (htree : TreeTwin R false tree tree')
    (hopen : tree.1.mayJoin cs → tree.1.isSilent = false ∧ tree.2.isOpen = true)
    (h : List.Forall₂ (Candidate.OpenTwin R) cs cs') :
    besideWinner cs threshold top tree = besideWinner cs' threshold top' tree' := by
  have hsame := order_beq horder htree.1 htop.2.place.element
  unfold besideWinner
  by_cases hjoin : tree.1.mayJoin cs
  · obtain ⟨hname, hbelow⟩ := hopen hjoin
    have hchildren := htree.2
    rw [hname] at hchildren
    have htext := sameText_of_open hchildren hbelow
    rw [hsame, joinsContent_twin horder threshold htree.1 htext h, outerHtml_eq htree.1 htext]
  · have hother : (tree.1.order == top.place.element.order) = false :=
      beq_eq_false_iff_ne.mpr fun horders => hjoin (.inr ⟨top, hmem, horders.symm⟩)
    have hjoin' : ¬ tree'.1.mayJoin cs' := fun hjoin' =>
      hjoin ((mayJoin_twin horder htree.1 h).mpr hjoin')
    rw [← hsame, hother, joinsContent_of_not_mayJoin threshold hjoin,
      joinsContent_of_not_mayJoin threshold hjoin']
    rfl

theorem siblings_twin (horder : KeepsOrder R) (threshold : Float) {top top' : Candidate}
    (htop : top.OpenTwin R top') (hmem : top ∈ cs) {trees trees' : List (Element × Nodes)}
    (htrees : List.Forall₂ (TreeTwin R false) trees trees')
    (hopen : ∀ tree ∈ trees, tree.1.mayJoin cs → tree.1.isSilent = false ∧ tree.2.isOpen = true)
    (h : List.Forall₂ (Candidate.OpenTwin R) cs cs') :
    trees.flatMap (besideWinner cs threshold top) =
      trees'.flatMap (besideWinner cs' threshold top') := by
  induction htrees with
  | nil => rfl
  | cons htree _ ih =>
    rw [List.flatMap_cons, List.flatMap_cons, ih fun t ht => hopen t (List.mem_cons_of_mem _ ht),
      besideWinner_twin horder threshold htop hmem htree (hopen _ List.mem_cons_self) h]

theorem joinSiblings_twin (horder : KeepsOrder R) {top top' : Candidate}
    (htop : top.OpenTwin R top') (hmem : top ∈ cs)
    (hopen : ∀ q, top.place.parent? = some q → ∀ tree ∈ q.children.elements,
      tree.1.mayJoin cs → tree.1.isSilent = false ∧ tree.2.isOpen = true)
    (h : List.Forall₂ (Candidate.OpenTwin R) cs cs') : joinSiblings cs top = joinSiblings cs' top' := by
  have hparent := htop.2.place.parent
  have haround : ∀ q, top.place.parent? = some q → silenced (q.level :: q.above) = false :=
    fun q hq => by
      have htopOpen := htop.1
      simp only [Place.isOpen, Bool.and_eq_true, Bool.not_eq_true', silenced_cons top.place.level,
        Bool.or_eq_false_iff, above_of_parent hq] at htopOpen
      exact htopOpen.1.1
  unfold joinSiblings
  rw [adjusted_twin htop]
  revert hparent hopen haround
  generalize top.place.parent? = parent
  generalize top'.place.parent? = parent'
  intro hopen hparent haround
  cases hparent with
  | none => exact outerHtml_eq htop.2.place.element (htop.2.place.sameText htop.1)
  | @some q q' hq =>
    have hchildren := hq.children
    rw [haround q rfl] at hchildren
    exact siblings_twin horder _ htop hmem (elements_twin hchildren) (hopen q rfl) h

/-- What may join a winner is open. -/
theorem joining_open {d : Document} (hopen : d.ScoredOpenly) {top : Candidate}
    (htop : top ∈ d.candidates) {q : Place} (hq : top.place.parent? = some q) :
    ∀ tree ∈ q.children.elements, tree.1.mayJoin d.candidates →
      tree.1.isSilent = false ∧ tree.2.isOpen = true := by
  intro tree htree hjoin
  have hqplace := (everyPlace_parent (candidates_everyPlace d top htop) hq).1
  obtain ⟨r, hr, helement, hbelow⟩ := everyPlace_children hqplace htree
  have hropen : r.isOpen = true := by
    rcases hjoin with hname | hcandidate
    · refine hopen.paragraphs r hr ?_
      rw [isParagraph, helement, hname]
      rfl
    · exact hopen.candidates r (mem_everyPlace.mpr (.inl hr)) (helement ▸ hcandidate)
  simp only [Place.isOpen, Bool.and_eq_true, Bool.not_eq_true', silenced_cons,
    Bool.or_eq_false_iff] at hropen
  exact ⟨helement ▸ hropen.1.2, hbelow ▸ hropen.2⟩

/-- The main content of a page whose paragraphs stand apart from silent elements is that of its
twin. -/
theorem mainContent_twin {d d' : Document} (h : d.TwinBy R d') (hopen : d.ScoredOpenly) :
    d.mainContent? = d'.mainContent? := by
  have hcandidates := candidates_twin h hopen
  have hmembers : List.Forall₂ (fun c c' => c ∈ d.candidates ∧ c.OpenTwin R c') d.candidates
      d'.candidates := (List.forall₂_and_left _ _).mpr ⟨fun _ hc => hc, hcandidates⟩
  have hbest := bestCandidate_rel (fun _ _ hc => adjusted_twin hc.2) hmembers
  simp only [Document.mainContent?]
  generalize bestCandidate? d.candidates = best at *
  generalize bestCandidate? d'.candidates = best' at *
  cases hbest with
  | none => rfl
  | some htop =>
    obtain ⟨hmem, htop⟩ := htop
    simp only [adjusted_twin htop, joinSiblings_twin h.order htop hmem
      (fun q hq => joining_open hopen hmem hq) hcandidates]

end Siblings

end Archiver
