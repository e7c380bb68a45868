import Archiver.Page.MainContent
import Archiver.Proofs.Page.Around
import Archiver.Proofs.Page.ScoreOrder

namespace Archiver

/-- An element gets points from a paragraph that is long enough and stands in it, or in one of its
children. -/
def Document.Earns (d : Document) (q : Place) : Prop :=
  ∃ p ∈ d.places, isParagraph p = true ∧ leastParagraph ≤ (trim p.children.textContent).length ∧
    (p.parent? = some q ∨ p.parent?.bind Place.parent? = some q)

section Sources

variable {d : Document} {cs : List Candidate} {p : Place} {c : Candidate}

theorem award_places {points : Float} (hc : c ∈ award points p cs) :
    c.place = p ∨ ∃ c' ∈ cs, c'.place = c.place := by
  induction cs with
  | nil => exact .inl (List.mem_singleton.mp hc ▸ rfl)
  | cons c' cs ih =>
    rw [award] at hc
    split at hc
    · rcases List.mem_cons.mp hc with rfl | hc
      · exact .inr ⟨c', List.mem_cons_self, rfl⟩
      · exact .inr ⟨c, List.mem_cons_of_mem _ hc, rfl⟩
    · rcases List.mem_cons.mp hc with rfl | hc
      · exact .inr ⟨c, List.mem_cons_self, rfl⟩
      · rcases ih hc with hp | ⟨c'', hc'', hplace⟩
        · exact .inl hp
        · exact .inr ⟨c'', List.mem_cons_of_mem _ hc'', hplace⟩

theorem awardTo_places {points : Float} {place : Option Place} (hc : c ∈ awardTo points place cs) :
    place = some c.place ∨ ∃ c' ∈ cs, c'.place = c.place := by
  cases place with
  | none => exact .inr ⟨c, hc, rfl⟩
  | some q => exact (award_places hc).imp_left fun hq => congrArg some hq.symm

theorem awardParagraph_earns (hp : p ∈ d.places) (hparagraph : isParagraph p = true)
    (h : ∀ c ∈ cs, d.Earns c.place) : ∀ c ∈ awardParagraph cs p, d.Earns c.place := by
  intro c hc
  unfold awardParagraph at hc
  dsimp only at hc
  split at hc
  · exact h c hc
  · next hlong =>
    have hlong := Nat.le_of_not_lt hlong
    rcases awardTo_places hc with hfar | ⟨c', hc', hsame⟩
    · exact ⟨p, hp, hparagraph, hlong, .inr hfar⟩
    rcases awardTo_places hc' with hnear | ⟨c'', hc'', hsame'⟩
    · exact ⟨p, hp, hparagraph, hlong, .inl (hsame ▸ hnear)⟩
    · exact hsame ▸ hsame' ▸ h c'' hc''

/-- A candidate has a paragraph that it gets points from. -/
theorem candidates_earn (d : Document) : ∀ c ∈ d.candidates, d.Earns c.place := by
  refine List.foldlRecOn (motive := fun cs : List Candidate => ∀ c ∈ cs, d.Earns c.place)
    (d.select isParagraph) awardParagraph (fun _ hc => absurd hc List.not_mem_nil) fun cs hcs p hp => ?_
  exact awardParagraph_earns (List.mem_filter.mp hp).1 (List.mem_filter.mp hp).2 hcs

/-- Points go to elements of the page alone. -/
theorem candidates_everyPlace (d : Document) : ∀ c ∈ d.candidates, c.place ∈ d.everyPlace := by
  intro c hc
  obtain ⟨p, hp, -, -, hparent | hparent⟩ := candidates_earn d c hc
  · exact (everyPlace_parent (mem_everyPlace.mpr (.inl hp)) hparent).1
  · obtain ⟨r, hr, hparent⟩ := Option.bind_eq_some_iff.mp hparent
    exact (everyPlace_parent (everyPlace_parent (mem_everyPlace.mpr (.inl hp)) hr).1 hparent).1

end Sources

section Best

variable {cs : List Candidate} {c top : Candidate} {best : Option Candidate}

/-- The better of a candidate and the best one before it. -/
def betterOf (best : Option Candidate) (c : Candidate) : Option Candidate :=
  match best with
  | none => some c
  | some b => if c.adjusted > b.adjusted then some c else some b

theorem mem_of_lead (h : top ∈ cs ∨ some c = some top) : top ∈ c :: cs := by
  rcases h with hmem | hlead
  · exact List.mem_cons_of_mem _ hmem
  · cases hlead
    exact List.mem_cons_self

/-- A candidate in the lead gives it up to a better one only, and keeps it against all that follow. -/
theorem foldl_betterOf (h : cs.foldl betterOf best = some top) :
    (top ∈ cs ∨ best = some top) ∧
      (∀ b, best = some b → b = top ∨ b.adjusted < top.adjusted) ∧
      ∀ c ∈ cs, ¬ top.adjusted < c.adjusted := by
  induction cs generalizing best with
  | nil => exact ⟨Or.inr h, fun b hb => Or.inl (Option.some.inj (hb.symm.trans h)), nofun⟩
  | cons c cs ih =>
    have hrun : cs.foldl betterOf (betterOf best c) = some top := h
    obtain ⟨hmem, hlead, hrest⟩ := ih hrun
    cases best with
    | none =>
      have hc : ¬ top.adjusted < c.adjusted := by
        rcases hlead c rfl with rfl | hless
        · exact float_lt_irrefl _
        · exact float_lt_asymm hless
      exact ⟨Or.inl (mem_of_lead hmem), nofun, List.forall_mem_cons.mpr ⟨hc, hrest⟩⟩
    | some b =>
      by_cases hmore : b.adjusted < c.adjusted
      · have hstep : betterOf (some b) c = some c := if_pos hmore
        rw [hstep] at hmem hlead
        have hc : ¬ top.adjusted < c.adjusted ∧ b.adjusted < top.adjusted := by
          rcases hlead c rfl with rfl | hless
          · exact ⟨float_lt_irrefl _, hmore⟩
          · exact ⟨float_lt_asymm hless, float_lt_trans hmore hless⟩
        refine ⟨Or.inl (mem_of_lead hmem), ?_, List.forall_mem_cons.mpr ⟨hc.1, hrest⟩⟩
        rintro b' hb
        cases hb
        exact Or.inr hc.2
      · have hstep : betterOf (some b) c = some b := if_neg hmore
        rw [hstep] at hmem hlead
        have hc : ¬ top.adjusted < c.adjusted := by
          rcases hlead b rfl with rfl | hless
          · exact hmore
          · exact fun hover => hmore (float_lt_trans hless hover)
        exact ⟨hmem.imp_left (List.mem_cons_of_mem _), hlead, List.forall_mem_cons.mpr ⟨hc, hrest⟩⟩

/-- The best of some candidates is one of them, and none is better. -/
theorem bestCandidate_some (h : bestCandidate? cs = some top) :
    top ∈ cs ∧ ∀ c ∈ cs, ¬ top.adjusted < c.adjusted := by
  have hrun : cs.foldl betterOf none = some top := h
  obtain ⟨hmem, -, hbest⟩ := foldl_betterOf hrun
  exact ⟨hmem.resolve_right nofun, hbest⟩

theorem foldl_betterOf_isSome (h : best.isSome = true) : (cs.foldl betterOf best).isSome = true := by
  induction cs generalizing best with
  | nil => exact h
  | cons c cs ih =>
    refine ih ?_
    unfold betterOf
    split
    · rfl
    · split <;> rfl

theorem bestCandidate_isSome (h : c ∈ cs) : (bestCandidate? cs).isSome = true := by
  cases cs with
  | nil => exact absurd h List.not_mem_nil
  | cons b cs =>
    have hlead : (cs.foldl betterOf (some b)).isSome = true := foldl_betterOf_isSome rfl
    exact hlead

end Best

end Archiver
