import Archiver.Proofs.Harvest.HandOver
import Archiver.Proofs.Harvest.SessionGate

namespace Archiver

/-- The address that a worker may still ask for once the run is to stop. -/
def Worker.further? (w : Worker) : Option String :=
  match w.phase with
  | .ready | .pacing _ | .backingOff _ _ => some w.url.text
  | _ => none

/-- True of a run that cannot complete any more: it has batches to come or URLs in work, or it ends
for another reason. -/
def Run.CutsOff (r : Run) : Prop :=
  match r.phase with
  | .opening later | .resting _ later => later ≠ []
  | .closing outcome | .ended (.ok outcome) => outcome ≠ .completed
  | _ => True

variable {plan : Plan} {around : Surroundings} {frontier queue : List FrontierEntry}
  {before : ProgressStore} {a b m r : Run} {episodes front back : List Episode} {x : Episode}
  {move : Move}

section Cancelled

/-- Nothing takes the wish to stop back. -/
theorem cancelled_step (hsound : a.Sound around frontier queue before)
    (made : a.step plan around move = some b) (hc : a.shared.cancelled = true) :
    b.shared.cancelled = true := by
  cases move with
  | coordinate =>
    cases coordinates_of made with
    | check phase goes =>
      unfold Run.check
      split <;> simp [hc]
    | expire phase time => rfl
    | @join last rest later phase finished =>
      cases last with
      | recorded outcome => exact hc
      | _ => rfl
    | _ => exact hc
  | work ticket heed =>
    obtain ⟨w, others, shared, -, -, ⟨w', hdeed, rfl⟩ | ⟨e, hdeed, rfl⟩⟩ := work_episode hsound made
    · cases hdeed.turn with
      | goes url ticket ahead store files heeds => exact heeds hc
      | settles => exact hc
    · cases hdeed.turn with
      | appends phase => exact hc
      | breaks ahead => exact hc
  | leave ticket =>
    obtain ⟨l, others, -, -, ⟨-, rfl⟩ | ⟨-, rfl⟩⟩ := leave_cases made
    · rfl
    · exact hc
  | stop =>
    obtain ⟨-, -, rfl⟩ := stop_made made
    rfl
  | wait time =>
    obtain ⟨-, rfl⟩ := wait_made made
    exact hc

/-- No URL is handed out once the run is to stop. -/
theorem handed_of_cancelled (made : a.step plan around move = some b)
    (hc : a.shared.cancelled = true) : (Episode.mk a move b).handed? = none := by
  by_cases hm : move = .coordinate
  · subst hm
    rcases coordinate_hands made with ⟨hq, -⟩ | ⟨entry, rest, later, -, hgoes, -⟩
    · exact handed_of_same hq.handed
    · rw [hc] at hgoes
      cases hgoes
  · exact handed_of_same (frame_of_other hm made).2.2.1

end Cancelled

section Further

variable {w w' : Worker} {heed : Bool} {s s' : Shared}

theorem further_sublist (ws : List Worker) :
    (ws.filterMap Worker.further?).Sublist (ws.map (·.url.text)) := by
  induction ws with
  | nil => exact .slnil
  | cons w ws ih =>
    cases hw : w.further? with
    | none =>
      rw [List.filterMap_cons_none hw]
      exact ih.cons _
    | some text =>
      have htext : text = w.url.text := by
        unfold Worker.further? at hw
        split at hw <;> cases hw <;> rfl
      rw [List.filterMap_cons_some hw, htext]
      exact ih.cons_cons _

/-- Where every wait takes time, a worker in a run that is to stop makes the request that it may
still make, loses its claim to one, or keeps it; it gains none. -/
theorem further_of_deed (hwait : ∀ n, 0 < plan.policy.waitMillis n) (hc : s.cancelled = true)
    (h : w.Deed plan around heed s s' (.ok w')) :
    (s'.requests = s.requests ∧ (w'.further? = w.further? ∨ w'.further? = none)) ∨
    (s'.requests = ⟨w.url.text, s.now⟩ :: s.requests ∧ w.further? = some w.url.text ∧
      w'.further? = none) := by
  cases h with
  | starts phase =>
    refine Or.inl ⟨rfl, Or.inl ?_⟩
    rw [Worker.further?, Worker.further?, phase]
  | requests phase =>
    refine Or.inr ⟨rfl, ?_, rfl⟩
    rw [Worker.further?, phase]
  | receives phase last => exact Or.inl ⟨rfl, Or.inr rfl⟩
  | backsOff phase last uncut =>
    rw [Worker.isCutShort, phase] at uncut
    simp [last, hc, hwait w.retries] at uncut
  | quits phase last cut => exact Or.inl ⟨rfl, Or.inr rfl⟩
  | wakes phase cut => exact Or.inl ⟨rfl, Or.inr rfl⟩
  | retries phase uncut =>
    refine Or.inl ⟨rfl, Or.inl ?_⟩
    rw [Worker.further?, Worker.further?, phase]
  | settles phase judged => exact Or.inl ⟨rfl, Or.inr rfl⟩

/-- What a run has asked for since it is to stop, with what its workers may still ask for. -/
def furtherOf (episodes : List Episode) (r : Run) : List String :=
  (requestsOf episodes).map (·.url) ++ r.workers.filterMap Worker.further?

theorem further_of_work (hwait : ∀ n, 0 < plan.policy.waitMillis n)
    (hsound : a.Sound around frontier queue before) (hc : a.shared.cancelled = true) {ticket : Nat}
    (made : a.step plan around (.work ticket heed) = some b) :
    (furtherOf (episodes ++ [⟨a, .work ticket heed, b⟩]) b).Subperm (furtherOf episodes a) := by
  unfold furtherOf
  obtain ⟨w, others, shared, hp, -, ⟨w', hdeed, rfl⟩ | ⟨e, hdeed, rfl⟩⟩ := work_episode hsound made
  · have hgoes := List.perm_append_singleton w' others
    rcases further_of_deed hwait hc hdeed with ⟨hsame, hkept | hnone⟩ | ⟨hcons, hsome, hnone⟩
    · rw [requestsOf_still episodes (requests_of_same hsame)]
      exact (((filterMap_of_perm hgoes hkept).trans (filterMap_of_perm hp rfl).symm).append_left
        _).subperm
    · rw [requestsOf_still episodes (requests_of_same hsame)]
      refine (List.subperm_append_left _).mpr ?_
      exact ((filterMap_of_perm hgoes hnone).subperm.trans
        (List.sublist_append_right _ _).subperm).trans (filterMap_of_perm hp rfl).symm.subperm
    · rw [requestsOf_concat, requests_of_cons rfl hcons, List.map_append, List.append_assoc]
      refine (List.Perm.append_left _ ?_).subperm
      exact ((filterMap_of_perm hgoes hnone).cons _).trans (filterMap_of_perm hp hsome).symm
  · have hsame : shared.requests = a.shared.requests := by
      cases hdeed with
      | appends phase => rfl
      | breaks phase cause => rfl
    rw [requestsOf_still episodes (requests_of_same hsame)]
    refine (List.subperm_append_left _).mpr ?_
    exact (List.sublist_append_right _ _).subperm.trans (filterMap_of_perm hp rfl).symm.subperm

theorem further_of_still (hstill : move.isWork = false) (hc : a.shared.cancelled = true)
    (made : a.step plan around move = some b) :
    furtherOf (episodes ++ [⟨a, move, b⟩]) b = furtherOf episodes a := by
  unfold furtherOf
  rw [requestsOf_still episodes (requests_of_still hstill)]
  rcases still_cases hstill made with hq | ⟨entry, rest, later, -, rfl⟩
  · rw [hq.workers]
  · have hnone := handed_of_cancelled made hc
    rw [handed_of_handOut] at hnone
    cases hnone

end Further

/-- What has become of a run since it is to stop: it still is, no URL was handed out, and its workers
have asked for no more than they might. -/
structure Run.Stopped (m : Run) (episodes : List Episode) (r : Run) : Prop where
  cancelled : r.shared.cancelled = true
  handed : handedOf episodes = []
  further : (furtherOf episodes r).Subperm (m.workers.filterMap Worker.further?)

variable {diff cancelled : Bool} {files : Files} {store : ProgressStore}

theorem stopped_of_story (hs : 0 < plan.batchSize) (hwait : ∀ n, 0 < plan.policy.waitMillis n)
    (hreaches : (Run.start plan diff cancelled frontier files store).Reaches plan around m)
    (hc : m.shared.cancelled = true) (h : m.Story plan around episodes r) :
    m.Stopped episodes r := by
  refine h.invariant (P := fun episodes r => m.Stopped episodes r)
    ⟨hc, rfl, List.Perm.subperm (.refl _)⟩ ?_
  intro episodes a b move story hstopped made
  have hsound := sound_of_reaches hs (hreaches.trans (reaches_of_story story))
  refine ⟨cancelled_step hsound made hstopped.cancelled, ?_, ?_⟩
  · rw [handedOf_still episodes (handed_of_cancelled made hstopped.cancelled), hstopped.handed]
  · cases hm : move.isWork with
    | false =>
      rw [further_of_still hm hstopped.cancelled made]
      exact hstopped.further
    | true =>
      cases move with
      | work ticket heed =>
        exact (further_of_work hwait hsound hstopped.cancelled made).trans hstopped.further
      | _ => cases hm

section Outcome

theorem cutsOff_step (h : a.CutsOff) (hc : a.shared.cancelled = true)
    (made : a.step plan around move = some b) : b.CutsOff := by
  by_cases hm : move = .coordinate
  · subst hm
    unfold Run.CutsOff at h
    have made : a.coordinate plan around = some b := made
    cases coordinates_of made with
    | complete phase =>
      rw [phase] at h
      exact absurd rfl h
    | stop phase cancelled => exact nofun
    | check phase goes =>
      rw [hc] at goes
      cases goes
    | accept phase time => trivial
    | expire phase time => exact nofun
    | allOut phase => trivial
    | cutOff phase cancelled => trivial
    | handOut phase goes room => trivial
    | @join last rest later phase finished =>
      unfold Run.CutsOff
      rw [(join_frame _ last).1, phase]
      trivial
    | giveUp => trivial
    | loseBatch => trivial
    | closeBatch phase finished workers leaving failure saved onward =>
      cases onward with
      | stops cancelled => exact nofun
      | rests goes =>
        rw [hc] at goes
        cases goes
      | opens goes =>
        rw [hc] at goes
        cases goes
    | rested phase time =>
      rw [phase] at h
      exact h
    | close phase =>
      rw [phase] at h
      exact h
    | loseRun => trivial
  · unfold Run.CutsOff at h ⊢
    rwa [(frame_of_other hm made).1]

theorem cutsOff_of_story (hs : 0 < plan.batchSize) (hwait : ∀ n, 0 < plan.policy.waitMillis n)
    (hreaches : (Run.start plan diff cancelled frontier files store).Reaches plan around m)
    (hc : m.shared.cancelled = true) (hcuts : m.CutsOff) (h : m.Story plan around episodes r) :
    r.CutsOff :=
  h.invariant (P := fun _ r => r.CutsOff) hcuts fun story hcuts made =>
    cutsOff_step hcuts (stopped_of_story hs hwait hreaches hc story).cancelled made

theorem drop_batchesOf {α : Type} {size : Nat} (hs : 0 < size) (n : Nat) (queue : List α) :
    (batchesOf size queue).drop n = batchesOf size (queue.drop (n * size)) := by
  induction n generalizing queue with
  | zero => rw [Nat.zero_mul, List.drop_zero, List.drop_zero]
  | succ n ih =>
    cases hbatches : batchesOf size queue with
    | nil =>
      have hnone : queue = [] := by rw [← batchesOf_flatten hs queue, hbatches]; rfl
      rw [hnone, List.drop_nil, List.drop_nil]
      rfl
    | cons batch later =>
      obtain ⟨-, -, rfl⟩ := batchesOf_eq_cons hs hbatches
      rw [List.drop_succ_cons, ih, List.drop_drop, Nat.succ_mul, Nat.add_comm]

/-- Before its last batch is closed a run that is to stop cannot complete. -/
theorem cutsOff_of_batches {size : Nat} {gates : List Gate} (hs : 0 < size)
    (hsound : m.Sound around frontier queue before) (hgate : m.AtGate around size queue gates)
    (hlast : m.report.batches < (batchesOf size queue).length) : m.CutsOff := by
  have hmore : batchesOf size (queue.drop (m.report.batches * size)) ≠ [] := by
    rw [← drop_batchesOf hs]
    exact fun hnone => absurd (List.drop_eq_nil_iff.mp hnone) (Nat.not_le_of_lt hlast)
  have hrest : ¬ queue.length ≤ m.report.batches * size := fun hall => by
    rw [List.drop_eq_nil_of_le hall] at hmore
    exact hmore rfl
  have hplace := hsound.place
  unfold Run.Place at hplace
  unfold Run.AtGate at hgate
  unfold Run.CutsOff
  cases hphase : m.phase with
  | opening later =>
    rw [hphase] at hgate
    exact hgate.2.2.1 ▸ hmore
  | resting due later =>
    rw [hphase] at hgate
    exact hgate.2.2.1 ▸ hmore
  | closing outcome =>
    rw [hphase] at hgate hplace
    rintro rfl
    exact hrest ((hplace.2 rfl).trans hgate.2.1)
  | ended result =>
    cases result with
    | error e => trivial
    | ok outcome =>
      rw [hphase] at hgate hplace
      rintro rfl
      exact hrest ((hplace.2.1 rfl).trans hgate.2.1)
  | _ => trivial

end Outcome

end Archiver
