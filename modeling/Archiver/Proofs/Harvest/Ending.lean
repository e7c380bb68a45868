import Mathlib.Algebra.Order.BigOperators.Group.List
import Archiver.Proofs.Harvest.RetryLaw
import Archiver.Proofs.Harvest.Story

namespace Archiver

def Move.isWait : Move → Bool
  | .wait _ => true
  | _ => false

/-- The most steps that a worker can still make. -/
def Worker.left (policy : RetryPolicy) (w : Worker) : Nat :=
  match w.phase with
  | .ready => 3 * policy.maxRetries.toNat + 5
  | .pacing _ => 3 * (policy.maxRetries.toNat - w.retries) + 4
  | .fetching _ _ => 3 * (policy.maxRetries.toNat - w.retries) + 3
  | .backingOff _ _ => 3 * (policy.maxRetries.toNat - w.retries) + 2
  | .settling _ => 2
  | .recording _ _ => 1

/-- The most moves that so many URLs can take that are still to be handed out. -/
def RetryPolicy.toCome (policy : RetryPolicy) (urls : Nat) : Nat :=
  -- one to hand it out, those of its worker, two to leave, and one to note its end
  urls * (3 * policy.maxRetries.toNat + 9)

/-- The most moves that a leaver can still make. -/
def Leaver.left (l : Leaver) : Nat := l.owesStop.toNat + 1

def RunPhase.left (policy : RetryPolicy) : RunPhase → Nat
  | .opening later => 6 * later.length + policy.toCome later.flatten.length + 3
  | .checking _ _ batch later =>
    6 * later.length + policy.toCome (batch.length + later.flatten.length) + 8
  | .admitting batch later =>
    6 * later.length + policy.toCome (batch.length + later.flatten.length) + 7
  | .joining later => 6 * later.length + policy.toCome later.flatten.length + 6
  | .resting _ later => 6 * later.length + policy.toCome later.flatten.length + 4
  | .closing _ => 2
  | .ended _ => 0

/-- The most moves but waiting that a run can still make. -/
def Run.left (policy : RetryPolicy) (r : Run) : Nat :=
  r.phase.left policy + (r.workers.map fun w => w.left policy + 3).sum +
    (r.leaving.map fun l => l.left + 1).sum + r.finished.length + (!r.stopped).toNat

/-- True of a run that can come nearer to its end. -/
def Run.GoesOn (plan : Plan) (around : Surroundings) (r : Run) : Prop :=
  ∃ s, r.Reaches plan around s ∧ s.left plan.policy < r.left plan.policy

/-- A run that comes to its end in whatever order it makes its moves: but for waiting there are only
so many of them, and from wherever it stands it can go on to its end. -/
structure Run.Terminates (plan : Plan) (around : Surroundings) (r : Run) : Prop where
  moves : ∃ most, ∀ episodes s, r.Story plan around episodes s →
    episodes.countP (!·.move.isWait) ≤ most
  ends : ∀ s, r.Reaches plan around s → ∃ t result, s.Reaches plan around t ∧ t.phase = .ended result

variable {plan : Plan} {around : Surroundings} {diff cancelled : Bool} {frontier : List FrontierEntry}
  {files : Files} {store : ProgressStore} {a b r : Run} {w w' : Worker} {heed : Bool}
  {shared shared' : Shared} {episodes : List Episode}

theorem toCome_add (policy : RetryPolicy) (m n : Nat) :
    policy.toCome (m + n) = policy.toCome m + policy.toCome n :=
  Nat.add_mul _ _ _

theorem toCome_succ (policy : RetryPolicy) (n : Nat) :
    policy.toCome (n + 1) = policy.toCome n + (3 * policy.maxRetries.toNat + 9) :=
  Nat.succ_mul _ _

theorem left_pos (policy : RetryPolicy) (w : Worker) : 0 < w.left policy := by
  unfold Worker.left
  split <;> omega

theorem left_deed {url : CanonicalUrl} {strides : List Stride}
    (h : w.Past plan around url strides)
    (hd : w.Deed plan around heed shared shared' (.ok w')) :
    w'.left plan.policy < w.left plan.policy := by
  unfold Worker.Past at h
  unfold Worker.left
  cases hd with
  | starts phase => simp only [phase]; omega
  | requests phase => simp only [phase]; omega
  | receives phase last => simp only [phase]; omega
  | backsOff phase last uncut => simp only [phase]; omega
  | quits phase last cut => simp only [phase]; omega
  | wakes phase cut =>
    -- a worker that backs off has a retry left
    rw [phase] at h
    obtain ⟨earlier, -, htried, hlast, -⟩ := h
    have hmore := (htried.concat hlast).most
    simp only [phase]
    omega
  | retries phase uncut =>
    rw [phase] at h
    obtain ⟨earlier, -, htried, hlast, -⟩ := h
    have hmore := (htried.concat hlast).most
    simp only [phase]
    omega
  | settles phase judged => simp only [phase]; omega

theorem left_coordinate (made : a.coordinate plan around = some b) :
    b.left plan.policy < a.left plan.policy := by
  unfold Run.left
  cases coordinates_of made with
  | complete phase => simp [RunPhase.left, phase]
  | stop phase cancelled => simp only [RunPhase.left, phase]; omega
  | @check batch later phase goes =>
    unfold Run.check
    split
    · simp only [RunPhase.left, phase, List.length_cons, List.flatten_cons, List.length_append]
      omega
    · simp only [RunPhase.left, phase, List.length_cons, List.flatten_cons, List.length_append]
      omega
    · simp only [RunPhase.left, phase, List.length_cons, List.flatten_cons, List.length_append]
      omega
  | accept phase time => simp only [RunPhase.left, phase]; omega
  | expire phase time => simp only [RunPhase.left, phase, Run.cancel]; omega
  | allOut phase => simp only [RunPhase.left, phase, List.length_nil, Nat.zero_add]; omega
  | cutOff phase cancelled => simp only [RunPhase.left, phase, toCome_add]; omega
  | @handOut entry rest later phase goes room =>
    have hstart : (Worker.start a.handed entry.url).left plan.policy =
        3 * plan.policy.maxRetries.toNat + 5 := rfl
    have hcome := toCome_succ plan.policy (rest.length + later.flatten.length)
    rw [Nat.add_right_comm] at hcome
    simp only [Run.handOut, RunPhase.left, phase, List.map_append, List.sum_append, List.map_singleton,
      List.sum_singleton, hstart, List.length_cons, hcome]
    omega
  | @join last rest later phase finished =>
    cases last with
    | recorded outcome => simp only [Run.join, phase, finished, List.length_cons]; omega
    | logFailed => simp only [Run.join, Run.cancel, phase, finished, List.length_cons]; omega
    | illegal move => simp only [Run.join, Run.cancel, phase, finished, List.length_cons]; omega
    | lost => simp only [Run.join, Run.cancel, phase, finished, List.length_cons]; omega
  | giveUp phase => simp only [RunPhase.left, phase]; omega
  | loseBatch phase => simp only [RunPhase.left, phase]; omega
  | closeBatch phase finished workers leaving failure saved onward =>
    cases onward with
    | stops cancelled => simp only [Run.counted, RunPhase.left, phase]; omega
    | rests goes => simp only [Run.counted, RunPhase.left, phase]; omega
    | opens goes => simp only [Run.counted, RunPhase.left, phase]; omega
  | rested phase time => simp only [RunPhase.left, phase]; omega
  | close phase => simp [RunPhase.left, phase]
  | loseRun phase => simp [RunPhase.left, phase]

theorem left_leave {ticket : Nat} (made : a.leave ticket = some b) (policy : RetryPolicy) :
    b.left policy < a.left policy := by
  obtain ⟨l, others, hp, hfind, hcase⟩ := leave_cases made
  have hsum := (hp.map fun l => l.left + 1).sum_eq
  rw [List.map_cons, List.sum_cons] at hsum
  unfold Run.left
  rcases hcase with ⟨howes, rfl⟩ | ⟨-, rfl⟩
  · have hless : ((a.leaving.map fun l => if l.ticket == ticket then l.paid else l).map
        fun l => l.left + 1).sum < (a.leaving.map fun l => l.left + 1).sum := by
      rw [List.map_map]
      refine List.sum_lt_sum _ _ (fun v _ => ?_) ⟨l, List.mem_of_find?_eq_some hfind, ?_⟩
      · rw [Function.comp_apply]
        split
        · exact Nat.succ_le_succ (Nat.succ_le_succ (Nat.zero_le _))
        · exact Nat.le_refl _
      · have hticket : l.ticket = ticket := by simpa using List.find?_some hfind
        simp [hticket, Leaver.left, Leaver.paid, howes]
    simp only [Run.pay, Run.cancel]
    omega
  · have hpos : 0 < l.left := Nat.succ_pos _
    simp only [Run.release, List.length_append, List.length_singleton]
    omega

theorem left_work (hs : 0 < plan.batchSize)
    (h : (Run.start plan diff cancelled frontier files store).Reaches plan around a) {ticket : Nat}
    (made : a.work plan around ticket heed = some b) : b.left plan.policy < a.left plan.policy := by
  have hsound := sound_of_reaches hs h
  obtain ⟨w, others, shared, hp, hcase⟩ := work_cases hsound.tickets made
  have hw : w ∈ a.workers := hp.mem_iff.mpr List.mem_cons_self
  have hsum := (hp.map fun v => v.left plan.policy + 3).sum_eq
  rw [List.map_cons, List.sum_cons] at hsum
  unfold Run.left
  rcases hcase with ⟨w', hstep, rfl⟩ | ⟨e, hstep, rfl⟩
  · obtain ⟨strides, hlife⟩ := life_of_reaches hs h w hw
    have hless := left_deed (past_of_life hlife w rfl).1 (step_deed (hsound.fits w hw) hstep)
    simp only [Run.goOn, hsum, List.map_append, List.sum_append, List.map_singleton,
      List.sum_singleton]
    omega
  · have hpos := left_pos plan.policy w
    have hleaver : (w.leaver e).left ≤ 2 := Nat.succ_le_succ (Bool.toNat_le _)
    simp only [Run.finish, hsum, List.map_append, List.sum_append, List.map_singleton,
      List.sum_singleton]
    omega

/-- Every move but waiting leaves the run fewer moves. -/
theorem left_step (hs : 0 < plan.batchSize)
    (h : (Run.start plan diff cancelled frontier files store).Reaches plan around a) {move : Move}
    (made : a.step plan around move = some b) :
    b.left plan.policy + (if !move.isWait then 1 else 0) ≤ a.left plan.policy := by
  cases move with
  | coordinate => exact left_coordinate made
  | work ticket heed => exact left_work hs h made
  | leave ticket => exact left_leave made plan.policy
  | stop =>
    obtain ⟨-, hstopped, rfl⟩ := stop_made made
    simp [Run.left, Run.cancel, Move.isWait, hstopped]
  | wait time =>
    obtain ⟨-, rfl⟩ := wait_made made
    exact Nat.le_refl _

theorem moves_le (hs : 0 < plan.batchSize)
    (h : (Run.start plan diff cancelled frontier files store).Story plan around episodes r) :
    episodes.countP (!·.move.isWait) + r.left plan.policy ≤
      (Run.start plan diff cancelled frontier files store).left plan.policy := by
  induction h with
  | start => exact Nat.le_of_eq (Nat.zero_add _)
  | step story made ih =>
    have hless := left_step hs (reaches_of_story story) made
    simp only [List.countP_append, List.countP_singleton]
    omega

theorem wait_until (plan : Plan) (around : Surroundings) (r : Run) (time : Nat) :
    ∃ s, r.Reaches plan around s ∧ time ≤ s.shared.now ∧ s.workers = r.workers ∧ s.phase = r.phase ∧
      s.left plan.policy = r.left plan.policy := by
  by_cases hnow : r.shared.now < time
  · have hmade : r.step plan around (.wait time) =
        some { r with shared := { r.shared with now := time } } := by
      simp only [Run.step, Run.wait, if_pos hnow]
    exact ⟨_, Run.Reaches.refl.step hmade, Nat.le_refl _, rfl, rfl, rfl⟩
  · exact ⟨r, .refl, Nat.le_of_not_lt hnow, rfl, rfl, rfl⟩

theorem find_ticket {ws : List Worker} (hn : (ws.map (·.ticket)).Nodup) (hw : w ∈ ws) :
    ws.find? (fun v => v.ticket == w.ticket) = some w := by
  cases hfind : ws.find? fun v => v.ticket == w.ticket with
  | none =>
    have hnone := List.find?_eq_none.mp hfind w hw
    simp at hnone
  | some v =>
    have hv := List.mem_of_find?_eq_some hfind
    have hticket : v.ticket = w.ticket := by simpa using List.find?_some hfind
    rw [List.inj_on_of_nodup_map hn hv hw hticket]

/-- A worker can go on once it has waited. -/
theorem goes_on_of_work (hs : 0 < plan.batchSize)
    (h : (Run.start plan diff cancelled frontier files store).Reaches plan around r)
    (hmem : w ∈ r.workers) : r.GoesOn plan around := by
  obtain ⟨s, hreaches, hnow, hworkers, -, hleft⟩ := wait_until plan around r (w.due?.getD 0)
  have hstep : (w.step plan around true s.shared).isSome = true := by
    refine step_of_due fun due hdue => ?_
    rwa [hdue, Option.getD_some] at hnow
  have hfind := find_ticket (sound_of_reaches hs h).tickets hmem
  rw [← hworkers] at hfind
  have hwork : (s.work plan around w.ticket true).isSome = true := by
    unfold Run.work
    rw [hfind]
    simp only
    split
    · next hnone =>
      rw [hnone] at hstep
      cases hstep
    · rfl
    · rfl
  obtain ⟨t, made⟩ := Option.isSome_iff_exists.mp hwork
  have hmove : s.step plan around (.work w.ticket true) = some t := made
  exact ⟨t, hreaches.step hmove, hleft ▸ left_work hs (h.trans hreaches) made⟩

/-- A leaver does not wait for anything. -/
theorem goes_on_of_leave {l : Leaver} (hmem : l ∈ r.leaving) : r.GoesOn plan around := by
  have hmade : (r.leave l.ticket).isSome = true := by
    unfold Run.leave
    split
    · next hnone => exact absurd (List.find?_eq_none.mp hnone l hmem) (by simp)
    · split <;> rfl
  obtain ⟨s, made⟩ := Option.isSome_iff_exists.mp hmade
  have hmove : r.step plan around (.leave l.ticket) = some s := made
  exact ⟨s, Run.Reaches.refl.step hmove, left_leave made plan.policy⟩

/-- Where a place is held, who holds it can go on. -/
theorem goes_on_of_tickets (hs : 0 < plan.batchSize)
    (h : (Run.start plan diff cancelled frontier files store).Reaches plan around r)
    (ht : r.tickets ≠ []) : r.GoesOn plan around := by
  obtain ⟨ticket, hticket⟩ := List.exists_mem_of_ne_nil _ ht
  rcases List.mem_append.mp hticket with hmem | hmem
  · obtain ⟨w, hw, -⟩ := List.mem_map.mp hmem
    exact goes_on_of_work hs h hw
  · obtain ⟨l, hl, -⟩ := List.mem_map.mp hmem
    exact goes_on_of_leave hl

theorem goes_on_of_coordinate (h : (r.coordinate plan around).isSome = true) :
    r.GoesOn plan around := by
  obtain ⟨s, made⟩ := Option.isSome_iff_exists.mp h
  have hmove : r.step plan around .coordinate = some s := made
  exact ⟨s, Run.Reaches.refl.step hmove, left_coordinate made⟩

/-- A coordinator that waits for a time goes on after it. -/
theorem goes_on_after (due : Nat)
    (h : ∀ s : Run, s.phase = r.phase → due ≤ s.shared.now → (s.coordinate plan around).isSome = true) :
    r.GoesOn plan around := by
  obtain ⟨s, hreaches, hnow, -, hphase, hleft⟩ := wait_until plan around r due
  obtain ⟨t, hnext, hless⟩ := goes_on_of_coordinate (h s hphase hnow)
  exact ⟨t, hreaches.trans hnext, hleft ▸ hless⟩

theorem goes_on (hs : 0 < plan.batchSize)
    (h : (Run.start plan diff cancelled frontier files store).Reaches plan around r)
    (he : ∀ result, r.phase ≠ .ended result) : r.GoesOn plan around := by
  have hseats := (sound_of_reaches hs h).seats
  cases phase : r.phase with
  | opening later =>
    apply goes_on_of_coordinate
    cases later with
    | nil => simp [Run.coordinate, phase]
    | cons batch later => simp only [Run.coordinate, phase]; split <;> rfl
  | checking due valid batch later =>
    refine goes_on_after due fun s hphase hnow => ?_
    simp only [Run.coordinate, hphase, phase, Nat.not_lt.mpr hnow, if_false]
    split <;> rfl
  | admitting batch later =>
    cases batch with
    | nil => exact goes_on_of_coordinate (by simp [Run.coordinate, phase])
    | cons entry rest =>
      by_cases hroom : r.places.held.length < r.places.size
      · apply goes_on_of_coordinate
        simp only [Run.coordinate, phase, Pool.admit?, hroom, if_true]
        split <;> rfl
      · -- where there is no room for one more, somebody holds a place
        refine goes_on_of_tickets hs h fun hnone => hroom ?_
        rw [hseats.held.length_eq, hnone]
        exact hseats.roomy
  | joining later =>
    cases hfinished : r.finished with
    | cons last rest => exact goes_on_of_coordinate (by simp [Run.coordinate, phase, hfinished])
    | nil =>
      by_cases hnone : r.tickets = []
      · have hnobody : r.workers = [] ∧ r.leaving = [] := by simpa [Run.tickets] using hnone
        exact goes_on_of_coordinate (by simp [Run.coordinate, phase, hfinished, hnobody])
      · exact goes_on_of_tickets hs h hnone
  | resting due later =>
    refine goes_on_after due fun s hphase hnow => ?_
    simp [Run.coordinate, hphase, phase, hnow]
  | closing outcome => exact goes_on_of_coordinate (by simp [Run.coordinate, phase])
  | ended result => exact absurd phase (he result)

/-- From wherever a run stands it can go on to its end. -/
theorem ends_of_reaches (hs : 0 < plan.batchSize)
    (h : (Run.start plan diff cancelled frontier files store).Reaches plan around r) :
    ∃ s result, r.Reaches plan around s ∧ s.phase = .ended result := by
  induction hn : r.left plan.policy using Nat.strong_induction_on generalizing r with
  | _ n ih =>
    by_cases he : ∃ result, r.phase = .ended result
    · obtain ⟨result, he⟩ := he
      exact ⟨r, result, .refl, he⟩
    · obtain ⟨s, hnext, hless⟩ := goes_on hs h fun result hr => he ⟨result, hr⟩
      obtain ⟨t, result, hreaches, hended⟩ := ih _ (hn ▸ hless) (h.trans hnext) rfl
      exact ⟨t, result, hnext.trans hreaches, hended⟩

theorem terminates_start (hs : 0 < plan.batchSize) :
    (Run.start plan diff cancelled frontier files store).Terminates plan around where
  moves := ⟨_, fun _ _ h => Nat.le_of_add_right_le (moves_le hs h)⟩
  ends := fun _ h => ends_of_reaches hs h

end Archiver
