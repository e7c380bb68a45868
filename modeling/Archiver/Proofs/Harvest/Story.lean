import Archiver.Proofs.Harvest.BatchBooks

namespace Archiver

/-- One move of a run, and how the run stood before and after it. -/
structure Episode where
  before : Run
  move : Move
  after : Run

/-- The moves in which one run comes from another, in their order. -/
inductive Run.Story (plan : Plan) (around : Surroundings) (r : Run) : List Episode → Run → Prop where
  | start : Story plan around r [] r
  | step {episodes : List Episode} {a b : Run} {move : Move}
      (story : Story plan around r episodes a) (made : a.step plan around move = some b) :
      Story plan around r (episodes ++ [⟨a, move, b⟩]) b

/-- The requests that workers make in a move. -/
def Episode.requests (x : Episode) : List Request :=
  if x.move.isWork then
    x.after.shared.requests.take
      (x.after.shared.requests.length - x.before.shared.requests.length)
  else []

/-- The worker that makes a step in a move. -/
def Episode.worker? (x : Episode) : Option Worker :=
  match x.move with
  | .work ticket _ => x.before.workers.find? fun w => w.ticket == ticket
  | _ => none

/-- The record that a worker appends to the log in a move. -/
def Episode.record? (x : Episode) : Option ProgressRecord :=
  (x.worker?.bind Worker.record?).filter fun record =>
    x.after.shared.store.log.written == x.before.shared.store.log.written ++ record.lineBytes

def requestsOf (episodes : List Episode) : List Request := episodes.flatMap Episode.requests

def recordsOf (episodes : List Episode) : List ProgressRecord := episodes.filterMap Episode.record?

variable {plan : Plan} {around : Surroundings} {r s t : Run} {episodes front back : List Episode}
  {x : Episode}

theorem filterMap_concat {α β : Type} (f : α → Option β) (l : List α) (a : α) :
    (l ++ [a]).filterMap f = l.filterMap f ++ (f a).toList := by
  rw [List.filterMap_append]
  cases ha : f a <;> simp [ha]

theorem filterMap_of_perm {α β : Type} {f : α → Option β} {l others : List α} {a : α}
    {value : Option β} (hp : l.Perm (a :: others)) (ha : f a = value) :
    (l.filterMap f).Perm (value.toList ++ others.filterMap f) := by
  refine (hp.filterMap f).trans ?_
  cases value <;> simp [ha]

theorem requestsOf_concat (episodes : List Episode) (x : Episode) :
    requestsOf (episodes ++ [x]) = requestsOf episodes ++ x.requests := by
  rw [requestsOf, List.flatMap_append, List.flatMap_singleton, requestsOf]

theorem recordsOf_concat (episodes : List Episode) (x : Episode) :
    recordsOf (episodes ++ [x]) = recordsOf episodes ++ x.record?.toList := filterMap_concat _ _ _

theorem requestsOf_append (front back : List Episode) :
    requestsOf (front ++ back) = requestsOf front ++ requestsOf back := List.flatMap_append

theorem recordsOf_append (front back : List Episode) :
    recordsOf (front ++ back) = recordsOf front ++ recordsOf back := List.filterMap_append

theorem requestsOf_still (episodes : List Episode) (h : x.requests = []) :
    requestsOf (episodes ++ [x]) = requestsOf episodes := by
  rw [requestsOf_concat, h, List.append_nil]

theorem recordsOf_still (episodes : List Episode) (h : x.record? = none) :
    recordsOf (episodes ++ [x]) = recordsOf episodes := by
  rw [recordsOf_concat, h, Option.toList_none, List.append_nil]

theorem reaches_of_story (h : r.Story plan around episodes s) : r.Reaches plan around s := by
  induction h with
  | start => exact .refl
  | step _ made ih => exact ih.step made

/-- A story that is cut at one of its moves has the move between its two parts. -/
theorem Run.Story.cut (h : r.Story plan around (front ++ x :: back) s) :
    r.Story plan around front x.before ∧ x.before.step plan around x.move = some x.after ∧
      x.after.Story plan around back s := by
  generalize he : front ++ x :: back = episodes at h
  induction h generalizing back with
  | start => exact absurd he (List.append_ne_nil_of_right_ne_nil _ (List.cons_ne_nil _ _))
  | @step episodes a b move story made ih =>
    rcases List.eq_nil_or_concat back with rfl | ⟨middle, last, rfl⟩
    · obtain ⟨rfl, hlast⟩ := List.append_inj' he rfl
      cases hlast
      exact ⟨story, made, .start⟩
    · rw [List.concat_eq_append, ← List.cons_append, ← List.append_assoc] at he
      obtain ⟨hfront, hlast⟩ := List.append_inj' he rfl
      cases hlast
      obtain ⟨hbefore, hmade, hafter⟩ := ih hfront
      rw [List.concat_eq_append]
      exact ⟨hbefore, hmade, hafter.step made⟩

theorem Run.Story.trans (h : r.Story plan around front s) (ht : s.Story plan around back t) :
    r.Story plan around (front ++ back) t := by
  induction ht with
  | start => rwa [List.append_nil]
  | step _ made ih =>
    rw [← List.append_assoc]
    exact ih.step made

theorem Run.Story.split (h : r.Story plan around (front ++ back) s) :
    ∃ m, r.Story plan around front m ∧ m.Story plan around back s := by
  generalize he : front ++ back = episodes at h
  induction h generalizing back with
  | start =>
    obtain ⟨rfl, rfl⟩ := List.append_eq_nil_iff.mp he
    exact ⟨r, .start, .start⟩
  | @step episodes a b move story made ih =>
    rcases List.eq_nil_or_concat back with rfl | ⟨middle, last, rfl⟩
    · rw [List.append_nil] at he
      subst he
      exact ⟨b, story.step made, .start⟩
    · rw [List.concat_eq_append, ← List.append_assoc] at he
      obtain ⟨hfront, hlast⟩ := List.append_inj' he rfl
      cases hlast
      obtain ⟨m, hm, hback⟩ := ih hfront
      rw [List.concat_eq_append]
      exact ⟨m, hm, hback.step made⟩

/-- What holds at the start and is kept by every move that can follow holds of every story. -/
theorem Run.Story.invariant {P : List Episode → Run → Prop} (h : r.Story plan around episodes s)
    (hr : P [] r)
    (hp : ∀ {episodes a b move}, r.Story plan around episodes a → P episodes a →
      a.step plan around move = some b → P (episodes ++ [⟨a, move, b⟩]) b) : P episodes s := by
  induction h with
  | start => exact hr
  | step story made ih => exact hp story ih made

theorem requests_of_still (h : x.move.isWork = false) : x.requests = [] := by
  rw [Episode.requests, h]
  rfl

theorem worker_of_still (h : x.move.isWork = false) : x.worker? = none := by
  unfold Episode.worker?
  split
  · next hm =>
    rw [hm] at h
    cases h
  · rfl

theorem record_of_still (h : x.move.isWork = false) : x.record? = none := by
  rw [Episode.record?, worker_of_still h]
  rfl

theorem requestsOf_eq_nil (h : ∀ x ∈ episodes, x.move.isWork = false) : requestsOf episodes = [] :=
  List.flatMap_eq_nil_iff.mpr fun x hx => requests_of_still (h x hx)

theorem recordsOf_eq_nil (h : ∀ x ∈ episodes, x.move.isWork = false) : recordsOf episodes = [] :=
  List.filterMap_eq_nil_iff.mpr fun x hx => record_of_still (h x hx)

/-- True of a run that has its outcome after so many batches and nobody in work, or that has lost it
over its last checkpoint. -/
structure Run.IsOver (around : Surroundings) (outcome : RunOutcome) (batches : Nat) (r : Run) : Prop where
  workers : r.workers = []
  leaving : r.leaving = []
  counted : r.report.batches = batches
  phase : r.phase = .closing outcome ∨ r.phase = .ended (.ok outcome) ∨
    r.phase = .ended (.error .logFailed) ∧ around.flushFault batches ≠ none

variable {outcome : RunOutcome} {batches : Nat} {move : Move}

theorem Run.IsOver.coordinate (h : s.IsOver around outcome batches)
    (made : s.coordinate plan around = some t) :
    t.IsOver around outcome batches ∧ t.shared.cancelled = s.shared.cancelled := by
  rcases h.phase with hphase | hphase | ⟨hphase, -⟩
  · cases coordinates_of made with
    | close phase =>
      cases hphase.symm.trans phase
      exact ⟨⟨h.workers, h.leaving, h.counted, Or.inr (Or.inl rfl)⟩, rfl⟩
    | @loseRun _ fault phase fails =>
      refine ⟨⟨h.workers, h.leaving, h.counted, Or.inr (Or.inr ⟨rfl, ?_⟩)⟩, rfl⟩
      rw [← h.counted, fails]
      exact Option.some_ne_none _
    | _ phase => cases hphase.symm.trans phase
  · simp only [Run.coordinate, hphase] at made
    cases made
  · simp only [Run.coordinate, hphase] at made
    cases made

theorem Run.IsOver.step (h : s.IsOver around outcome batches)
    (made : s.step plan around move = some t) :
    t.IsOver around outcome batches ∧ move.isWork = false ∧
      (s.shared.cancelled = true → t.shared.cancelled = true) := by
  cases move with
  | coordinate =>
    obtain ⟨hover, hcancelled⟩ := h.coordinate made
    exact ⟨hover, rfl, fun hc => hcancelled.trans hc⟩
  | work ticket heed =>
    obtain ⟨w, shared, hw, -⟩ := work_found made
    rw [h.workers] at hw
    cases hw
  | leave ticket =>
    obtain ⟨l, others, hp, -⟩ := leave_cases made
    rw [h.leaving] at hp
    exact absurd hp.symm.eq_nil (List.cons_ne_nil _ _)
  | stop =>
    obtain ⟨-, -, rfl⟩ := stop_made made
    exact ⟨⟨h.workers, h.leaving, h.counted, h.phase⟩, rfl, fun _ => rfl⟩
  | wait time =>
    obtain ⟨-, rfl⟩ := wait_made made
    exact ⟨⟨h.workers, h.leaving, h.counted, h.phase⟩, rfl, id⟩

theorem Run.IsOver.story (h : r.IsOver around outcome batches) (hs : r.Story plan around episodes s) :
    s.IsOver around outcome batches ∧ (∀ x ∈ episodes, x.move.isWork = false) ∧
      (r.shared.cancelled = true → s.shared.cancelled = true) := by
  induction hs with
  | start => exact ⟨h, fun _ hx => absurd hx List.not_mem_nil, id⟩
  | step story made ih =>
    obtain ⟨hover, hstill, hcancelled⟩ := ih
    obtain ⟨hnext, hmove, hkept⟩ := hover.step made
    exact ⟨hnext, List.forall_mem_append.mpr ⟨hstill, List.forall_mem_singleton.mpr hmove⟩,
      hkept ∘ hcancelled⟩

/-- A run that has its outcome ends with the next step of its coordinator, unless its last checkpoint
fails. -/
theorem Run.IsOver.ends (h : r.IsOver around outcome batches) (hheld : around.flushFault batches = none) :
    r.phase = .ended (.ok outcome) ∨
      ∃ s, r.coordinate plan around = some s ∧ s.phase = .ended (.ok outcome) := by
  rcases h.phase with hphase | hphase | ⟨-, hfails⟩
  · refine Or.inr ⟨r.close around outcome, by simp only [Run.coordinate, hphase], ?_⟩
    rw [Run.close, h.counted, hheld]
    rfl
  · exact Or.inl hphase
  · exact absurd hheld hfails

/-- Makes moves one after the other, as long as they can be made. -/
def Run.play (plan : Plan) (around : Surroundings) :
    List Move → List Episode → Run → List Episode × Run
  | [], episodes, r => (episodes, r)
  | move :: moves, episodes, r =>
    match r.step plan around move with
    | none => (episodes, r)
    | some s => Run.play plan around moves (episodes ++ [⟨r, move, s⟩]) s

theorem story_play (moves : List Move) (h : r.Story plan around episodes s) :
    r.Story plan around (s.play plan around moves episodes).1
      (s.play plan around moves episodes).2 := by
  induction moves generalizing episodes s with
  | nil => exact h
  | cons move moves ih =>
    rw [Run.play]
    split
    · exact h
    · next made => exact ih (h.step made)

end Archiver
