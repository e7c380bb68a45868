import Archiver.Proofs.Fetch.Grants
import Archiver.Proofs.Harvest.StoryBooks

namespace Archiver

/-- The time from which a worker may make its request. -/
def Worker.slot? (w : Worker) : Option Nat :=
  match w.phase with
  | .pacing due => some due
  | _ => none

def Run.slot? (r : Run) (ticket : Nat) : Option Nat :=
  (r.workers.find? fun w => w.ticket == ticket).bind Worker.slot?

/-- The time at which a worker asks when it may make a request. -/
def Episode.ask? (x : Episode) : Option Nat :=
  match x.move with
  | .work ticket _ =>
    if x.before.slot? ticket = none ∧ x.after.slot? ticket ≠ none then some x.before.shared.now
    else none
  | _ => none

/-- True of a move that does not let time pass beyond the time for which a worker still has to make its
request, as on a clock that wakes each of them on time. -/
def Episode.isOnTime (x : Episode) : Bool :=
  match x.move with
  | .wait time => (x.before.workers.filterMap Worker.slot?).all (time ≤ ·)
  | _ => true

def asksOf (episodes : List Episode) : List Nat := episodes.filterMap Episode.ask?

/-- What a step of a worker has to do with the pace: it asks for a time, it makes its request when
its time has come, or it does neither. -/
inductive Worker.Paces (w : Worker) (s : Shared) : Shared → Except WorkerEnd Worker → Prop where
  | asks {s' : Shared} {w' : Worker} (now : s'.now = s.now) (ticket : w'.ticket = w.ticket)
      (before : w.slot? = none) (after : w'.slot? = some (s.pacer.slot s.now))
      (pacer : s'.pacer = (s.pacer.reserve s.now).2) (requests : s'.requests = s.requests) :
      Paces w s s' (.ok w')
  | requests {s' : Shared} {w' : Worker} {due : Nat} (now : s'.now = s.now)
      (before : w.slot? = some due) (time : due ≤ s.now) (after : w'.slot? = none)
      (pacer : s'.pacer = s.pacer) (requests : s'.requests = ⟨w.url.text, s.now⟩ :: s.requests) :
      Paces w s s' (.ok w')
  | neither {s' : Shared} {result : Except WorkerEnd Worker} (now : s'.now = s.now)
      (before : w.slot? = none) (after : ∀ w', result = .ok w' → w'.slot? = none)
      (pacer : s'.pacer = s.pacer) (requests : s'.requests = s.requests) : Paces w s s' result

section Worker

variable {plan : Plan} {around : Surroundings} {heed : Bool} {w : Worker} {s s' : Shared}
  {result : Except WorkerEnd Worker}

theorem slot_of_phase {phase : WorkerPhase} (h : w.phase = phase)
    (hnot : ∀ due, phase ≠ .pacing due) : w.slot? = none := by
  unfold Worker.slot?
  split
  · next due hdue => exact absurd (h.symm.trans hdue) (hnot due)
  · rfl

theorem attempt_paces {v : Worker} (hw : w.slot? = none) (hv : v.ticket = w.ticket) :
    w.Paces s (v.attempt s).1 (v.attempt s).2 := by
  unfold Worker.attempt
  split
  · exact .neither rfl hw (fun _ h => nomatch h) rfl rfl
  · exact .asks rfl hv hw rfl rfl rfl

theorem receive_slot {policy : RetryPolicy} {response : Response} {w' : Worker}
    (h : w.receive policy heed s response = .ok w') : w'.slot? = none := by
  unfold Worker.receive at h
  split at h
  · cases h
  split at h
  · cases h
    rfl
  split at h
  · cases h
  split at h
  · cases h
  split at h
  · cases h
    rfl
  · cases h
    rfl

theorem settle_paces {start : Timestamp} {reply : Reply} (hw : w.slot? = none) :
    w.Paces s (w.settle plan start s reply).1 (w.settle plan start s reply).2 := by
  unfold Worker.settle
  simp only
  split
  · exact .neither rfl hw (fun _ h => nomatch h) rfl rfl
  · exact .neither rfl hw (fun _ h => by cases h; rfl) rfl rfl

theorem step_paces (h : w.step plan around heed s = some (s', result)) : w.Paces s s' result := by
  unfold Worker.step at h
  cases hp : w.phase with
  | ready =>
    have hattempt : w.Paces s (w.attempt s).1 (w.attempt s).2 :=
      attempt_paces (slot_of_phase hp (by simp)) rfl
    simp only [hp] at h
    rwa [Option.some.inj h] at hattempt
  | pacing due =>
    simp only [hp] at h
    split at h
    · next time =>
      cases h
      exact .requests rfl (by rw [Worker.slot?, hp]) time rfl rfl rfl
    · cases h
  | fetching due response =>
    simp only [hp] at h
    split at h
    · cases h
      exact .neither rfl (slot_of_phase hp (by simp)) (fun _ hgoes => receive_slot hgoes) rfl rfl
    · cases h
  | backingOff due reply =>
    have hslot : w.slot? = none := slot_of_phase hp (by simp)
    simp only [hp] at h
    unfold Worker.wake at h
    split at h
    · cases h
      exact .neither rfl hslot (fun _ hgoes => by cases hgoes; rfl) rfl rfl
    split at h
    · have hattempt : w.Paces s _ _ := attempt_paces (v := { w with retries := w.retries + 1 }) hslot rfl
      rwa [Option.some.inj h] at hattempt
    · cases h
  | settling reply =>
    have hsettle : w.Paces s (w.settle plan around.start s reply).1
        (w.settle plan around.start s reply).2 := settle_paces (slot_of_phase hp (by simp))
    simp only [hp] at h
    rwa [Option.some.inj h] at hsettle
  | recording record method =>
    simp only [hp] at h
    cases h
    exact .neither rfl (slot_of_phase hp (by simp)) (fun _ hgoes => nomatch hgoes) rfl rfl

end Worker

/-- How the requests of a run stand to its pacer: the times given so far are those of the requests
made, and behind them those that workers still wait for, none of which is over. -/
structure Run.Paced (gap : Nat) (episodes : List Episode) (r : Run) : Prop where
  pacer : r.shared.pacer = (Pacer.start gap).after (asksOf episodes)
  order : (asksOf episodes).Pairwise (· ≤ ·)
  past : ∀ ask ∈ asksOf episodes, ask ≤ r.shared.now
  slots : ∃ ahead, (Pacer.start gap).grants (asksOf episodes) =
      (requestsOf episodes).map (·.time) ++ ahead ∧
    ahead.Perm (r.workers.filterMap Worker.slot?) ∧ ∀ time ∈ ahead, r.shared.now ≤ time

section Run

variable {plan : Plan} {around : Surroundings} {frontier queue : List FrontierEntry}
  {before : ProgressStore} {a b r : Run} {episodes : List Episode} {x : Episode} {gap ticket : Nat}
  {w w' : Worker} {others : List Worker} {shared : Shared}

theorem asksOf_concat (episodes : List Episode) (x : Episode) :
    asksOf (episodes ++ [x]) = asksOf episodes ++ x.ask?.toList := filterMap_concat _ _ _

theorem slot_goOn :
    (a.goOn shared (a.workers.filter fun v => v.ticket != ticket) w').slot? ticket =
      if w'.ticket = ticket then w'.slot? else none := by
  have hothers : (a.workers.filter fun v => v.ticket != ticket).find? (·.ticket == ticket) = none := by
    simp
  rw [Run.slot?, Run.goOn, List.find?_append, hothers]
  by_cases hticket : w'.ticket = ticket <;> simp [hticket]

theorem slot_finish {e : WorkerEnd} :
    (a.finish shared (a.workers.filter fun v => v.ticket != ticket) w e).slot? ticket = none := by
  have hothers : (a.workers.filter fun v => v.ticket != ticket).find? (·.ticket == ticket) = none := by
    simp
  rw [Run.slot?, Run.finish, hothers]
  rfl

theorem ask_of_still (h : x.move.isWork = false) : x.ask? = none := by
  unfold Episode.ask?
  split
  · next hm =>
    rw [hm] at h
    cases h
  · rfl

/-- The coordinator leaves the pace alone, and the times that workers wait for. -/
theorem coordinate_pace (made : a.coordinate plan around = some b) :
    b.shared.pacer = a.shared.pacer ∧ b.shared.now = a.shared.now ∧
      b.workers.filterMap Worker.slot? = a.workers.filterMap Worker.slot? := by
  cases coordinates_of made with
  | check phase goes =>
    unfold Run.check
    split <;> exact ⟨rfl, rfl, rfl⟩
  | @handOut entry rest later phase goes room =>
    refine ⟨rfl, rfl, ?_⟩
    rw [Run.handOut, List.filterMap_append]
    exact List.append_nil _
  | @join last rest later phase finished => cases last <;> exact ⟨rfl, rfl, rfl⟩
  | _ => exact ⟨rfl, rfl, rfl⟩

theorem Run.Paced.still (h : a.Paced gap episodes) (hask : x.ask? = none) (hrequests : x.requests = [])
    (hpacer : b.shared.pacer = a.shared.pacer) (hnow : a.shared.now ≤ b.shared.now)
    (hslots : (a.workers.filterMap Worker.slot?).Perm (b.workers.filterMap Worker.slot?))
    (hheld : ∀ time ∈ a.workers.filterMap Worker.slot?, b.shared.now ≤ time) :
    b.Paced gap (episodes ++ [x]) := by
  have hasks : asksOf (episodes ++ [x]) = asksOf episodes := by
    rw [asksOf_concat, hask, Option.toList_none, List.append_nil]
  obtain ⟨ahead, hgrants, hperm, -⟩ := h.slots
  constructor
  case pacer => rw [hasks, hpacer, h.pacer]
  case order => rw [hasks]; exact h.order
  case past => rw [hasks]; exact fun ask hmem => Nat.le_trans (h.past ask hmem) hnow
  case slots =>
    rw [hasks, requestsOf_still episodes hrequests]
    exact ⟨ahead, hgrants, hperm.trans hslots, fun time ht => hheld time (hperm.mem_iff.mp ht)⟩

theorem Run.Paced.held (h : a.Paced gap episodes) :
    ∀ time ∈ a.workers.filterMap Worker.slot?, a.shared.now ≤ time := by
  obtain ⟨ahead, -, hperm, hahead⟩ := h.slots
  exact fun time ht => hahead time (hperm.mem_iff.mpr ht)

/-- A worker that asks gets the next time that the pacer gives. -/
theorem Run.Paced.ask (h : a.Paced gap episodes) (hask : x.ask? = some a.shared.now)
    (hrequests : x.requests = []) (hpacer : b.shared.pacer = (a.shared.pacer.reserve a.shared.now).2)
    (hnow : b.shared.now = a.shared.now)
    (hslots : (b.workers.filterMap Worker.slot?).Perm
      (a.shared.pacer.slot a.shared.now :: a.workers.filterMap Worker.slot?)) :
    b.Paced gap (episodes ++ [x]) := by
  have hasks : asksOf (episodes ++ [x]) = asksOf episodes ++ [a.shared.now] := by
    rw [asksOf_concat, hask, Option.toList_some]
  obtain ⟨ahead, hgrants, hperm, hahead⟩ := h.slots
  constructor
  case pacer => rw [hasks, after_concat, hpacer, h.pacer]
  case order =>
    rw [hasks]
    exact List.pairwise_append.mpr ⟨h.order, List.pairwise_singleton _ _,
      fun ask hmem now hnow => List.mem_singleton.mp hnow ▸ h.past ask hmem⟩
  case past =>
    rw [hasks, hnow]
    exact List.forall_mem_append.mpr ⟨h.past, List.forall_mem_singleton.mpr (Nat.le_refl _)⟩
  case slots =>
    refine ⟨ahead ++ [a.shared.pacer.slot a.shared.now], ?_, ?_, ?_⟩
    · rw [hasks, grants_concat, hgrants, requestsOf_still episodes hrequests, h.pacer,
        List.append_assoc]
    · exact ((List.perm_append_singleton _ _).trans (hperm.cons _)).trans hslots.symm
    · rw [hnow]
      exact List.forall_mem_append.mpr
        ⟨hahead, List.forall_mem_singleton.mpr (le_slot _ _)⟩

/-- A worker makes its request at the first of the times that are waited for. -/
theorem Run.Paced.request (h : a.Paced gap episodes) {url : String} {due : Nat}
    (hask : x.ask? = none) (hrequests : x.requests = [⟨url, a.shared.now⟩])
    (hpacer : b.shared.pacer = a.shared.pacer) (hnow : b.shared.now = a.shared.now)
    (htime : due ≤ a.shared.now)
    (hslots : (a.workers.filterMap Worker.slot?).Perm (due :: b.workers.filterMap Worker.slot?)) :
    b.Paced gap (episodes ++ [x]) := by
  have hasks : asksOf (episodes ++ [x]) = asksOf episodes := by
    rw [asksOf_concat, hask, Option.toList_none, List.append_nil]
  obtain ⟨ahead, hgrants, hperm, hahead⟩ := h.slots
  constructor
  case pacer => rw [hasks, hpacer, h.pacer]
  case order => rw [hasks]; exact h.order
  case past => rw [hasks, hnow]; exact h.past
  case slots =>
    have hall := hperm.trans hslots
    have hmem : due ∈ ahead := hall.mem_iff.mpr List.mem_cons_self
    have hspaced := spaced_grants (.start gap) (asksOf episodes)
    rw [hgrants] at hspaced
    cases ahead with
    | nil => cases hmem
    | cons first rest =>
      -- the first time that is waited for is neither over nor later than that of this worker
      have hfirst : first = a.shared.now := by
        have hearliest : first ≤ due := by
          rcases List.mem_cons.mp hmem with rfl | hrest
          · exact Nat.le_refl _
          · have hgap := (List.pairwise_cons.mp (List.pairwise_append.mp hspaced).2.1).1 due hrest
            omega
        have hlatest := hahead first List.mem_cons_self
        omega
      have hdue : due = first := by
        have hlate := hahead due hmem
        omega
      refine ⟨rest, ?_, ?_, ?_⟩
      · rw [hasks, hgrants, requestsOf_concat, hrequests, hfirst]
        simp
      · exact (List.perm_cons first).mp (hdue ▸ hall)
      · rw [hnow]
        exact fun time ht => hahead time (List.mem_cons_of_mem _ ht)

theorem ask_of_work {heed : Bool} : (Episode.mk a (.work ticket heed) b).ask? =
    if a.slot? ticket = none ∧ b.slot? ticket ≠ none then some a.shared.now else none := rfl

theorem Run.Paced.work {heed : Bool} (h : a.Paced gap episodes)
    (hsound : a.Sound around frontier queue before)
    (made : a.step plan around (.work ticket heed) = some b) :
    b.Paced gap (episodes ++ [⟨a, .work ticket heed, b⟩]) := by
  obtain ⟨w, shared, hfound, hstep⟩ := work_found made
  have hticket : w.ticket = ticket := by simpa using List.find?_some hfound
  have hbefore : a.slot? ticket = w.slot? := by
    rw [Run.slot?, hfound]
    rfl
  have hp := perm_of_find Worker.ticket hsound.tickets hfound
  rcases hstep with ⟨w', hstep, rfl⟩ | ⟨e, hstep, rfl⟩
  · -- the worker that goes on stands behind the others
    have hgoes := List.perm_append_singleton w' (a.workers.filter fun v => v.ticket != ticket)
    cases step_paces hstep with
    | asks now same unset set pacer requests =>
      refine h.ask ?_ (requests_of_same requests) pacer now ?_
      · rw [ask_of_work, hbefore, slot_goOn, if_pos (same.trans hticket), unset, set]
        rfl
      · exact (filterMap_of_perm hgoes set).trans ((filterMap_of_perm hp unset).symm.cons _)
    | requests now set time unset pacer requests =>
      refine h.request ?_ (requests_of_cons rfl requests) pacer now time ?_
      · rw [ask_of_work, hbefore, set]
        rfl
      · exact (filterMap_of_perm hp set).trans ((filterMap_of_perm hgoes unset).symm.cons _)
    | neither now unset still pacer requests =>
      refine h.still ?_ (requests_of_same requests) pacer now.ge ?_ ?_
      · rw [ask_of_work, slot_goOn, still w' rfl, ite_self, if_neg (by simp)]
      · exact (filterMap_of_perm hp unset).trans (filterMap_of_perm hgoes (still w' rfl)).symm
      · exact now.symm ▸ h.held
  · cases step_paces hstep with
    | neither now unset still pacer requests =>
      refine h.still ?_ (requests_of_same requests) pacer now.ge (filterMap_of_perm hp unset) ?_
      · rw [ask_of_work, slot_finish, if_neg (by simp)]
      · exact now.symm ▸ h.held

/-- On a clock that is on time the times given by the pacer of a run are those of its requests and those
still waited for. -/
theorem paced_of_story {diff cancelled : Bool} {files : Files} {store : ProgressStore}
    (hp : 0 < plan.batchSize)
    (h : (Run.start plan diff cancelled frontier files store).Story plan around episodes r)
    (hclock : ∀ x ∈ episodes, x.isOnTime = true) : r.Paced plan.interval episodes := by
  induction h with
  | start =>
    exact ⟨rfl, .nil, fun _ hask => absurd hask List.not_mem_nil, [], rfl, .nil,
      fun _ ht => absurd ht List.not_mem_nil⟩
  | @step episodes a b move story made ih =>
    obtain ⟨hclock, hlast⟩ := List.forall_mem_append.mp hclock
    have hpaced := ih hclock
    cases move with
    | coordinate =>
      obtain ⟨hpacer, hnow, hslots⟩ := coordinate_pace made
      exact hpaced.still (ask_of_still rfl) (requests_of_still rfl) hpacer hnow.ge
        (hslots ▸ .refl _) (hnow ▸ hpaced.held)
    | work ticket heed => exact hpaced.work (sound_of_reaches hp (reaches_of_story story)) made
    | leave ticket =>
      obtain ⟨l, others, -, -, ⟨-, rfl⟩ | ⟨-, rfl⟩⟩ := leave_cases made
      · exact hpaced.still (ask_of_still rfl) (requests_of_still rfl) rfl (Nat.le_refl _) (.refl _)
          hpaced.held
      · exact hpaced.still (ask_of_still rfl) (requests_of_still rfl) rfl (Nat.le_refl _) (.refl _)
          hpaced.held
    | stop =>
      obtain ⟨-, -, rfl⟩ := stop_made made
      exact hpaced.still (ask_of_still rfl) (requests_of_still rfl) rfl (Nat.le_refl _) (.refl _)
        hpaced.held
    | wait time =>
      have hheld := List.all_eq_true.mp (hlast _ (List.mem_singleton_self _))
      obtain ⟨hlater, rfl⟩ := wait_made made
      exact hpaced.still (ask_of_still rfl) (requests_of_still rfl) rfl hlater.le (.refl _)
        fun due hdue => of_decide_eq_true (hheld due hdue)

/-- Whatever the frontier, the workers, the batches, the retries, the times of the answers and the
order of the moves, on a clock that wakes the workers on time: any two requests for articles start at least the base delay apart, each at the
time that the pacer has given, in the order in which the workers have asked; and the pacer gives its
times by the law to all requests that ask it, whenever they do. -/
theorem paced_requests {config : Config} {diff cancelled : Bool} {files : Files}
    {store : ProgressStore}
    (h : (Run.start (.of config) diff cancelled frontier files store).Story (.of config) around
      episodes r) (hclock : ∀ x ∈ episodes, x.isOnTime = true) :
    Spaced config.harvest.baseDelay ((requestsOf episodes).map (·.time)) ∧
    (asksOf episodes).Pairwise (· ≤ ·) ∧
    (requestsOf episodes).map (·.time) <+:
      (Pacer.start config.harvest.baseDelay).grants (asksOf episodes) ∧
    ∀ gap asks, GrantLaw gap asks ((Pacer.start gap).grants asks) := by
  have hpaced := paced_of_story (Nat.le_max_right _ _) h hclock
  obtain ⟨ahead, hgrants, -, -⟩ := hpaced.slots
  have hprefix : (requestsOf episodes).map (·.time) <+:
      (Pacer.start config.harvest.baseDelay).grants (asksOf episodes) := ⟨ahead, hgrants.symm⟩
  exact ⟨(spaced_grants (.start _) _).sublist hprefix.sublist, hpaced.order, hprefix, grantLaw_start⟩

end Run

def hurriedConfig : Config :=
  { (default : Config) with harvest := { (default : HarvestSettings) with
    baseDelay := 100, multiplier := 1.0, maxRetries := 1, batchSize := 2, workers := 2 } }

/-- A site that cannot be reached at first, and then reports its pages as gone. -/
def hurriedAround : Surroundings :=
  ⟨fun earlier _ => ⟨if earlier.isEmpty then .unreachable "down" else .refused 404, 0, false, false⟩,
    .notNeeded, none, ⟨0, 0⟩, fun _ => none⟩

def hurriedFrontier : List FrontierEntry :=
  [⟨⟨"https://a.test/1"⟩, "list", none⟩, ⟨⟨"https://a.test/2"⟩, "list", none⟩]

/-- Both workers ask at once, and the first one once more after its wait. -/
def hurriedMoves : List Move := List.flatten
  [.replicate 4 .coordinate, [.work 0 true, .work 1 true, .work 0 true, .work 0 true, .wait 100,
    .work 1 true, .work 0 true, .wait 200, .work 0 true]]

def hurriedPlay : List Episode × Run :=
  (Run.start (.of hurriedConfig) false false hurriedFrontier .empty (.open [] [])).play
    (.of hurriedConfig) hurriedAround hurriedMoves []

theorem paced_requests_hurried :
    (requestsOf hurriedPlay.1 = [⟨"https://a.test/1", 0⟩, ⟨"https://a.test/2", 100⟩,
      ⟨"https://a.test/1", 200⟩] ∧ asksOf hurriedPlay.1 = [0, 0, 100] ∧
      ∀ x ∈ hurriedPlay.1, x.isOnTime = true) ∧
    Spaced hurriedConfig.harvest.baseDelay ((requestsOf hurriedPlay.1).map (·.time)) ∧
    (asksOf hurriedPlay.1).Pairwise (· ≤ ·) ∧
    (requestsOf hurriedPlay.1).map (·.time) <+:
      (Pacer.start hurriedConfig.harvest.baseDelay).grants (asksOf hurriedPlay.1) ∧
    ∀ gap asks, GrantLaw gap asks ((Pacer.start gap).grants asks) := by
  have hstory : (Run.start (.of hurriedConfig) false false hurriedFrontier .empty
      (.open [] [])).Story (.of hurriedConfig) hurriedAround hurriedPlay.1 hurriedPlay.2 :=
    story_play hurriedMoves .start
  have hclock : ∀ x ∈ hurriedPlay.1, x.isOnTime = true := by decide +kernel
  exact ⟨⟨by decide +kernel, by decide +kernel, hclock⟩, paced_requests hstory hclock⟩

end Archiver
