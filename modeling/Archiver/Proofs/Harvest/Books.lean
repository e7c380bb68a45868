import Archiver.Proofs.Harvest.Moves
import Archiver.Proofs.Harvest.Reaches
import Archiver.Proofs.Harvest.WorkerTurn

namespace Archiver

def Tally.of (t : Tally) : Outcome → Nat
  | .success => t.succeeded
  | .failure => t.failed
  | .skipped => t.skipped

def Report.of (r : Report) : Outcome → Nat
  | .success => r.succeeded
  | .failure => r.failed
  | .skipped => r.skipped

/-- The books of a run: each URL handed out is in work or has one record, and each record is counted
once, by its outcome. -/
structure Run.Books (queue : List FrontierEntry) (before : ProgressStore) (r : Run)
    (records : List ProgressRecord) : Prop where
  written : r.shared.store.log.written =
    before.log.written ++ records.flatMap ProgressRecord.lineBytes
  snapshot : r.shared.store.snapshot = records.foldl Snapshot.remember before.snapshot
  urls : (records.map (·.url) ++ r.workers.map (·.url)).Perm
    ((queue.take r.handed).map (·.url))
  counts : ∀ outcome, records.countP (·.outcome == outcome) =
    r.report.of outcome + r.tally.of outcome + r.ends.countP (· == .recorded outcome)

/-- A record that a worker has to append is of its own URL. -/
def Worker.Carries (w : Worker) : Prop :=
  ∀ record method, w.phase = .recording record method → record.url = w.url

theorem carries_of_isAhead {w : Worker} (h : w.isAhead = true) : w.Carries := by
  intro record method hr
  rw [Worker.isAhead, hr] at h
  cases h

/-- Between two batches nothing is in work and nothing is left to count. -/
structure Run.Idle (r : Run) : Prop where
  workers : r.workers = []
  leaving : r.leaving = []
  finished : r.finished = []
  tally : r.tally = .zero
  failure : r.failure = none

/-- The part of the queue that the coordinator has still to hand out. -/
def Run.Place (queue : List FrontierEntry) (r : Run) : Prop :=
  match r.phase with
  | .opening later | .resting _ later => r.Idle ∧ queue.drop r.handed = later.flatten
  | .checking _ _ batch later => r.Idle ∧ queue.drop r.handed = batch ++ later.flatten
  | .admitting batch later => queue.drop r.handed = batch ++ later.flatten
  | .joining later => r.shared.cancelled = true ∨ queue.drop r.handed = later.flatten
  | .closing outcome => r.Idle ∧ (outcome = .completed → queue.length ≤ r.handed)
  | .ended (.ok outcome) => r.Idle ∧ (outcome = .completed → queue.length ≤ r.handed) ∧
      r.shared.store.log.held = []
  | .ended (.error _) => True

/-- The places, of which there is one at least, are held by those in work, each of which has a ticket of
its own. -/
structure Run.Seated (r : Run) : Prop where
  roomy : 0 < r.places.size
  nodup : r.tickets.Nodup
  given : ∀ ticket ∈ r.tickets, ticket < r.handed
  held : r.places.held.Perm r.tickets

/-- What every run keeps. -/
structure Run.Sound (around : Surroundings) (frontier queue : List FrontierEntry)
    (before : ProgressStore) (r : Run) : Prop where
  seats : r.Seated
  fits : ∀ w ∈ r.workers, w.Fits around
  carries : ∀ w ∈ r.workers, w.Carries
  handed : r.handed ≤ queue.length
  books : ¬ r.Broken → ∃ records, r.Books queue before records
  place : r.Place queue
  tally : r.tally.attempted = r.tally.succeeded + r.tally.failed + r.tally.skipped
  report : r.report.attempted = r.report.succeeded + r.report.failed + r.report.skipped
  frontierSize : r.report.frontierSize = frontier.length
  alreadyDone : r.report.alreadyDone + queue.length = frontier.length

variable {plan : Plan} {around : Surroundings} {frontier queue : List FrontierEntry}
  {before : ProgressStore} {r r' : Run}

theorem Run.Idle.ends (h : r.Idle) : r.ends = [] := by
  rw [Run.ends, h.finished, h.leaving]
  rfl

theorem Run.Idle.not_broken (h : r.Idle) : ¬ r.Broken := by
  rintro (hf | ⟨e, he, _⟩)
  · exact hf h.failure
  · rw [h.ends] at he
    exact absurd he List.not_mem_nil

theorem Run.Seated.congr (h : r.Seated) (htickets : r'.tickets.Perm r.tickets)
    (hplaces : r'.places = r.places) (hhanded : r'.handed = r.handed) : r'.Seated where
  roomy := hplaces ▸ h.roomy
  nodup := htickets.nodup_iff.mpr h.nodup
  given := fun ticket ht => hhanded ▸ h.given ticket (htickets.mem_iff.mp ht)
  held := hplaces ▸ h.held.trans htickets.symm

/-- Who gives a place back was the only one to hold it. -/
theorem Run.Seated.release (h : r.Seated) {l : Leaver} {others : List Leaver}
    (hp : r.leaving.Perm (l :: others)) : (r.release l others).Seated where
  roomy := h.roomy
  nodup := (List.nodup_cons.mp ((tickets_release hp).nodup_iff.mpr h.nodup)).2
  given := fun ticket ht =>
    h.given ticket ((tickets_release hp).mem_iff.mp (List.mem_cons_of_mem _ ht))
  held := by
    have hheld := (h.held.trans (tickets_release hp).symm).erase l.ticket
    rw [List.erase_cons_head] at hheld
    exact hheld

theorem tickets_finish {shared : Shared} {others : List Worker} {w : Worker} {e : WorkerEnd}
    (hp : r.workers.Perm (w :: others)) : (r.finish shared others w e).tickets.Perm r.tickets := by
  simp only [Run.tickets, Run.finish, Worker.leaver, List.map_append, List.map_singleton]
  rw [← List.append_assoc]
  refine (List.perm_append_singleton _ _).trans ?_
  exact ((hp.map (·.ticket)).symm.append_right (r.leaving.map (·.ticket)))

/-- Those in work have distinct tickets. -/
theorem Run.Sound.tickets (h : r.Sound around frontier queue before) :
    (r.workers.map (·.ticket)).Nodup :=
  h.seats.nodup.sublist (List.sublist_append_left _ _)

/-- A run that has ended with an outcome is idle, and nothing of its log is held back. -/
theorem idle_of_ended (h : r.Sound around frontier queue before) {outcome : RunOutcome}
    (hphase : r.phase = .ended (.ok outcome)) : r.Idle ∧ r.shared.store.log.held = [] := by
  have hplace := h.place
  rw [Run.Place, hphase] at hplace
  exact ⟨hplace.1, hplace.2.2⟩

/-- A step that leaves workers, counts and log text as they are keeps the books, also where a leaver
gives its place back. -/
theorem Run.Sound.reseat (h : r.Sound around frontier queue before)
    (hwritten : r'.shared.store.log.written = r.shared.store.log.written)
    (hsnapshot : r'.shared.store.snapshot = r.shared.store.snapshot)
    (hhanded : r'.handed = r.handed) (hworkers : r'.workers = r.workers)
    (hseats : r'.Seated) (hends : r'.ends.Perm r.ends) (htally : r'.tally = r.tally)
    (hfailure : r'.failure = r.failure) (hreport : r'.report = r.report)
    (hplace : r'.Place queue) : r'.Sound around frontier queue before where
  seats := hseats
  fits := hworkers ▸ h.fits
  carries := hworkers ▸ h.carries
  handed := hhanded ▸ h.handed
  books := by
    intro hb
    have hb' : ¬ r.Broken := by
      simpa only [Run.Broken, hfailure, hends.mem_iff] using hb
    obtain ⟨records, hbooks⟩ := h.books hb'
    refine ⟨records, ?_, ?_, ?_, ?_⟩
    · rw [hwritten, hbooks.written]
    · rw [hsnapshot, hbooks.snapshot]
    · rw [hworkers, hhanded]
      exact hbooks.urls
    · intro outcome
      rw [hreport, htally, hends.countP_eq]
      exact hbooks.counts outcome
  place := hplace
  tally := htally ▸ h.tally
  report := hreport ▸ h.report
  frontierSize := hreport ▸ h.frontierSize
  alreadyDone := hreport ▸ h.alreadyDone

/-- A step that leaves those in work, counts and log text as they are keeps the books. -/
theorem Run.Sound.frame (h : r.Sound around frontier queue before)
    (hwritten : r'.shared.store.log.written = r.shared.store.log.written)
    (hsnapshot : r'.shared.store.snapshot = r.shared.store.snapshot)
    (hhanded : r'.handed = r.handed) (hplaces : r'.places = r.places)
    (hworkers : r'.workers = r.workers) (hleaving : r'.leaving = r.leaving)
    (hfinished : r'.finished = r.finished) (htally : r'.tally = r.tally)
    (hfailure : r'.failure = r.failure) (hreport : r'.report = r.report)
    (hplace : r'.Place queue) : r'.Sound around frontier queue before := by
  have htickets : r'.tickets = r.tickets := by rw [Run.tickets, hworkers, hleaving, Run.tickets]
  have hends : r'.ends = r.ends := by rw [Run.ends, hfinished, hleaving, Run.ends]
  exact h.reseat hwritten hsnapshot hhanded hworkers (h.seats.congr (.of_eq htickets) hplaces hhanded)
    (.of_eq hends) htally hfailure hreport hplace

theorem Run.Idle.congr (h : r.Idle) (hworkers : r'.workers = r.workers)
    (hleaving : r'.leaving = r.leaving) (hfinished : r'.finished = r.finished)
    (htally : r'.tally = r.tally) (hfailure : r'.failure = r.failure) : r'.Idle :=
  ⟨hworkers.trans h.workers, hleaving.trans h.leaving, hfinished.trans h.finished,
    htally.trans h.tally, hfailure.trans h.failure⟩

theorem queueOf_sublist (diff : Bool) (s : Snapshot) (frontier : List FrontierEntry) :
    List.Sublist (queueOf diff s frontier) frontier :=
  List.filter_sublist

theorem nodup_queueOf (hn : (frontier.map (·.url)).Nodup) (diff : Bool) (s : Snapshot) :
    ((queueOf diff s frontier).map (·.url)).Nodup :=
  hn.sublist ((queueOf_sublist diff s frontier).map _)

theorem sound_start (hp : 0 < plan.batchSize) (diff cancelled : Bool)
    (frontier : List FrontierEntry) (files : Files) (store : ProgressStore) :
    (Run.start plan diff cancelled frontier files store).Sound around
      frontier (queueOf diff store.snapshot frontier) store where
  seats := ⟨Nat.le_max_right _ _, List.nodup_nil, fun _ ht => absurd ht List.not_mem_nil, .nil⟩
  fits := fun w hw => absurd hw List.not_mem_nil
  carries := fun w hw => absurd hw List.not_mem_nil
  handed := Nat.zero_le _
  books := fun _ => ⟨[], by simp [Run.start], rfl, .nil, fun outcome => by cases outcome <;> rfl⟩
  place := ⟨⟨rfl, rfl, rfl, rfl, rfl⟩, (batchesOf_flatten hp _).symm⟩
  tally := rfl
  report := rfl
  frontierSize := rfl
  alreadyDone := by
    have hle : (queueOf diff store.snapshot frontier).length ≤ frontier.length :=
      List.length_filter_le _ _
    simp only [Run.start]
    omega

/-- Time that passes and the wish to stop change nothing that is kept. -/
theorem Run.Sound.shift (h : r.Sound around frontier queue before) {now : Nat} {cancelled stopped : Bool}
    (hc : r.shared.cancelled = true → cancelled = true) :
    ({ r with
      shared := { r.shared with now := now, cancelled := cancelled }
      stopped := stopped } : Run).Sound around frontier queue before := by
  refine h.frame rfl rfl rfl rfl rfl rfl rfl rfl rfl rfl ?_
  have hplace := h.place
  unfold Run.Place at hplace ⊢
  cases hp : r.phase with
  | opening later =>
    simp only [hp] at hplace ⊢
    exact ⟨hplace.1.congr rfl rfl rfl rfl rfl, hplace.2⟩
  | resting due later =>
    simp only [hp] at hplace ⊢
    exact ⟨hplace.1.congr rfl rfl rfl rfl rfl, hplace.2⟩
  | checking due valid batch later =>
    simp only [hp] at hplace ⊢
    exact ⟨hplace.1.congr rfl rfl rfl rfl rfl, hplace.2⟩
  | admitting batch later =>
    simp only [hp] at hplace ⊢
    exact hplace
  | joining later =>
    simp only [hp] at hplace ⊢
    exact hplace.imp_left hc
  | closing outcome =>
    simp only [hp] at hplace ⊢
    exact ⟨hplace.1.congr rfl rfl rfl rfl rfl, hplace.2⟩
  | ended result =>
    simp only [hp] at hplace ⊢
    cases result with
    | ok outcome => exact ⟨hplace.1.congr rfl rfl rfl rfl rfl, hplace.2⟩
    | error e => trivial

end Archiver
