import Mathlib.Data.List.Perm.Basic
import Archiver.Harvest.Schedule
import Archiver.Proofs.Progress.StoreLaws

namespace Archiver

/-- How the workers of the batch that are done ended, in so far as the coordinator has not noted it:
those that gave their places back and those that have still to do so. -/
def Run.ends (r : Run) : List WorkerEnd := r.finished ++ r.leaving.map (·.how)

/-- The tickets of those that hold a place. -/
def Run.tickets (r : Run) : List Nat := r.workers.map (·.ticket) ++ r.leaving.map (·.ticket)

/-- True of a run in which a worker has ended without a record in the log. -/
def Run.Broken (r : Run) : Prop :=
  r.failure ≠ none ∨ ∃ e ∈ r.ends, ∀ outcome, e ≠ .recorded outcome

/-- The run after a step of a worker that goes on. -/
def Run.goOn (r : Run) (shared : Shared) (others : List Worker) (w' : Worker) : Run :=
  { r with shared := shared, workers := others ++ [w'] }

/-- The run after a worker has ended. -/
def Run.finish (r : Run) (shared : Shared) (others : List Worker) (w : Worker) (e : WorkerEnd) : Run :=
  { r with shared := shared, workers := others, leaving := r.leaving ++ [w.leaver e] }

/-- The run after a leaver has asked for the stop that it owed. -/
def Run.pay (r : Run) (ticket : Nat) : Run :=
  { r.cancel with leaving := r.leaving.map fun l => if l.ticket == ticket then l.paid else l }

/-- The run after a leaver has given its place back. -/
def Run.release (r : Run) (l : Leaver) (others : List Leaver) : Run :=
  { r with
    places := r.places.release l.ticket
    leaving := others
    finished := r.finished ++ [l.how] }

/-- The run after the next URL of a batch was handed to a worker. -/
def Run.handOut (r : Run) (entry : FrontierEntry) (rest : List FrontierEntry)
    (later : List (List FrontierEntry)) : Run :=
  { r with
    phase := .admitting rest later
    handed := r.handed + 1
    places := { r.places with held := r.places.held ++ [r.handed] }
    workers := r.workers ++ [.start r.handed entry.url] }

/-- The run after a batch was counted. -/
def Run.counted (r : Run) (store : ProgressStore) (phase : RunPhase) : Run :=
  { r with
    shared := { r.shared with store := store }
    phase := phase
    report := r.report.absorb r.tally
    tally := .zero }

/-- Where a run goes after a batch that was counted. -/
inductive Run.Onward (plan : Plan) (r : Run) (later : List (List FrontierEntry)) : RunPhase → Prop where
  | stops (cancelled : r.shared.cancelled = true) : Onward plan r later (.closing .cancelled)
  | rests (goes : r.shared.cancelled = false) :
      Onward plan r later (.resting (r.shared.now + plan.batchDelay) later)
  | opens (goes : r.shared.cancelled = false) : Onward plan r later (.opening later)

/-- What every move leaves as it is, unless a worker makes it or a URL is handed out. -/
structure Run.Quiet (r r' : Run) : Prop where
  workers : r'.workers = r.workers
  handed : r'.handed = r.handed
  files : r'.shared.files = r.shared.files
  written : r'.shared.store.log.written = r.shared.store.log.written
  snapshot : r'.shared.store.snapshot = r.shared.store.snapshot
  broken : r.Broken → r'.Broken

variable {plan : Plan} {around : Surroundings} {r r' : Run}

section OfWorkers

variable {p : Worker → Prop} {w w' : Worker} {others : List Worker} {shared : Shared}

theorem forall_of_perm (hp : r.workers.Perm (w :: others)) (h : ∀ v ∈ r.workers, p v) :
    p w ∧ ∀ v ∈ others, p v :=
  List.forall_mem_cons.mp fun v hv => h v (hp.mem_iff.mpr hv)

theorem forall_goOn (hp : r.workers.Perm (w :: others)) (h : ∀ v ∈ r.workers, p v)
    (hw : p w → p w') : ∀ v ∈ (r.goOn shared others w').workers, p v := by
  obtain ⟨hpw, hothers⟩ := forall_of_perm hp h
  exact List.forall_mem_append.mpr ⟨hothers, List.forall_mem_singleton.mpr (hw hpw)⟩

theorem forall_finish {e : WorkerEnd} (hp : r.workers.Perm (w :: others))
    (h : ∀ v ∈ r.workers, p v) : ∀ v ∈ (r.finish shared others w e).workers, p v :=
  (forall_of_perm hp h).2

theorem ends_finish (r : Run) (shared : Shared) (others : List Worker) (w : Worker) (e : WorkerEnd) :
    (r.finish shared others w e).ends = r.ends ++ [e] := by
  simp only [Run.ends, Run.finish, Worker.leaver, List.map_append, List.map_singleton,
    List.append_assoc]

theorem broken_finish {e : WorkerEnd} (h : r.Broken) : (r.finish shared others w e).Broken := by
  refine h.imp_right fun ⟨e', he, hne⟩ => ⟨e', ?_, hne⟩
  rw [ends_finish]
  exact List.mem_append_left _ he

/-- A worker that does not end with an outcome leaves a broken run. -/
theorem broken_of_end {e : WorkerEnd} (he : ∀ outcome, e ≠ .recorded outcome) :
    (r.finish shared others w e).Broken := by
  refine Or.inr ⟨e, ?_, he⟩
  rw [ends_finish]
  exact List.mem_append_right _ (List.mem_singleton_self e)

theorem forall_handOut {entry : FrontierEntry} {rest : List FrontierEntry}
    {later : List (List FrontierEntry)} (h : ∀ v ∈ r.workers, p v)
    (hw : p (.start r.handed entry.url)) :
    ∀ v ∈ (r.handOut entry rest later).workers, p v :=
  List.forall_mem_append.mpr ⟨h, List.forall_mem_singleton.mpr hw⟩

/-- A worker goes on with its own URL. -/
theorem urls_goOn (hp : r.workers.Perm (w :: others)) (hurl : w'.url = w.url) :
    ((others ++ [w']).map (·.url)).Perm (r.workers.map (·.url)) := by
  rw [List.map_append, List.map_singleton, hurl]
  exact (List.perm_append_singleton _ _).trans (hp.map _).symm

end OfWorkers

section OfLeavers

variable {l : Leaver} {others : List Leaver} {ticket : Nat}

theorem map_paid {α : Type} (f : Leaver → α) (hf : ∀ l : Leaver, f l.paid = f l)
    (leaving : List Leaver) (ticket : Nat) :
    (leaving.map fun l => if l.ticket == ticket then l.paid else l).map f = leaving.map f := by
  rw [List.map_map]
  refine List.map_congr_left fun l _ => ?_
  rw [Function.comp_apply]
  split
  · exact hf l
  · rfl

theorem ends_pay (r : Run) (ticket : Nat) : (r.pay ticket).ends = r.ends := by
  simp only [Run.ends, Run.pay, Run.cancel, map_paid (·.how) (fun _ => rfl)]

theorem tickets_pay (r : Run) (ticket : Nat) : (r.pay ticket).tickets = r.tickets := by
  simp only [Run.tickets, Run.pay, Run.cancel, map_paid (·.ticket) (fun _ => rfl)]

/-- A leaver that gives its place back ends as it was about to. -/
theorem ends_release (hp : r.leaving.Perm (l :: others)) : (r.release l others).ends.Perm r.ends := by
  simp only [Run.ends, Run.release, List.append_assoc, List.singleton_append]
  exact ((hp.map (·.how)).symm).append_left _

theorem tickets_release (hp : r.leaving.Perm (l :: others)) :
    (l.ticket :: (r.release l others).tickets).Perm r.tickets := by
  simp only [Run.tickets, Run.release]
  exact (List.perm_middle.symm).trans ((hp.map (·.ticket)).symm.append_left _)

theorem quiet_pay : r.Quiet (r.pay ticket) := by
  refine ⟨rfl, rfl, rfl, rfl, rfl, fun h => ?_⟩
  rwa [Run.Broken, ends_pay]

theorem quiet_release (hp : r.leaving.Perm (l :: others)) : r.Quiet (r.release l others) := by
  refine ⟨rfl, rfl, rfl, rfl, rfl, Or.imp_right fun ⟨e, he, hne⟩ => ⟨e, ?_, hne⟩⟩
  exact (ends_release hp).mem_iff.mpr he

end OfLeavers

theorem join_frame (r : Run) (e : WorkerEnd) : (r.join e).phase = r.phase ∧
    (r.join e).report = r.report ∧ (r.join e).handed = r.handed ∧ (r.join e).checks = r.checks := by
  cases e <;> exact ⟨rfl, rfl, rfl, rfl⟩

theorem broken_join {last : WorkerEnd} {rest : List WorkerEnd} (hf : r.finished = last :: rest)
    (h : r.Broken) : (({ r with finished := rest } : Run).join last).Broken := by
  cases last with
  | recorded outcome =>
    rcases h with h | ⟨e, he, hne⟩
    · exact Or.inl h
    · rw [Run.ends, hf, List.cons_append] at he
      rcases List.mem_cons.mp he with rfl | he
      · exact absurd rfl (hne outcome)
      · exact Or.inr ⟨e, he, hne⟩
  | logFailed => exact Or.inl (by cases hr : r.failure <;> simp [Run.join])
  | illegal move => exact Or.inl (by cases hr : r.failure <;> simp [Run.join])
  | lost => exact Or.inl (by cases hr : r.failure <;> simp [Run.join])

theorem quiet_join {last : WorkerEnd} {rest : List WorkerEnd} (hf : r.finished = last :: rest) :
    r.Quiet (({ r with finished := rest } : Run).join last) := by
  refine ⟨?_, ?_, ?_, ?_, ?_, broken_join hf⟩ <;> cases last <;> rfl

theorem quiet_check (batch : List FrontierEntry) (later : List (List FrontierEntry)) :
    r.Quiet (r.check around batch later) := by
  unfold Run.check
  split <;> exact ⟨rfl, rfl, rfl, rfl, rfl, id⟩

/-- What a step of the coordinator does, by the place where it stands. -/
inductive Run.Coordinates (plan : Plan) (around : Surroundings) (r : Run) : Run → Prop where
  | complete (phase : r.phase = .opening []) :
      Coordinates plan around r { r with phase := .closing .completed }
  | stop {batch : List FrontierEntry} {later : List (List FrontierEntry)}
      (phase : r.phase = .opening (batch :: later)) (cancelled : r.shared.cancelled = true) :
      Coordinates plan around r { r with phase := .closing .cancelled }
  | check {batch : List FrontierEntry} {later : List (List FrontierEntry)}
      (phase : r.phase = .opening (batch :: later)) (goes : r.shared.cancelled = false) :
      Coordinates plan around r (r.check around batch later)
  | accept {due : Nat} {batch : List FrontierEntry} {later : List (List FrontierEntry)}
      (phase : r.phase = .checking due true batch later) (time : due ≤ r.shared.now) :
      Coordinates plan around r { r with phase := .admitting batch later }
  | expire {due : Nat} {batch : List FrontierEntry} {later : List (List FrontierEntry)}
      (phase : r.phase = .checking due false batch later) (time : due ≤ r.shared.now) :
      Coordinates plan around r
        { r.cancel with phase := .closing (.sessionExpired (r.report.batches + 1)) }
  | allOut {later : List (List FrontierEntry)} (phase : r.phase = .admitting [] later) :
      Coordinates plan around r { r with phase := .joining later }
  | cutOff {entry : FrontierEntry} {rest : List FrontierEntry} {later : List (List FrontierEntry)}
      (phase : r.phase = .admitting (entry :: rest) later) (cancelled : r.shared.cancelled = true) :
      Coordinates plan around r { r with phase := .joining later }
  | handOut {entry : FrontierEntry} {rest : List FrontierEntry} {later : List (List FrontierEntry)}
      (phase : r.phase = .admitting (entry :: rest) later) (goes : r.shared.cancelled = false)
      (room : r.places.held.length < r.places.size) :
      Coordinates plan around r (r.handOut entry rest later)
  | join {last : WorkerEnd} {rest : List WorkerEnd} {later : List (List FrontierEntry)}
      (phase : r.phase = .joining later) (finished : r.finished = last :: rest) :
      Coordinates plan around r (({ r with finished := rest } : Run).join last)
  | giveUp {later : List (List FrontierEntry)} {e : HarvestError} (phase : r.phase = .joining later)
      (finished : r.finished = []) (workers : r.workers = []) (leaving : r.leaving = [])
      (failure : r.failure = some e) :
      Coordinates plan around r { r with phase := .ended (.error e) }
  | loseBatch {later : List (List FrontierEntry)} {fault : FlushFault}
      (phase : r.phase = .joining later) (finished : r.finished = []) (workers : r.workers = [])
      (leaving : r.leaving = []) (failure : r.failure = none)
      (fails : around.flushFault r.report.batches = some fault) :
      Coordinates plan around r { r with
        shared := { r.shared with store := (r.shared.store.tryCheckpoint (some fault)).1 }
        phase := .ended (.error .logFailed) }
  | closeBatch {later : List (List FrontierEntry)} {store : ProgressStore} {next : RunPhase}
      (phase : r.phase = .joining later) (finished : r.finished = []) (workers : r.workers = [])
      (leaving : r.leaving = []) (failure : r.failure = none)
      (saved : store = r.shared.store ∨ store = r.shared.store.checkpoint)
      (onward : r.Onward plan later next) :
      Coordinates plan around r (r.counted store next)
  | rested {due : Nat} {later : List (List FrontierEntry)} (phase : r.phase = .resting due later)
      (time : r.shared.cancelled = true ∨ due ≤ r.shared.now) :
      Coordinates plan around r { r with phase := .opening later }
  | close {outcome : RunOutcome} (phase : r.phase = .closing outcome) :
      Coordinates plan around r { r with
        shared := { r.shared with store := r.shared.store.checkpoint }
        phase := .ended (.ok outcome) }
  | loseRun {outcome : RunOutcome} {fault : FlushFault} (phase : r.phase = .closing outcome)
      (fails : around.flushFault r.report.batches = some fault) :
      Coordinates plan around r { r with
        shared := { r.shared with store := (r.shared.store.tryCheckpoint (some fault)).1 }
        phase := .ended (.error .logFailed) }

theorem checkpointIfDue_cases (s : ProgressStore) (interval : Nat) :
    s.checkpointIfDue interval = s ∨ s.checkpointIfDue interval = s.checkpoint := by
  unfold ProgressStore.checkpointIfDue
  split
  · exact Or.inr rfl
  · exact Or.inl rfl

theorem onward_of_closeBatch (plan : Plan) (r : Run) (later : List (List FrontierEntry))
    (store : ProgressStore) :
    ∃ next, r.Onward plan later next ∧
      (if r.shared.cancelled then
        ({ r.counted store r.phase with phase := .closing .cancelled } : Run)
      else if !later.isEmpty && 0 < plan.batchDelay then
        { r.counted store r.phase with phase := .resting (r.shared.now + plan.batchDelay) later }
      else { r.counted store r.phase with phase := .opening later }) = r.counted store next := by
  cases hc : r.shared.cancelled with
  | true => exact ⟨_, .stops hc, rfl⟩
  | false =>
    rw [if_neg Bool.false_ne_true]
    split
    · exact ⟨_, .rests hc, rfl⟩
    · exact ⟨_, .opens hc, rfl⟩

/-- A batch whose workers are all gone is given up, lost over its checkpoint, or counted. -/
theorem coordinates_closeBatch {later : List (List FrontierEntry)} (phase : r.phase = .joining later)
    (finished : r.finished = []) (workers : r.workers = []) (leaving : r.leaving = []) :
    r.Coordinates plan around (r.closeBatch plan around later) := by
  unfold Run.closeBatch
  split
  · next e failure => exact .giveUp phase finished workers leaving failure
  · next failure =>
    simp only
    generalize htried : (if 0 < plan.saveInterval then
      r.shared.store.tryCheckpointIfDue (around.flushFault r.report.batches) plan.saveInterval
      else (r.shared.store, true)) = tried
    obtain ⟨store, held⟩ := tried
    have hcases : (held = true ∧ (store = r.shared.store ∨ store = r.shared.store.checkpoint)) ∨
        (held = false ∧ ∃ fault, around.flushFault r.report.batches = some fault ∧
          store = (r.shared.store.tryCheckpoint (some fault)).1) := by
      split at htried
      · refine (tryCheckpointIfDue_cases htried).imp_left fun ⟨hheld, hstore⟩ => ⟨hheld, ?_⟩
        rw [hstore]
        exact checkpointIfDue_cases _ _
      · cases htried
        exact Or.inl ⟨rfl, Or.inl rfl⟩
    rcases hcases with ⟨rfl, saved⟩ | ⟨rfl, fault, fails, rfl⟩
    · obtain ⟨next, onward, hnext⟩ := onward_of_closeBatch plan r later store
      have hclose : r.Coordinates plan around (r.counted store next) :=
        .closeBatch phase finished workers leaving failure saved onward
      rw [← hnext] at hclose
      exact hclose
    · exact .loseBatch phase finished workers leaving failure fails

theorem coordinates_close {outcome : RunOutcome} (phase : r.phase = .closing outcome) :
    r.Coordinates plan around (r.close around outcome) := by
  unfold Run.close
  generalize htried : r.shared.store.tryCheckpoint (around.flushFault r.report.batches) = tried
  obtain ⟨store, held⟩ := tried
  rcases tryCheckpoint_cases htried with ⟨rfl, rfl⟩ | ⟨rfl, fault, fails, rfl⟩
  · exact .close phase
  · exact .loseRun phase fails

theorem admit_eq_some {α : Type} {p q : Pool α} {item : α} :
    p.admit? item = some q ↔ p.held.length < p.size ∧ q = { p with held := p.held ++ [item] } := by
  unfold Pool.admit?
  split
  · next h => simp [h, eq_comm]
  · next h => simp [h]

theorem coordinates_of (h : r.coordinate plan around = some r') :
    r.Coordinates plan around r' := by
  unfold Run.coordinate at h
  split at h
  · next phase =>
    cases h
    exact .complete phase
  · next phase =>
    split at h
    · next cancelled =>
      cases h
      exact .stop phase cancelled
    · next goes =>
      cases h
      exact .check phase (Bool.eq_false_iff.mpr goes)
  · next valid _ _ phase =>
    split at h
    · cases h
    next early =>
    have time := Nat.le_of_not_lt early
    split at h
    · next hvalid =>
      subst hvalid
      cases h
      exact .accept phase time
    · next hvalid =>
      cases h
      exact .expire (Bool.eq_false_iff.mpr hvalid ▸ phase) time
  · next phase =>
    cases h
    exact .allOut phase
  · next phase =>
    split at h
    · next cancelled =>
      cases h
      exact .cutOff phase cancelled
    next goes =>
    obtain ⟨places, hplaces, rfl⟩ := Option.map_eq_some_iff.mp h
    obtain ⟨room, rfl⟩ := admit_eq_some.mp hplaces
    exact .handOut phase (Bool.eq_false_iff.mpr goes) room
  · next phase =>
    split at h
    · next finished =>
      cases h
      exact .join phase finished
    next finished =>
    split at h
    · next empty =>
      obtain ⟨workers, leaving⟩ := Bool.and_eq_true_iff.mp empty
      cases h
      exact coordinates_closeBatch phase finished (List.isEmpty_iff.mp workers)
        (List.isEmpty_iff.mp leaving)
    · cases h
  · next phase =>
    split at h
    · next time =>
      cases h
      exact .rested phase (by simpa using time)
    · cases h
  · next phase =>
    cases h
    exact coordinates_close phase
  · cases h

/-- The coordinator leaves those in work, the places, the files and the text of the log as they are,
or it hands out a URL, and that only while nobody wants the run to stop and a place is free. -/
theorem coordinate_hands (h : r.coordinate plan around = some r') :
    (r.Quiet r' ∧ r'.leaving = r.leaving ∧ r'.places = r.places) ∨
    ∃ entry rest later, r.phase = .admitting (entry :: rest) later ∧
      r.shared.cancelled = false ∧ r.places.held.length < r.places.size ∧
      r' = r.handOut entry rest later := by
  cases coordinates_of h with
  | handOut phase goes room => exact Or.inr ⟨_, _, _, phase, goes, room, rfl⟩
  | check phase goes =>
    refine Or.inl ⟨quiet_check _ _, ?_⟩
    unfold Run.check
    split <;> exact ⟨rfl, rfl⟩
  | @join last rest later phase finished =>
    refine Or.inl ⟨quiet_join finished, ?_⟩
    cases last <;> exact ⟨rfl, rfl⟩
  | giveUp phase finished workers leaving failure =>
    exact Or.inl ⟨⟨rfl, rfl, rfl, rfl, rfl, fun _ => Or.inl (failure ▸ Option.some_ne_none _)⟩, rfl, rfl⟩
  | closeBatch phase finished workers leaving failure saved onward =>
    refine Or.inl ⟨⟨rfl, rfl, rfl, ?_, ?_, id⟩, rfl, rfl⟩ <;>
      rcases saved with rfl | rfl <;> simp [Run.counted]
  | loseBatch =>
    exact Or.inl ⟨⟨rfl, rfl, rfl, tryCheckpoint_written _ _, tryCheckpoint_snapshot _ _, id⟩, rfl, rfl⟩
  | close phase => exact Or.inl ⟨⟨rfl, rfl, rfl, checkpoint_written _, rfl, id⟩, rfl, rfl⟩
  | loseRun =>
    exact Or.inl ⟨⟨rfl, rfl, rfl, tryCheckpoint_written _ _, tryCheckpoint_snapshot _ _, id⟩, rfl, rfl⟩
  | _ => exact Or.inl ⟨⟨rfl, rfl, rfl, rfl, rfl, id⟩, rfl, rfl⟩

/-- The coordinator hands out a URL or leaves workers, files and log text as they are. -/
theorem coordinate_cases (h : r.coordinate plan around = some r') :
    r.Quiet r' ∨ ∃ entry rest later, r.phase = .admitting (entry :: rest) later ∧
      r' = r.handOut entry rest later := by
  rcases coordinate_hands h with ⟨hq, -⟩ | ⟨entry, rest, later, phase, -, -, hr⟩
  · exact Or.inl hq
  · exact Or.inr ⟨entry, rest, later, phase, hr⟩

/-- What a ticket finds stands beside what has other tickets. -/
theorem perm_of_find {α : Type} (ticketOf : α → Nat) {l : List α} {ticket : Nat} {a : α}
    (hn : (l.map ticketOf).Nodup) (hf : l.find? (fun b => ticketOf b == ticket) = some a) :
    l.Perm (a :: l.filter fun b => ticketOf b != ticket) := by
  induction l with
  | nil => simp at hf
  | cons b l ih =>
    obtain ⟨hb, hn⟩ := List.nodup_cons.mp hn
    by_cases ht : ticketOf b = ticket
    · have ha : b = a := by simpa [List.find?_cons, ht] using hf
      have hrest : (l.filter fun b => ticketOf b != ticket) = l := by
        rw [List.filter_eq_self]
        intro c hc
        have hne : ticketOf c ≠ ticket := by
          intro he
          exact hb (List.mem_map.mpr ⟨c, hc, he.trans ht.symm⟩)
        simpa using hne
      rw [List.filter_cons_of_neg (by simp [ht]), hrest, ha]
    · have hf' : l.find? (fun b => ticketOf b == ticket) = some a := by
        simpa [List.find?_cons, ht] using hf
      rw [List.filter_cons_of_pos (by simpa using ht)]
      exact ((ih hn hf').cons b).trans (List.Perm.swap a b _)

/-- A step of the worker with a ticket is a step of its own with what is shared, and it goes on or
ends. -/
theorem work_found {ticket : Nat} {heed : Bool} (h : r.work plan around ticket heed = some r') :
    ∃ w shared, r.workers.find? (fun v => v.ticket == ticket) = some w ∧
      ((∃ w', w.step plan around heed r.shared = some (shared, .ok w') ∧
        r' = r.goOn shared (r.workers.filter fun v => v.ticket != ticket) w') ∨
      (∃ e, w.step plan around heed r.shared = some (shared, .error e) ∧
        r' = r.finish shared (r.workers.filter fun v => v.ticket != ticket) w e)) := by
  unfold Run.work at h
  split at h
  · cases h
  next w hw =>
    simp only at h
    split at h
    · cases h
    · next shared w' hstep =>
      cases h
      exact ⟨w, shared, hw, Or.inl ⟨w', hstep, rfl⟩⟩
    · next shared e hstep =>
      cases h
      exact ⟨w, shared, hw, Or.inr ⟨e, hstep, rfl⟩⟩

/-- Where tickets are distinct, the worker that makes a step stands beside the others. -/
theorem work_cases {ticket : Nat} {heed : Bool} (hn : (r.workers.map (·.ticket)).Nodup)
    (h : r.work plan around ticket heed = some r') :
    ∃ w others shared, r.workers.Perm (w :: others) ∧
      ((∃ w', w.step plan around heed r.shared = some (shared, .ok w') ∧
        r' = r.goOn shared others w') ∨
      (∃ e, w.step plan around heed r.shared = some (shared, .error e) ∧
        r' = r.finish shared others w e)) := by
  obtain ⟨w, shared, hw, hstep⟩ := work_found h
  exact ⟨w, _, shared, perm_of_find Worker.ticket hn hw, hstep⟩

/-- A leaver asks for the stop that it owes, or it gives its place back. -/
theorem leave_cases {ticket : Nat} (h : r.leave ticket = some r') :
    ∃ l others, r.leaving.Perm (l :: others) ∧
      r.leaving.find? (fun l => l.ticket == ticket) = some l ∧
      ((l.owesStop = true ∧ r' = r.pay ticket) ∨
      (l.owesStop = false ∧ r' = r.release l others)) := by
  unfold Run.leave at h
  split at h
  · cases h
  next l hl =>
    obtain ⟨hticket, front, back, hleaving, hfront⟩ := List.find?_eq_some_iff_append.mp hl
    have hleft : r.leaving.eraseP (fun l => l.ticket == ticket) = front ++ back := by
      rw [hleaving, List.eraseP_append_right _ (by simpa using hfront)]
      simp [hticket]
    have hticket : l.ticket = ticket := by simpa using hticket
    refine ⟨l, front ++ back, hleaving ▸ List.perm_middle, hl, ?_⟩
    split at h
    · next owes =>
      cases h
      exact Or.inl ⟨owes, rfl⟩
    · next paid =>
      cases h
      exact Or.inr ⟨Bool.eq_false_iff.mpr paid, by rw [Run.release, hticket, hleft]⟩

def Move.isWork : Move → Bool
  | .work _ _ => true
  | _ => false

theorem stop_made (h : r.step plan around .stop = some r') :
    (∃ time, around.stopAt = some time ∧ time ≤ r.shared.now) ∧ r.stopped = false ∧
      r' = { r.cancel with stopped := true } := by
  simp only [Run.step, Run.stop] at h
  split at h
  · cases h
  next time hstop =>
    split at h
    · next hdue =>
      obtain ⟨hle, hstopped⟩ := Bool.and_eq_true_iff.mp hdue
      cases h
      exact ⟨⟨time, hstop, of_decide_eq_true hle⟩, by simpa using hstopped, rfl⟩
    · cases h

theorem wait_made {time : Nat} (h : r.step plan around (.wait time) = some r') :
    r.shared.now < time ∧ r' = { r with shared := { r.shared with now := time } } := by
  simp only [Run.step, Run.wait] at h
  split at h
  · next hlater =>
    cases h
    exact ⟨hlater, rfl⟩
  · cases h

/-- A move that is no step of a worker hands out a URL or leaves workers, files and log text as they
are. -/
theorem still_cases {move : Move} (hm : move.isWork = false)
    (h : r.step plan around move = some r') :
    r.Quiet r' ∨ ∃ entry rest later, r.phase = .admitting (entry :: rest) later ∧
      r' = r.handOut entry rest later := by
  cases move with
  | coordinate => exact coordinate_cases h
  | work ticket heed => cases hm
  | leave ticket =>
    obtain ⟨l, others, hp, -, ⟨-, rfl⟩ | ⟨-, rfl⟩⟩ := leave_cases h
    · exact Or.inl quiet_pay
    · exact Or.inl (quiet_release hp)
  | stop =>
    obtain ⟨-, -, rfl⟩ := stop_made h
    exact Or.inl ⟨rfl, rfl, rfl, rfl, rfl, id⟩
  | wait time =>
    obtain ⟨-, rfl⟩ := wait_made h
    exact Or.inl ⟨rfl, rfl, rfl, rfl, rfl, id⟩

/-- A move hands out a URL, is a step of a worker, or leaves workers, files and log text as they
are. -/
theorem step_cases {move : Move} (h : r.step plan around move = some r') :
    r.Quiet r' ∨
    (∃ entry rest later, r.phase = .admitting (entry :: rest) later ∧
      r' = r.handOut entry rest later) ∨
    ∃ ticket heed, r.work plan around ticket heed = some r' := by
  cases hm : move.isWork with
  | false => exact (still_cases hm h).imp_right Or.inl
  | true =>
    cases move with
    | work ticket heed => exact Or.inr (Or.inr ⟨ticket, heed, h⟩)
    | _ => cases hm

end Archiver
