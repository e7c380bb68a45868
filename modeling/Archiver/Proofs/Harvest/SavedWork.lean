import Archiver.Proofs.Harvest.Reentry
import Archiver.Proofs.Progress.Saved

namespace Archiver

/-- The method that goes with the record a worker has to append. -/
def Worker.method? (w : Worker) : Option String :=
  match w.phase with
  | .recording _ method => method
  | _ => none

/-- The record that a worker gets into both files in a move, with the method that took the article
from its page. -/
def Episode.appended? (around : Surroundings) (x : Episode) : Option (ProgressRecord × Option String) :=
  if isEntered (around.logFault (.append x.before.shared.appends)) then
    x.record?.map fun record => (record, x.worker?.bind Worker.method?)
  else none

def entriesOf (around : Surroundings) (episodes : List Episode) :
    List (ProgressRecord × Option String) :=
  episodes.filterMap (Episode.appended? around)

variable {plan : Plan} {around : Surroundings} {frontier queue : List FrontierEntry}
  {before : ProgressStore} {a b r : Run} {episodes front back : List Episode} {x : Episode}
  {outcome : RunOutcome}

theorem entriesOf_concat (around : Surroundings) (episodes : List Episode) (x : Episode) :
    entriesOf around (episodes ++ [x]) = entriesOf around episodes ++ (x.appended? around).toList :=
  filterMap_concat _ _ _

theorem entry_of_still (h : x.record? = none) : x.appended? around = none := by
  rw [Episode.appended?, h, Option.map_none, ite_self]

theorem entriesOf_still (episodes : List Episode) (h : x.record? = none) :
    entriesOf around (episodes ++ [x]) = entriesOf around episodes := by
  rw [entriesOf_concat, entry_of_still h, Option.toList_none, List.append_nil]

theorem checkpoint_checkpoint (s : ProgressStore) : s.checkpoint.checkpoint = s.checkpoint := by
  simp [ProgressStore.checkpoint, Appender.flush]

/-- True of a run none of whose files has failed. -/
def Run.Unfailed (r : Run) : Prop := ¬ r.Broken ∧ ∀ e, r.phase ≠ .ended (.error e)

/-- What the coordinator does to the store is to bring it to disk. It can fail in that only as it
ends, and where the run has its outcome it was the last thing done. -/
theorem store_coordinate (made : a.coordinate plan around = some b) :
    a.shared.store.Forward b.shared.store 0 ∧
      (b.Unfailed → b.shared.store.capture.written = a.shared.store.capture.written) ∧
      ∀ outcome, b.phase = .ended (.ok outcome) → b.shared.store = a.shared.store.checkpoint := by
  cases coordinates_of made with
  | check phase goes =>
    unfold Run.check
    split <;> exact ⟨forward_of_same rfl, fun _ => rfl, fun outcome he => by cases he⟩
  | @join last rest later phase finished =>
    have hstore : (({ a with finished := rest } : Run).join last).shared.store = a.shared.store := by
      cases last <;> rfl
    refine ⟨forward_of_same hstore, fun _ => by rw [hstore], fun outcome he => ?_⟩
    rw [(join_frame _ last).1, phase] at he
    cases he
  | @closeBatch later store next phase finished workers leaving failure saved onward =>
    have hnext : ∀ outcome, next ≠ .ended (.ok outcome) := by cases onward <;> simp
    refine ⟨?_, ?_, fun outcome he => absurd he (hnext outcome)⟩
    · rcases saved with rfl | rfl
      · exact forward_of_same rfl
      · exact forward_tryCheckpoint (List.prefix_refl _) (Nat.le_refl _) none
    · rcases saved with rfl | rfl
      · exact fun _ => rfl
      · exact fun _ => written_flush _
  | @loseBatch later fault =>
    exact ⟨forward_tryCheckpoint (List.prefix_refl _) (Nat.le_refl _) (some fault),
      fun hunfailed => absurd rfl (hunfailed.2 _), fun outcome he => by cases he⟩
  | close phase =>
    exact ⟨forward_tryCheckpoint (List.prefix_refl _) (Nat.le_refl _) none,
      fun _ => written_flush _, fun _ _ => rfl⟩
  | @loseRun outcome fault =>
    exact ⟨forward_tryCheckpoint (List.prefix_refl _) (Nat.le_refl _) (some fault),
      fun hunfailed => absurd rfl (hunfailed.2 _), fun outcome he => by cases he⟩
  | _ => exact ⟨forward_of_same rfl, fun _ => rfl, fun outcome he => by cases he⟩

/-- A story can be cut so that all records before the cut are on disk, and no more of those behind it
have got in both files than are pending. -/
def Run.SavedTo (around : Surroundings) (log : List UInt8) (episodes : List Episode) (r : Run) : Prop :=
  ∃ early late, episodes = early ++ late ∧
    log ++ (recordsOf early).flatMap ProgressRecord.lineBytes <+: r.shared.store.log.disk ∧
    (entriesOf around late).length ≤ r.shared.store.pending

/-- A move that brings the store forward moves the cut on. -/
theorem Run.SavedTo.forward {log : List UInt8} (h : a.SavedTo around log episodes)
    (hwritten : b.shared.store.log.written =
      log ++ (recordsOf (episodes ++ [x])).flatMap ProgressRecord.lineBytes)
    {more : Nat} (hstore : a.shared.store.Forward b.shared.store more)
    (hentry : (x.appended? around).toList.length ≤ more) : b.SavedTo around log (episodes ++ [x]) := by
  obtain ⟨early, late, rfl, hsaved, hlate⟩ := h
  rcases hstore with ⟨hdisk, hpending⟩ | hall
  · refine ⟨early, late ++ [x], List.append_assoc _ _ _, hsaved.trans hdisk, ?_⟩
    rw [entriesOf_concat, List.length_append]
    omega
  · refine ⟨early ++ late ++ [x], [], (List.append_nil _).symm, ?_, Nat.zero_le _⟩
    rw [hall, hwritten]

/-- The store of a run has saved the records of its story but for the last ones. While none of its
files has failed its table has a row for each, and it has nothing left to flush once the run has its
outcome. -/
structure Run.Saves (around : Surroundings) (before : ProgressStore) (episodes : List Episode) (r : Run) :
    Prop where
  log : r.SavedTo around before.log.written episodes
  table : r.Unfailed → r.shared.store.capture.written = before.capture.written ++
      (entriesOf around episodes).flatMap (fun e => e.1.rowBytes e.2) ∧
    (entriesOf around episodes).map Prod.fst = recordsOf episodes
  settled : ∀ outcome, r.phase = .ended (.ok outcome) → r.shared.store.checkpoint = r.shared.store

theorem unfailed_of_coordinate (made : a.step plan around .coordinate = some b) (h : b.Unfailed) :
    a.Unfailed := by
  refine ⟨fun hbroken => h.1 (broken_step made hbroken), fun e hphase => ?_⟩
  simp only [Run.step, Run.coordinate, hphase] at made
  cases made

/-- Where neither store nor phase nor ends change, what was saved stays saved. -/
theorem Run.Saves.same (h : a.Saves around before episodes)
    (hwritten : b.shared.store.log.written =
      before.log.written ++ (recordsOf (episodes ++ [x])).flatMap ProgressRecord.lineBytes)
    (hrecord : x.record? = none) (hstore : b.shared.store = a.shared.store)
    (hunfailed : b.Unfailed → a.Unfailed) (hphase : b.phase = a.phase) :
    b.Saves around before (episodes ++ [x]) := by
  constructor
  case log =>
    refine h.log.forward hwritten (forward_of_same hstore) ?_
    rw [entry_of_still hrecord]
    exact Nat.le_refl _
  case table =>
    intro hb
    rw [entriesOf_still episodes hrecord, recordsOf_still episodes hrecord, hstore]
    exact h.table (hunfailed hb)
  case settled =>
    rw [hstore, hphase]
    exact h.settled

theorem Run.Saves.still (h : a.Saves around before episodes) {move : Move} (hm : move.isWork = false)
    (made : a.step plan around move = some b)
    (hwritten : b.shared.store.log.written = before.log.written ++
      (recordsOf (episodes ++ [⟨a, move, b⟩])).flatMap ProgressRecord.lineBytes) :
    b.Saves around before (episodes ++ [⟨a, move, b⟩]) := by
  have hrecord : (Episode.mk a move b).record? = none := record_of_still hm
  have hunbroken : ¬ b.Broken → ¬ a.Broken := fun hb ha => hb (broken_step made ha)
  cases move with
  | coordinate =>
    obtain ⟨hstore, hcapture, hlast⟩ := store_coordinate made
    constructor
    case log =>
      refine h.log.forward hwritten hstore ?_
      rw [entry_of_still hrecord]
      exact Nat.le_refl _
    case table =>
      intro hunfailed
      rw [entriesOf_still episodes hrecord, recordsOf_still episodes hrecord, hcapture hunfailed]
      exact h.table (unfailed_of_coordinate made hunfailed)
    case settled => exact fun outcome he => by rw [hlast outcome he, checkpoint_checkpoint]
  | work ticket heed => cases hm
  | leave ticket =>
    have hsame : b.shared.store = a.shared.store ∧ b.phase = a.phase := by
      obtain ⟨l, others, -, -, ⟨-, rfl⟩ | ⟨-, rfl⟩⟩ := leave_cases made <;> exact ⟨rfl, rfl⟩
    exact h.same hwritten hrecord hsame.1
      (fun hb => ⟨hunbroken hb.1, fun e he => hb.2 e (hsame.2.trans he)⟩) hsame.2
  | stop =>
    obtain ⟨-, -, rfl⟩ := stop_made made
    exact h.same hwritten hrecord rfl id rfl
  | wait time =>
    obtain ⟨-, rfl⟩ := wait_made made
    exact h.same hwritten hrecord rfl id rfl

variable {w : Worker} {shared : Shared} {record : ProgressRecord} {method : Option String}

/-- A record that a worker appends without an error is an entry of the run. -/
theorem entry_of_appended (hw : x.worker? = some w) (hphase : w.phase = .recording record method)
    (hin : isEntered (around.logFault (.append x.before.shared.appends)) = true)
    (h : x.after.shared.store.log.written =
      x.before.shared.store.log.written ++ record.lineBytes) :
    x.appended? around = some (record, method) := by
  have hown : w.record? = some record := by rw [Worker.record?, hphase]
  rw [Episode.appended?, if_pos hin, record_of_appended hw hown h, hw, Option.map_some,
    Option.bind_some, Worker.method?, hphase]

theorem length_entry_le (around : Surroundings) (x : Episode) :
    (x.appended? around).toList.length ≤
      (isEntered (around.logFault (.append x.before.shared.appends))).toNat := by
  unfold Episode.appended?
  split
  · next hin =>
    rw [hin]
    exact Option.length_toList_le
  · exact Nat.zero_le _

/-- A run with somebody in work has not ended with an outcome. -/
theorem not_ended_of_worker {others : List Worker} (hsound : a.Sound around frontier queue before)
    (hp : a.workers.Perm (w :: others)) (outcome : RunOutcome) : a.phase ≠ .ended (.ok outcome) :=
  fun hphase => not_idle_of_perm hp (idle_of_ended hsound hphase).1

/-- A worker whose append succeeds leaves a row of it in the table. -/
theorem table_of_append (h : a.Saves around before episodes) (hw : x.worker? = some w)
    (hphase : w.phase = .recording record method) (hbefore : x.before = a)
    (hafter : x.after.shared.store =
      (a.shared.append plan around.logFault record method).1.store) (hunfailed : a.Unfailed)
    (hheld : (a.shared.store.append (around.logFault (.append a.shared.appends)) plan.saveInterval
      record method).2 = true) :
    x.after.shared.store.capture.written = before.capture.written ++
        (entriesOf around (episodes ++ [x])).flatMap (fun e => e.1.rowBytes e.2) ∧
      (entriesOf around (episodes ++ [x])).map Prod.fst = recordsOf (episodes ++ [x]) := by
  obtain ⟨hin, hstore⟩ := append_succeeds hheld
  have hstored : x.after.shared.store =
      (a.shared.store.record record method).checkpointIfDue plan.saveInterval := hafter.trans hstore
  have hwritten : x.after.shared.store.log.written =
      x.before.shared.store.log.written ++ record.lineBytes := by
    rw [hstored, checkpointIfDue_written, record_written, hbefore]
  have hentry : x.appended? around = some (record, method) :=
    entry_of_appended hw hphase (by rw [hbefore]; exact hin) hwritten
  have hrecord : x.record? = some record :=
    record_of_appended hw (by rw [Worker.record?, hphase]) hwritten
  obtain ⟨hcapture, hentries⟩ := h.table hunfailed
  constructor
  · rw [hstored, capture_checkpointIfDue, capture_record, hcapture, entriesOf_concat, hentry,
      Option.toList_some, List.flatMap_append, List.flatMap_singleton, List.append_assoc]
  · rw [entriesOf_concat, hentry, recordsOf_concat, hrecord, Option.toList_some, Option.toList_some,
      List.map_append, hentries]
    rfl

/-- The store after a step of a worker has saved what the worker appended, if it did. -/
theorem Run.Saves.work (h : a.Saves around before episodes)
    (hsound : a.Sound around frontier queue before) {ticket : Nat} {heed : Bool}
    (made : a.step plan around (.work ticket heed) = some b)
    (hwritten : b.shared.store.log.written = before.log.written ++
      (recordsOf (episodes ++ [⟨a, .work ticket heed, b⟩])).flatMap ProgressRecord.lineBytes) :
    b.Saves around before (episodes ++ [⟨a, .work ticket heed, b⟩]) := by
  obtain ⟨w, others, shared, hp, hworker, ⟨w', hdeed, rfl⟩ | ⟨e, hdeed, rfl⟩⟩ :=
    work_episode hsound made
  · have hstore := (deed_store hdeed).2.2
    exact h.same hwritten (record_of_same (hstore ▸ rfl)) hstore id rfl
  · have hbusy := not_ended_of_worker hsound hp
    generalize hr : (Except.error e : Except WorkerEnd Worker) = result at hdeed
    cases hdeed.turn with
    | goes => cases hr
    | settles => cases hr
    | breaks ahead =>
      refine h.same hwritten (record_of_same rfl) rfl (fun hb => ?_) rfl
      exact absurd (broken_of_end (by cases hr; simp)) hb.1
    | @appends record method phase =>
      constructor
      case log =>
        exact h.log.forward hwritten (forward_append _ _ _ _ _) (length_entry_le around _)
      case table =>
        intro hunfailed
        have hheld : (a.shared.store.append (around.logFault (.append a.shared.appends))
            plan.saveInterval record method).2 = true := by
          by_contra hfailed
          have hend : e = .logFailed := by simpa [Shared.append, hfailed] using hr
          exact hunfailed.1 (broken_of_end (by simp [hend]))
        exact table_of_append h hworker phase rfl rfl
          ⟨fun hbroken => hunfailed.1 (broken_finish hbroken), hunfailed.2⟩ hheld
      case settled => exact fun outcome he => absurd he (hbusy outcome)

/-- A store with nothing left to flush has all it wrote on disk. -/
theorem Run.Saves.whole {log capture : List UInt8} (h : r.Saves around (.open log capture) episodes)
    (hlogged : r.Logged queue (.open log capture) episodes)
    (hidle : r.Idle) (he : r.phase = .ended (.ok outcome)) :
    r.shared.store.pending = 0 ∧
      r.shared.store.log.disk =
        closeLog log ++ (recordsOf episodes).flatMap ProgressRecord.lineBytes ∧
      r.shared.store.capture.disk = (openCapture capture).disk ++
        (entriesOf around episodes).flatMap (fun e => e.1.rowBytes e.2) ∧
      (entriesOf around episodes).map Prod.fst = recordsOf episodes := by
  have hsettled := h.settled outcome he
  have hcapture : (openCapture capture).written = (openCapture capture).disk := by
    rw [Appender.written, held_openCapture, List.append_nil]
  have hpending : r.shared.store.pending = 0 := by rw [← hsettled]; rfl
  have hlog : r.shared.store.log.disk = r.shared.store.log.written := by
    rw [← hsettled, checkpoint_written]
    rfl
  have htable : r.shared.store.capture.disk = r.shared.store.capture.written := by
    rw [← hsettled]
    exact (List.append_nil _).symm
  have hopened : (ProgressStore.open log capture).log.written = closeLog log := List.append_nil _
  obtain ⟨hrows, hentries⟩ := h.table ⟨hidle.not_broken, fun e hphase => by rw [he] at hphase; cases hphase⟩
  refine ⟨hpending, ?_, ?_, hentries⟩
  · rw [hlog, hlogged.written, hopened]
  · rw [htable, hrows]
    exact congrArg (· ++ _) hcapture

end Archiver
