import Archiver.Proofs.Harvest.StoryBooks

namespace Archiver

/-- True of a URL that was done in a log, or is a success in records that came after it. -/
def isDoneAfter (log : List UInt8) (records : List ProgressRecord) (url : CanonicalUrl) : Bool :=
  (Snapshot.ofLog log).isDone url || records.any fun record => record.url == url && record.isSuccess

/-- What a run over a frontier does again after the stories of a first run, whose store it opens
anew. -/
structure Reentered (frontier : List FrontierEntry) (log : List UInt8) (first : List Episode)
    (after : ProgressStore) (second : List Episode) (s : Run) : Prop where
  untouched : ∀ entry ∈ frontier, isDoneAfter log (recordsOf first) entry.url = true →
    (∀ q ∈ requestsOf second, q.url ≠ entry.url.text) ∧
      ∀ record ∈ recordsOf second, record.url ≠ entry.url
  queue : queueOf true after.reopen.snapshot frontier =
    frontier.filter fun entry => !isDoneAfter log (recordsOf first) entry.url
  finished : (∀ entry ∈ frontier, isDoneAfter log (recordsOf first) entry.url = true) →
    s.report.attempted = 0 ∧ s.shared.requests = [] ∧ recordsOf second = [] ∧
      s.shared.store.log.disk = after.close.log.disk ∧
      s.shared.store.close.log.disk = after.close.log.disk

variable {plan : Plan} {around : Surroundings} {diff cancelled : Bool} {frontier : List FrontierEntry}
  {files : Files} {store : ProgressStore} {log capture : List UInt8} {episodes : List Episode}
  {outcome : RunOutcome} {r a b s : Run}

/-- The store of a run that has ended mirrors the log it was opened over and what the run recorded. -/
theorem mirrors_of_ended (hs : 0 < plan.batchSize)
    (h : (Run.start plan diff cancelled frontier files (.open log capture)).Story plan around
      episodes r)
    (he : r.phase = .ended (.ok outcome)) (hv : ∀ record ∈ recordsOf episodes, record.timestamp.Valid) :
    r.shared.store.Mirrors (logRecords log ++ recordsOf episodes) := by
  have hlogged := logged_of_story hs h
  obtain ⟨hidle, hheld⟩ := idle_of_ended (sound_of_reaches hs (reaches_of_story h)) he
  obtain ⟨hclosed, hrecords, hview, -⟩ := mirrors_open log capture
  constructor
  case closed => rw [hlogged.written, isTorn_append_lines hclosed]
  case records => rw [hlogged.written, logRecords_append_lines hclosed hv, hrecords]
  case view =>
    rw [hlogged.written, hlogged.snapshot hidle.not_broken, ofLog_append_lines hclosed hv, hview]
  case flushed => exact fun _ => hheld

theorem urls_of_ended (hn : (frontier.map (·.url)).Nodup) (hs : 0 < plan.batchSize)
    (h : (Run.start plan diff cancelled frontier files store).Story plan around episodes r)
    (he : r.phase = .ended (.ok outcome)) :
    ((recordsOf episodes).map (·.url)).Nodup ∧
      ∀ record ∈ recordsOf episodes, (diff && store.snapshot.isDone record.url) = false := by
  have hidle := (idle_of_ended (sound_of_reaches hs (reaches_of_story h)) he).1
  have hlogged := logged_of_story hs h
  have hurls := hlogged.urls hidle.not_broken
  rw [hidle.workers, List.map_nil, List.append_nil] at hurls
  have hqueue := nodup_queueOf hn diff store.snapshot
  refine ⟨hurls.nodup_iff.mpr (hqueue.sublist ((List.take_sublist _ _).map _)), ?_⟩
  intro record hrecord
  obtain ⟨entry, hentry, hurl⟩ := List.mem_map.mp (hlogged.recorded record hrecord)
  have hmore := (List.mem_filter.mp (List.mem_of_mem_take hentry)).2
  rw [← hurl]
  simpa only [Bool.not_eq_true'] using hmore

theorem isDone_iff {s : Snapshot} {records : List ProgressRecord} (h : s.Tells records)
    (url : CanonicalUrl) : s.isDone url = true ↔
      ∃ record, record.url = url ∧ IsLatest records record ∧ record.outcome = .success := by
  rw [h.done]
  simp only [h.latest, and_assoc]

/-- The store of a run that has ended, opened anew, knows as done what was done before the run and
what the run recorded as a success. -/
theorem isDone_reopen (hn : (frontier.map (·.url)).Nodup) (hs : 0 < plan.batchSize)
    (h : (Run.start plan true cancelled frontier files (.open log capture)).Story plan around
      episodes r)
    (he : r.phase = .ended (.ok outcome)) (hv : ∀ record ∈ recordsOf episodes, record.timestamp.Valid)
    (ht : ∀ old ∈ logRecords log, ∀ new ∈ recordsOf episodes,
      old.timestamp.later new.timestamp = false) (url : CanonicalUrl) :
    r.shared.store.reopen.snapshot.isDone url = isDoneAfter log (recordsOf episodes) url := by
  obtain ⟨hdistinct, hfresh⟩ := urls_of_ended hn hs h he
  have hmirrors := (mirrors_of_ended hs h he hv).reopen
  have htells : r.shared.store.reopen.snapshot.Tells (logRecords log ++ recordsOf episodes) := by
    rw [hmirrors.view, ← hmirrors.records]
    exact ofLog_tells _
  rw [Bool.eq_iff_iff, isDoneAfter, Bool.or_eq_true, List.any_eq_true, isDone_iff htells,
    isDone_iff (ofLog_tells log)]
  simp only [isLatest_append hdistinct ht, Bool.and_eq_true, beq_iff_eq, isSuccess_iff]
  constructor
  · rintro ⟨record, hurl, hrecord | ⟨hrecord, -⟩, hsuccess⟩
    · exact Or.inr ⟨record, hrecord, hurl, hsuccess⟩
    · exact Or.inl ⟨record, hurl, hrecord, hsuccess⟩
  · rintro (⟨record, hurl, hrecord, hsuccess⟩ | ⟨record, hrecord, hurl, hsuccess⟩)
    · refine ⟨record, hurl, Or.inr ⟨hrecord, fun hnew => ?_⟩, hsuccess⟩
      -- a URL that was done before the run was not in its queue
      obtain ⟨new, hmem, hsame⟩ := List.mem_map.mp hnew
      have hdone : (Snapshot.ofLog log).isDone new.url = true :=
        (isDone_iff (ofLog_tells log) new.url).mpr ⟨record, hsame.symm, hrecord, hsuccess⟩
      have hnot := hfresh new hmem
      rw [Bool.true_and] at hnot
      exact absurd (hnot.symm.trans hdone) Bool.false_ne_true
    · exact ⟨record, hurl, Or.inl hrecord, hsuccess⟩

/-- A run that has found nothing to do. -/
structure Run.Spare (report : Report) (bytes : List UInt8) (r : Run) : Prop where
  workers : r.workers = []
  leaving : r.leaving = []
  phase : r.phase = .opening [] ∨ r.phase = .closing .completed ∨ ∃ result, r.phase = .ended result
  report : r.report = report
  requests : r.shared.requests = []
  log : r.shared.store.log = ⟨bytes, []⟩
  pending : r.shared.store.pending = 0

variable {report : Report} {bytes : List UInt8} {move : Move}

theorem Run.Spare.coordinate (h : a.Spare report bytes) (made : a.coordinate plan around = some b) :
    b.Spare report bytes := by
  rcases h.phase with hphase | hphase | ⟨result, hphase⟩
  · simp only [Run.coordinate, hphase] at made
    cases made
    exact ⟨h.workers, h.leaving, Or.inr (Or.inl rfl), h.report, h.requests, h.log, h.pending⟩
  · cases coordinates_of made with
    | close phase =>
      refine ⟨h.workers, h.leaving, Or.inr (Or.inr ⟨_, rfl⟩), h.report, h.requests, ?_, rfl⟩
      simp only [ProgressStore.checkpoint, h.log, Appender.flush, List.append_nil]
    | @loseRun _ fault phase =>
      -- a log that holds nothing back stays as it is, whatever file fails
      refine ⟨h.workers, h.leaving, Or.inr (Or.inr ⟨_, rfl⟩), h.report, h.requests, ?_, ?_⟩
      · cases fault <;>
          simp [ProgressStore.tryCheckpoint, h.log, Appender.flush, Appender.spill]
      · cases fault <;> exact h.pending
    | _ phase => cases hphase.symm.trans phase
  · simp only [Run.coordinate, hphase] at made
    cases made

theorem Run.Spare.step (h : a.Spare report bytes) (made : a.step plan around move = some b) :
    b.Spare report bytes := by
  cases move with
  | coordinate => exact h.coordinate made
  | work ticket heed =>
    obtain ⟨w, shared, hw, -⟩ := work_found made
    rw [h.workers] at hw
    cases hw
  | leave ticket =>
    obtain ⟨l, others, hp, -⟩ := leave_cases made
    rw [h.leaving] at hp
    exact absurd hp.symm.eq_nil (List.cons_ne_nil _ _)
  | stop =>
    obtain ⟨-, -, rfl⟩ := stop_made made
    exact ⟨h.workers, h.leaving, h.phase, h.report, h.requests, h.log, h.pending⟩
  | wait time =>
    obtain ⟨-, rfl⟩ := wait_made made
    exact ⟨h.workers, h.leaving, h.phase, h.report, h.requests, h.log, h.pending⟩

theorem spare_of_reaches (hq : queueOf diff store.snapshot frontier = [])
    (hlog : store.log = ⟨bytes, []⟩) (hpending : store.pending = 0)
    (h : (Run.start plan diff cancelled frontier files store).Reaches plan around r) :
    r.Spare (Run.start plan diff cancelled frontier files store).report bytes := by
  refine h.invariant ⟨rfl, rfl, Or.inl ?_, rfl, rfl, hlog, hpending⟩ fun hspare made => hspare.step made
  simp only [Run.start, hq]
  rfl

/-- Whatever log the first of two runs starts from, whatever either meets and whenever each is
stopped: if the records of the first are no earlier than those in the log and it ends without an
error, the second finds its queue in what is neither done before nor recorded as a success in the
first, does nothing about any other URL, and leaves the log as it is if there is nothing to do. -/
theorem reentry {config config' : Config} {around around' : Surroundings} {cancelled cancelled' : Bool}
    {files files' : Files} {first second : List Episode} (hn : (frontier.map (·.url)).Nodup)
    (h : (Run.start (.of config) true cancelled frontier files (.open log capture)).Story (.of config)
      around first r)
    (he : r.phase = .ended (.ok outcome)) (hv : ∀ record ∈ recordsOf first, record.timestamp.Valid)
    (ht : ∀ old ∈ logRecords log, ∀ new ∈ recordsOf first, old.timestamp.later new.timestamp = false)
    (h' : (Run.start (.of config') true cancelled' frontier files' r.shared.store.reopen).Story
      (.of config') around' second s) :
    Reentered frontier log first r.shared.store second s := by
  have hs : 0 < (Plan.of config).batchSize := Nat.le_max_right _ _
  have hs' : 0 < (Plan.of config').batchSize := Nat.le_max_right _ _
  have hdone := isDone_reopen hn hs h he hv ht
  have hmirrors := mirrors_of_ended hs h he hv
  have hlogged := logged_of_story hs' h'
  have hqueue : queueOf true r.shared.store.reopen.snapshot frontier =
      frontier.filter fun entry => !isDoneAfter log (recordsOf first) entry.url := by
    simp only [queueOf, hdone, Bool.true_and]
  have hfresh : ∀ url ∈ ((queueOf true r.shared.store.reopen.snapshot frontier).take s.handed).map
      (·.url), isDoneAfter log (recordsOf first) url = false := by
    intro url hurl
    obtain ⟨entry, hentry, rfl⟩ := List.mem_map.mp hurl
    rw [hqueue] at hentry
    simpa using (List.mem_filter.mp (List.mem_of_mem_take hentry)).2
  constructor
  case untouched =>
    intro entry _ hold
    refine ⟨fun q hq he => ?_, fun record hrecord he => ?_⟩
    · obtain ⟨url, hurl, htext⟩ := hlogged.asked q hq
      have hnew := hfresh url hurl
      rw [text_inj (htext.symm.trans he), hold] at hnew
      cases hnew
    · have hnew := hfresh record.url (hlogged.recorded record hrecord)
      rw [he, hold] at hnew
      cases hnew
  case queue => exact hqueue
  case finished =>
    intro hall
    have hempty : queueOf true r.shared.store.reopen.snapshot frontier = [] := by
      rw [hqueue, List.filter_eq_nil_iff]
      intro entry hentry
      simp [hall entry hentry]
    have hlog : r.shared.store.reopen.log = ⟨r.shared.store.close.log.disk, []⟩ := by
      rw [hmirrors.reopen_log, hmirrors.close_disk]
    have hspare := spare_of_reaches hempty hlog rfl (reaches_of_story h')
    have hclose : s.shared.store.close = s.shared.store := by
      rw [ProgressStore.close, hspare.pending]
      rfl
    refine ⟨by rw [hspare.report]; rfl, hspare.requests, ?_, by rw [hspare.log],
      by rw [hclose, hspare.log]⟩
    refine List.eq_nil_iff_forall_not_mem.mpr fun record hrecord => ?_
    have hurl := hlogged.recorded record hrecord
    rw [hempty, List.take_nil] at hurl
    exact absurd hurl List.not_mem_nil

def reentryConfig : Config :=
  { (default : Config) with
    harvest := { (default : HarvestSettings) with batchSize := 2, workers := 2 }
    output := { (default : OutputSettings) with archiveDir := "archive" } }

def reentryFrontier : List FrontierEntry :=
  [⟨⟨"https://a.test/1"⟩, "list", none⟩, ⟨⟨"https://a.test/2"⟩, "list", none⟩]

/-- A site that has one of its pages. -/
def reentryAround : Surroundings :=
  ⟨fun _ text => ⟨if text == "https://a.test/1" then .page 200 "x" else .refused 500, 0, false, false⟩,
    .notNeeded, none, ⟨0, 0⟩, fun _ => none⟩

/-- A log that ends in a torn line. -/
def reentryLog : List UInt8 := [0x7B, 0xC3]

def firstPlay : List Episode × Run :=
  (Run.start (.of reentryConfig) true false reentryFrontier .empty (.open reentryLog [])).play
    (.of reentryConfig) reentryAround
    (List.flatten [.replicate 4 .coordinate, .flatten (.replicate 5 [.work 1 true, .work 0 true]),
      [.leave 1, .leave 0], .replicate 6 .coordinate]) []

def secondPlay : List Episode × Run :=
  (Run.start (.of reentryConfig) true false reentryFrontier .empty
    firstPlay.2.shared.store.reopen).play (.of reentryConfig) reentryAround
    (List.flatten [.replicate 3 .coordinate, .replicate 5 (.work 0 true), [.leave 0],
      .replicate 5 .coordinate]) []

theorem firstPlay_records : recordsOf firstPlay.1 =
    [⟨⟨"https://a.test/2"⟩, .failure, ⟨0, 0⟩, 0, some "HTTP 500"⟩,
      ⟨⟨"https://a.test/1"⟩, .success, ⟨0, 0⟩, 0, none⟩] := by
  decide +kernel

theorem reentry_torn :
    firstPlay.2.phase = .ended (.ok .completed) ∧
      (recordsOf secondPlay.1).map (·.url.text) = ["https://a.test/2"] ∧
      Reentered reentryFrontier reentryLog firstPlay.1 firstPlay.2.shared.store secondPlay.1
        secondPlay.2 := by
  have hended : firstPlay.2.phase = .ended (.ok .completed) :=
    phase_of_hasCompleted (by decide +kernel)
  have hlog : logRecords reentryLog = [] := by decide +kernel
  refine ⟨hended, by decide +kernel, ?_⟩
  refine reentry (by decide) (story_play _ .start) hended ?_ ?_ (story_play _ .start)
  · rw [firstPlay_records]
    decide
  · rw [hlog]
    exact fun old hold => absurd hold List.not_mem_nil

end Archiver
