import Archiver.Proofs.Harvest.Ending
import Archiver.Proofs.Harvest.Steady

namespace Archiver

def Config.withWorkers (c : Config) (workers : Nat) : Config :=
  { c with harvest := { c.harvest with workers := workers } }

variable {plan : Plan} {around : Surroundings} {answers : String → Nat → Reply}
  {session : SessionCheck} {frontier queue : List FrontierEntry} {files : Files}
  {store before : ProgressStore} {episodes episodes' : List Episode} {r r' : Run} {diff : Bool}
  {result result' : Except HarvestError RunOutcome}

/-- What a run over a queue came to that recorded all of it. -/
structure Run.Whole (size : Nat) (frontier queue : List FrontierEntry)
    (records : List ProgressRecord) (r : Run) : Prop where
  urls : (records.map (·.url)).Perm (queue.map (·.url))
  frontierSize : r.report.frontierSize = frontier.length
  alreadyDone : r.report.alreadyDone + queue.length = frontier.length
  attempted : r.report.attempted = queue.length
  counts : ∀ outcome, r.report.of outcome = records.countP (·.outcome == outcome)
  enough : queue.length ≤ r.report.batches * size
  needed : r.report.batches * size < queue.length + size

/-- A fair run that has ended has completed, and has recorded its whole queue. -/
theorem whole_of_ended (hs : 0 < plan.batchSize)
    (h : (Run.start plan diff false frontier files store).Story plan around episodes r)
    (hfair : r.Fair plan answers session (queueOf diff store.snapshot frontier) episodes)
    (he : r.phase = .ended result) :
    result = .ok .completed ∧ r.Whole plan.batchSize frontier
      (queueOf diff store.snapshot frontier) (recordsOf episodes) := by
  have hphase := hfair.phase
  rw [he] at hphase
  cases result with
  | error e => exact absurd hphase id
  | ok outcome =>
    obtain rfl : outcome = .completed := hphase
    have hsound := sound_of_reaches hs (reaches_of_story h)
    have hplace := hsound.place
    rw [Run.Place, he] at hplace
    obtain ⟨hidle, hall, -⟩ := hplace
    have hgate := (atGate_of_story hs h).1
    rw [Run.AtGate, he] at hgate
    obtain ⟨-, hhanded, hneeded⟩ := hgate
    have hurls := (logged_of_story hs h).urls hfair.unbroken
    rw [hidle.workers, List.map_nil, List.append_nil, List.take_of_length_le (hall rfl)] at hurls
    have hcounts : ∀ outcome, r.report.of outcome =
        (recordsOf episodes).countP (·.outcome == outcome) := by
      intro outcome
      have hcount := counted_of_story hs h hfair.unbroken outcome
      rw [hidle.tally, hidle.ends, Tally.of_zero, List.countP_nil] at hcount
      omega
    refine ⟨rfl, hurls, hsound.frontierSize, hsound.alreadyDone, ?_, hcounts,
      Nat.le_trans (hall rfl) hhanded, hneeded⟩
    have hlength := hurls.length_eq
    rw [List.length_map, List.length_map, length_eq_outcomes] at hlength
    have hs := hcounts .success
    have hf := hcounts .failure
    have hk := hcounts .skipped
    have hreport := hsound.report
    simp only [Report.of] at hs hf hk
    omega

theorem batches_unique {size length m n : Nat} (hm : length ≤ m * size)
    (hm' : m * size < length + size) (hn : length ≤ n * size) (hn' : n * size < length + size) :
    m = n := by
  have hmn : m * size < (n + 1) * size := by
    rw [Nat.succ_mul]
    omega
  have hnm : n * size < (m + 1) * size := by
    rw [Nat.succ_mul]
    omega
  have hle := Nat.lt_of_mul_lt_mul_right hmn
  have hge := Nat.lt_of_mul_lt_mul_right hnm
  omega

theorem report_eq {a b : Report} (hfrontier : a.frontierSize = b.frontierSize)
    (hdone : a.alreadyDone = b.alreadyDone) (hattempted : a.attempted = b.attempted)
    (hof : ∀ outcome, a.of outcome = b.of outcome) (hbatches : a.batches = b.batches) : a = b := by
  have hs := hof .success
  have hf := hof .failure
  have hk := hof .skipped
  cases a
  cases b
  simp only [Report.of] at *
  subst_vars
  rfl

theorem nodup_results (hn : (queue.map (·.url)).Nodup) {records : List ProgressRecord}
    (hurls : (records.map (·.url)).Perm (queue.map (·.url))) : (records.map (·.result)).Nodup := by
  have hmap : ((records.map (·.result)).map (·.1)).Nodup := by
    rw [List.map_map]
    exact hurls.nodup_iff.mpr hn
  exact hmap.of_map

/-- Records of the URLs of a queue that follow from the same answers have the same results. -/
theorem results_perm {replies : Nat → CanonicalUrl → Nat → Reply} {records records' : List ProgressRecord}
    (hn : (queue.map (·.url)).Nodup) (hurls : (records.map (·.url)).Perm (queue.map (·.url)))
    (hurls' : (records'.map (·.url)).Perm (queue.map (·.url)))
    (h : ∀ record ∈ records, ∃ i, (queue[i]?).map (·.url) = some record.url ∧
      record.Follows plan (replies i record.url))
    (h' : ∀ record ∈ records', ∃ i, (queue[i]?).map (·.url) = some record.url ∧
      record.Follows plan (replies i record.url)) :
    (records.map (·.result)).Perm (records'.map (·.result)) := by
  have hresult : ∀ record ∈ records, ∀ record' ∈ records', record'.url = record.url →
      record'.result = record.result := by
    intro record hrecord record' hrecord' hsame
    obtain ⟨i, hi, hfollows⟩ := h record hrecord
    obtain ⟨j, hj, hfollows'⟩ := h' record' hrecord'
    rw [← List.getElem?_map] at hi hj
    have hlt : i < (queue.map (·.url)).length := (List.getElem?_eq_some_iff.mp hi).1
    obtain rfl : i = j := (List.getElem?_inj hlt hn).mp (by rw [hi, hj, hsame])
    rw [hsame] at hfollows'
    exact follows_unique hfollows' hfollows hsame
  have hboth := hurls.trans hurls'.symm
  rw [List.perm_ext_iff_of_nodup (nodup_results hn hurls) (nodup_results hn hurls')]
  intro x
  constructor
  · intro hx
    obtain ⟨record, hrecord, rfl⟩ := List.mem_map.mp hx
    obtain ⟨record', hrecord', hsame⟩ :=
      List.mem_map.mp (hboth.mem_iff.mp (List.mem_map_of_mem hrecord))
    exact List.mem_map.mpr ⟨record', hrecord', hresult record hrecord record' hrecord' hsame⟩
  · intro hx
    obtain ⟨record', hrecord', rfl⟩ := List.mem_map.mp hx
    obtain ⟨record, hrecord, hsame⟩ :=
      List.mem_map.mp (hboth.mem_iff.mpr (List.mem_map_of_mem hrecord'))
    exact List.mem_map.mpr
      ⟨record, hrecord, (hresult record hrecord record' hrecord' hsame.symm).symm⟩

theorem countP_result (records : List ProgressRecord) (outcome : Outcome) :
    records.countP (·.outcome == outcome) =
      (records.map (·.result)).countP fun x => x.2.1 == outcome := by
  rw [List.countP_map]
  rfl

/-- What a record follows from has nothing to do with the number of workers. -/
theorem follows_withWorkers {config : Config} {m : Nat} {records : List ProgressRecord}
    (h : ∀ record ∈ records, ∃ i, (queue[i]?).map (·.url) = some record.url ∧
      record.Follows (.of (config.withWorkers m))
        (repliesAt answers session (Plan.of (config.withWorkers m)).batchSize i record.url)) :
    ∀ record ∈ records, ∃ i, (queue[i]?).map (·.url) = some record.url ∧
      record.Follows (.of config) (repliesAt answers session (Plan.of config).batchSize i record.url) := by
  intro record hrecord
  obtain ⟨i, hi, k, hk⟩ := h record hrecord
  exact ⟨i, hi, k, hk⟩

theorem agree_of_ended {config : Config} {m n : Nat} {around around' : Surroundings}
    (hn : (frontier.map (·.url)).Nodup) (hm : ¬ config.harvest.multiplier < 0.0)
    (ha : around.Steady answers) (ha' : around'.Steady answers)
    (hsession : around'.session = around.session)
    (h : (Run.start (.of (config.withWorkers m)) diff false frontier files store).Story
      (.of (config.withWorkers m)) around episodes r)
    (h' : (Run.start (.of (config.withWorkers n)) diff false frontier files store).Story
      (.of (config.withWorkers n)) around' episodes' r')
    (hkept : ∀ x ∈ episodes, x.losesArticle (.of (config.withWorkers m)) around = false)
    (hkept' : ∀ x ∈ episodes', x.losesArticle (.of (config.withWorkers n)) around' = false)
    (he : r.phase = .ended result) (he' : r'.phase = .ended result') :
    result = .ok .completed ∧ result' = .ok .completed ∧
      r.shared.store.log.written =
        store.log.written ++ (recordsOf episodes).flatMap ProgressRecord.lineBytes ∧
      r'.shared.store.log.written =
        store.log.written ++ (recordsOf episodes').flatMap ProgressRecord.lineBytes ∧
      ((recordsOf episodes).map (·.result)).Perm ((recordsOf episodes').map (·.result)) ∧
      r.report = r'.report := by
  have hs : ∀ k, 0 < (Plan.of (config.withWorkers k)).batchSize := fun _ => Nat.le_max_right _ _
  have hqueue := nodup_queueOf hn diff store.snapshot
  have hwaits : ∀ k, ¬ (Plan.of (config.withWorkers k)).policy.multiplier < 0.0 := fun _ => hm
  have hfair := fair_of_story ha (hwaits m) (hs m) hn h hkept
  have hfair' := fair_of_story ha' (hwaits n) (hs n) hn h' hkept'
  obtain ⟨hresult, hwhole⟩ := whole_of_ended (hs m) h hfair he
  obtain ⟨hresult', hwhole'⟩ := whole_of_ended (hs n) h' hfair' he'
  have hfollows := follows_withWorkers hfair.follows
  have hfollows' := follows_withWorkers hfair'.follows
  rw [hsession] at hfollows'
  -- the number of workers is nothing that a record depends on
  have hperm : ((recordsOf episodes).map (·.result)).Perm ((recordsOf episodes').map (·.result)) :=
    results_perm hqueue hwhole.urls hwhole'.urls hfollows hfollows'
  refine ⟨hresult, hresult', (logged_of_story (hs m) h).written,
    (logged_of_story (hs n) h').written, hperm, ?_⟩
  refine report_eq (hwhole.frontierSize.trans hwhole'.frontierSize.symm) ?_
    (hwhole.attempted.trans hwhole'.attempted.symm) ?_
    (batches_unique hwhole.enough hwhole.needed hwhole'.enough hwhole'.needed)
  · have hdone := hwhole.alreadyDone
    have hdone' := hwhole'.alreadyDone
    omega
  · intro outcome
    rw [hwhole.counts, hwhole'.counts, countP_result, countP_result]
    exact hperm.countP_eq _

/-- Two runs over the same queue, in surroundings that give the same answers and are steady, but with
any number of workers, any latencies and in any order of their moves: each comes to an end in every
such order, and as long as the archive takes in their articles, both complete, record the same results
and report the same counts. Waits that would be below zero lose a worker; a checked configuration has
none. -/
theorem schedule_free {config : Config} {m n : Nat} {around around' : Surroundings}
    (hn : (frontier.map (·.url)).Nodup) (hm : ¬ config.harvest.multiplier < 0.0)
    (ha : around.Steady answers) (ha' : around'.Steady answers)
    (hsession : around'.session = around.session) :
    (Run.start (.of (config.withWorkers m)) diff false frontier files store).Terminates
        (.of (config.withWorkers m)) around ∧
      (Run.start (.of (config.withWorkers n)) diff false frontier files store).Terminates
        (.of (config.withWorkers n)) around' ∧
      ∀ episodes episodes' r r' result result',
        (Run.start (.of (config.withWorkers m)) diff false frontier files store).Story
          (.of (config.withWorkers m)) around episodes r →
        (Run.start (.of (config.withWorkers n)) diff false frontier files store).Story
          (.of (config.withWorkers n)) around' episodes' r' →
        (∀ x ∈ episodes, x.losesArticle (.of (config.withWorkers m)) around = false) →
        (∀ x ∈ episodes', x.losesArticle (.of (config.withWorkers n)) around' = false) →
        r.phase = .ended result → r'.phase = .ended result' →
        result = .ok .completed ∧ result' = .ok .completed ∧
          r.shared.store.log.written =
            store.log.written ++ (recordsOf episodes).flatMap ProgressRecord.lineBytes ∧
          r'.shared.store.log.written =
            store.log.written ++ (recordsOf episodes').flatMap ProgressRecord.lineBytes ∧
          ((recordsOf episodes).map (·.result)).Perm ((recordsOf episodes').map (·.result)) ∧
          r.report = r'.report := by
  have hs : ∀ k, 0 < (Plan.of (config.withWorkers k)).batchSize := fun _ => Nat.le_max_right _ _
  refine ⟨terminates_start (hs m), terminates_start (hs n), ?_⟩
  intro episodes episodes' r r' result result' h h' hkept hkept' he he'
  exact agree_of_ended hn hm ha ha' hsession h h' hkept hkept' he he'

def racedConfig : Config :=
  { (default : Config) with
    harvest := { (default : HarvestSettings) with
      maxRetries := 1, multiplier := 1.0, batchSize := 2, leastContent := 1 }
    output := { (default : OutputSettings) with archiveDir := "archive" } }

def racedFrontier : List FrontierEntry :=
  [⟨⟨"https://a.test/1"⟩, "list", none⟩, ⟨⟨"https://a.test/2"⟩, "list", none⟩]

/-- One page comes at the second try, and the other is gone. -/
def racedAnswers (text : String) (earlier : Nat) : Reply :=
  if text == "https://a.test/1" then (if earlier == 0 then .refused 503 else .page 200 "x")
  else .refused 404

def racedAround (latency : Nat) : Surroundings :=
  ⟨fun earlier text =>
      ⟨racedAnswers text (earlier.countP fun q => q.url == text), latency, false, false⟩,
    .notNeeded, none, ⟨0, 0⟩, fun _ => none⟩

theorem racedAround_steady (latency : Nat) : (racedAround latency).Steady racedAnswers :=
  ⟨fun _ _ => rfl, fun _ _ => rfl, fun _ _ => rfl, rfl, fun _ => rfl, trivial⟩

def racedPlay (workers latency : Nat) (moves : List Move) : List Episode × Run :=
  (Run.start (.of (racedConfig.withWorkers workers)) false false racedFrontier .empty
    (.open [] [])).play (.of (racedConfig.withWorkers workers)) (racedAround latency) moves []

theorem racedPlay_story (workers latency : Nat) (moves : List Move) :
    (Run.start (.of (racedConfig.withWorkers workers)) false false racedFrontier .empty
      (.open [] [])).Story (.of (racedConfig.withWorkers workers)) (racedAround latency)
      (racedPlay workers latency moves).1 (racedPlay workers latency moves).2 :=
  story_play moves .start

/-- Two workers take turns over answers that come at once. -/
def pairMoves : List Move := List.flatten
  [.replicate 4 .coordinate, .flatten (.replicate 5 [.work 1 true, .work 0 true]), [.leave 1],
    .replicate 3 (.work 0 true), [.leave 0], .replicate 6 .coordinate]

/-- One worker waits for answers that take their time. -/
def soloMoves : List Move := List.flatten
  [.replicate 3 .coordinate, .replicate 2 (.work 0 true), [.wait 5], .replicate 3 (.work 0 true),
    [.wait 10], .replicate 3 (.work 0 true), [.leave 0], .replicate 2 .coordinate,
    .replicate 2 (.work 1 true), [.wait 15], .replicate 3 (.work 1 true), [.leave 1],
    .replicate 5 .coordinate]

theorem schedule_free_raced :
    (racedPlay 2 0 pairMoves).2.phase = .ended (.ok .completed) ∧
      (racedPlay 1 5 soloMoves).2.phase = .ended (.ok .completed) ∧
      (recordsOf (racedPlay 2 0 pairMoves).1).map (·.result) =
        [(⟨"https://a.test/2"⟩, .skipped, 0, some "HTTP 404"),
          (⟨"https://a.test/1"⟩, .success, 1, none)] ∧
      ((recordsOf (racedPlay 2 0 pairMoves).1).map (·.result)).Perm
        ((recordsOf (racedPlay 1 5 soloMoves).1).map (·.result)) ∧
      (racedPlay 2 0 pairMoves).2.report = (racedPlay 1 5 soloMoves).2.report := by
  have hpair : (racedPlay 2 0 pairMoves).2.phase = .ended (.ok .completed) :=
    phase_of_hasCompleted (by decide +kernel)
  have hsolo : (racedPlay 1 5 soloMoves).2.phase = .ended (.ok .completed) :=
    phase_of_hasCompleted (by decide +kernel)
  have hwaits : ¬ racedConfig.harvest.multiplier < 0.0 := by decide +kernel
  have hkept : ∀ x ∈ (racedPlay 2 0 pairMoves).1,
      x.losesArticle (.of (racedConfig.withWorkers 2)) (racedAround 0) = false := by
    decide +kernel
  have hkept' : ∀ x ∈ (racedPlay 1 5 soloMoves).1,
      x.losesArticle (.of (racedConfig.withWorkers 1)) (racedAround 5) = false := by
    decide +kernel
  obtain ⟨-, -, -, -, hperm, hreport⟩ := (schedule_free (by decide) hwaits (racedAround_steady 0)
    (racedAround_steady 5) rfl).2.2 _ _ _ _ _ _ (racedPlay_story 2 0 pairMoves)
    (racedPlay_story 1 5 soloMoves) hkept hkept' hpair hsolo
  exact ⟨hpair, hsolo, by decide +kernel, hperm, hreport⟩

end Archiver
