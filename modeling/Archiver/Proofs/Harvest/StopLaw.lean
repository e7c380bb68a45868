import Archiver.Proofs.Config.Demands
import Archiver.Proofs.Fetch.LeastWaits
import Archiver.Proofs.Harvest.Ending
import Archiver.Proofs.Harvest.Fate
import Archiver.Proofs.Harvest.Stopped

namespace Archiver

/-- The URL whose worker ends in a move without a record in the log. -/
def Episode.lost? (x : Episode) : Option CanonicalUrl :=
  match x.record? with
  | some _ => none
  | none => x.ended?

def lostOf (episodes : List Episode) : List CanonicalUrl := episodes.filterMap Episode.lost?

/-- What happens to a run from a moment on at which it is to stop. -/
structure StopLaw (plan : Plan) (around : Surroundings) (queue : List FrontierEntry)
    (front back : List Episode) (m r : Run) : Prop where
  handed : handedOf back = []
  /-- Each URL handed out that has not ended gets one more request at most. -/
  requests : ((endedOf front).map (·.text) ++ (requestsOf back).map (·.url)).Subperm
    ((handedOf front).map (·.text))
  /-- Each URL handed out has its one record, is in work, or was lost. -/
  records : ((recordsOf (front ++ back)).map (·.url) ++ lostOf (front ++ back) ++
    r.workers.map (·.url)).Perm (handedOf front)
  /-- Nothing is lost but by the log or together with a worker. -/
  kept : (∀ earlier bytes, around.logFault (.append earlier) ≠ some (.line bytes)) →
    (∀ earlier text, (around.site earlier text).losesWorker = false) → lostOf (front ++ back) = []
  idle : ∀ result, r.phase = .ended result → r.workers = [] ∧ r.leaving = []
  /-- Before its last batch is closed the run can only be cut off. -/
  outcome : m.report.batches < (batchesOf plan.batchSize queue).length →
    ∀ outcome, r.phase = .ended (.ok outcome) → outcome = .cancelled ∨
      (∃ n, outcome = .sessionExpired n) ∧ .answered false ∈ gatesOf (front ++ back)

variable {plan : Plan} {around : Surroundings} {frontier queue : List FrontierEntry}
  {before : ProgressStore} {a b m r : Run} {episodes front back : List Episode} {x : Episode}
  {move : Move} {diff cancelled : Bool} {files : Files} {store : ProgressStore}

section Lost

theorem lostOf_concat (episodes : List Episode) (x : Episode) :
    lostOf (episodes ++ [x]) = lostOf episodes ++ x.lost?.toList := filterMap_concat _ _ _

/-- A worker that has its record in the log is at its end. -/
theorem ended_of_record (hsound : a.Sound around frontier queue before)
    (made : a.step plan around move = some b) {record : ProgressRecord}
    (hrecord : (Episode.mk a move b).record? = some record) :
    (Episode.mk a move b).ended? = some record.url := by
  cases hm : move.isWork with
  | false =>
    rw [record_of_still hm] at hrecord
    cases hrecord
  | true =>
    cases move with
    | work ticket heed =>
      obtain ⟨w, others, shared, hp, hworker, ⟨w', hdeed, rfl⟩ | ⟨e, hdeed, rfl⟩⟩ :=
        work_episode hsound made
      · rw [record_of_same (congrArg (·.log.written) (deed_store hdeed).2.2)] at hrecord
        cases hrecord
      · have hend := ended_of_finish hworker (others_of_perm hsound hp)
        rcases deed_ends rfl hworker (hsound.carries w (hp.mem_iff.mpr List.mem_cons_self)) hdeed with
          ⟨record', hrecord', hurl, -⟩ | ⟨hnone, -⟩
        · rw [hrecord'] at hrecord
          cases hrecord
          rw [hend, hurl]
        · rw [hnone] at hrecord
          cases hrecord
    | _ => cases hm

/-- Each URL whose worker has ended has its record or was lost. -/
theorem ended_of_story (hs : 0 < plan.batchSize)
    (h : (Run.start plan diff cancelled frontier files store).Story plan around episodes r) :
    ((recordsOf episodes).map (·.url) ++ lostOf episodes).Perm (endedOf episodes) := by
  induction h with
  | start => exact .refl _
  | @step episodes a b move story made ih =>
    have hsound := sound_of_reaches hs (reaches_of_story story)
    rw [recordsOf_concat, lostOf_concat, endedOf_concat]
    cases hrecord : (Episode.mk a move b).record? with
    | none =>
      rw [Episode.lost?, hrecord, Option.toList_none, List.append_nil, ← List.append_assoc]
      exact ih.append_right _
    | some record =>
      rw [ended_of_record hsound made hrecord, Episode.lost?, hrecord, Option.toList_none,
        List.append_nil, Option.toList_some, List.map_append, List.append_assoc]
      refine (List.Perm.append_left _ List.perm_append_comm).trans ?_
      rw [← List.append_assoc]
      exact ih.append_right _

variable {shared : Shared} {record : ProgressRecord} {method : Option String}

theorem append_written {logFault : LogUse → Option LogFault}
    (h : ∀ bytes, logFault (.append shared.appends) ≠ some (.line bytes)) :
    (shared.append plan logFault record method).1.store.log.written =
      shared.store.log.written ++ record.lineBytes := by
  unfold Shared.append ProgressStore.append
  cases hfault : logFault (.append shared.appends) with
  | none => simp
  | some fault =>
    cases fault with
    | line bytes => exact absurd hfault (h bytes)
    | row pieces bytes => simp
    | flush cause => simp

/-- A worker ends without a record only where the log loses it or the worker itself is lost. -/
theorem lost_of_faults (hsound : a.Sound around frontier queue before)
    (hm : ¬ plan.policy.multiplier < 0.0)
    (hlog : ∀ earlier bytes, around.logFault (.append earlier) ≠ some (.line bytes))
    (hsite : ∀ earlier text, (around.site earlier text).losesWorker = false)
    (made : a.step plan around move = some b) : (Episode.mk a move b).lost? = none := by
  cases hmove : move.isWork with
  | false => rw [Episode.lost?, record_of_still hmove, ended_of_still hmove]
  | true =>
    cases move with
    | work ticket heed =>
      obtain ⟨w, others, shared, hp, hworker, ⟨w', hdeed, rfl⟩ | ⟨e, hdeed, rfl⟩⟩ :=
        work_episode hsound made
      · obtain ⟨-, hticket, hstore⟩ := deed_store hdeed
        rw [Episode.lost?, record_of_same (hstore ▸ rfl), ended_of_goOn hworker hticket
          (List.mem_append_right _ (List.mem_singleton_self w'))]
      · have hfits := hsound.fits w (hp.mem_iff.mpr List.mem_cons_self)
        obtain ⟨record, method, phase⟩ := deed_recorded hfits hdeed hm hsite
        have hown : w.record? = some record := by rw [Worker.record?, phase]
        have hwritten : shared.store.log.written =
            a.shared.store.log.written ++ record.lineBytes := by
          cases hdeed with
          | appends recording =>
            cases phase.symm.trans recording
            exact append_written (hlog _)
          | breaks fetching =>
            rw [phase] at fetching
            cases fetching
        rw [Episode.lost?, record_of_appended hworker hown hwritten]
    | _ => cases hmove

theorem lostOf_eq_nil (hs : 0 < plan.batchSize) (hm : ¬ plan.policy.multiplier < 0.0)
    (hlog : ∀ earlier bytes, around.logFault (.append earlier) ≠ some (.line bytes))
    (hsite : ∀ earlier text, (around.site earlier text).losesWorker = false)
    (h : (Run.start plan diff cancelled frontier files store).Story plan around episodes r) :
    lostOf episodes = [] := by
  refine h.invariant (P := fun episodes _ => lostOf episodes = []) rfl ?_
  intro episodes a b move story hnone made
  have hsound := sound_of_reaches hs (reaches_of_story story)
  rw [lostOf_concat, hnone, lost_of_faults hsound hm hlog hsite made]
  rfl

end Lost

/-- A run that has ended has nobody in work, and nobody who is about to leave. -/
theorem nobody_of_ended (hs : 0 < plan.batchSize)
    (h : (Run.start plan diff cancelled frontier files store).Story plan around episodes r) :
    ∀ result, r.phase = .ended result → r.workers = [] ∧ r.leaving = [] := by
  refine h.invariant
    (P := fun _ r => ∀ result, r.phase = .ended result → r.workers = [] ∧ r.leaving = []) nofun ?_
  intro episodes a b move story hidle made result hphase
  have hsound := sound_of_reaches hs (reaches_of_story story)
  by_cases hm : move = .coordinate
  · subst hm
    have made : a.coordinate plan around = some b := made
    cases coordinates_of made with
    | check phase goes =>
      obtain ⟨due, valid, hchecking, -⟩ := check_cases a around _ _
      rw [hchecking] at hphase
      cases hphase
    | join phase finished =>
      rw [(join_frame _ _).1, phase] at hphase
      cases hphase
    | giveUp phase finished workers leaving => exact ⟨workers, leaving⟩
    | loseBatch phase finished workers leaving => exact ⟨workers, leaving⟩
    | closeBatch phase finished workers leaving => exact ⟨workers, leaving⟩
    | close phase =>
      have hplace := hsound.place
      rw [Run.Place, phase] at hplace
      exact ⟨hplace.1.workers, hplace.1.leaving⟩
    | loseRun phase =>
      have hplace := hsound.place
      rw [Run.Place, phase] at hplace
      exact ⟨hplace.1.workers, hplace.1.leaving⟩
    | _ => cases hphase
  · have hsame : b.phase = a.phase := (frame_of_other hm made).1
    obtain ⟨hworkers, hleaving⟩ := hidle result (hsame ▸ hphase)
    cases move with
    | coordinate => exact absurd rfl hm
    | work ticket heed =>
      obtain ⟨w, others, shared, hp, -⟩ := work_episode hsound made
      rw [hworkers] at hp
      cases hp.length_eq
    | leave ticket =>
      obtain ⟨l, others, hp, -⟩ := leave_cases made
      rw [hleaving] at hp
      cases hp.length_eq
    | stop =>
      obtain ⟨-, -, rfl⟩ := stop_made made
      exact ⟨hworkers, hleaving⟩
    | wait time =>
      obtain ⟨-, rfl⟩ := wait_made made
      exact ⟨hworkers, hleaving⟩

/-- Whatever the queue, the workers, the site and the order of the moves, and whenever a run is to
stop: no URL is handed out any more, each one in work gets one request more at most and its record,
and the run ends as cancelled if it has a batch to close, unless its session has expired. -/
theorem stop_law {config : Config} (hbase : 1 ≤ config.harvest.baseDelay)
    (hwidth : config.harvest.baseDelay < 2 ^ 64) (hcheck : config.harvest.check = .ok ())
    (hfront : (Run.start (.of config) diff cancelled frontier files store).Story (.of config) around
      front m)
    (hstop : m.shared.cancelled = true) (hback : m.Story (.of config) around back r) :
    (Run.start (.of config) diff cancelled frontier files store).Terminates (.of config) around ∧
      StopLaw (.of config) around (queueOf diff store.snapshot frontier) front back m r := by
  have hs : 0 < (Plan.of config).batchSize := Nat.le_max_right _ _
  obtain ⟨hfinite, hone⟩ := multiplier_of_check hcheck
  have hwait : ∀ n, 0 < (Plan.of config).policy.waitMillis n :=
    waitMillis_pos hbase hwidth hfinite hone
  have hsigned : ¬ (Plan.of config).policy.multiplier < 0.0 :=
    (notBelowZero_iff _).mp (atLeast_of_not_lt hfinite hone).unsigned
  have hreaches := reaches_of_story hfront
  have hwhole := hfront.trans hback
  have hstopped := stopped_of_story hs hwait hreaches hstop hback
  refine ⟨terminates_start hs, ?_⟩
  constructor
  case handed => exact hstopped.handed
  case requests =>
    have hmid := (hands_of_story hs hfront).ended.map (·.text)
    rw [List.map_append, List.map_map] at hmid
    refine List.Subperm.trans ?_ hmid.subperm
    refine (List.subperm_append_left _).mpr ?_
    exact ((List.sublist_append_left _ _).subperm.trans hstopped.further).trans
      (further_sublist m.workers).subperm
  case records =>
    have hhands := (hands_of_story hs hwhole).ended
    rw [handedOf_append, hstopped.handed, List.append_nil] at hhands
    exact ((ended_of_story hs hwhole).append_right _).trans hhands
  case kept => exact fun hlog hsite => lostOf_eq_nil hs hsigned hlog hsite hwhole
  case idle => exact nobody_of_ended hs hwhole
  case outcome =>
    intro hlast outcome hphase
    have hcuts := cutsOff_of_story hs hwait hreaches hstop
      (cutsOff_of_batches hs (sound_of_reaches hs hreaches) (atGate_of_story hs hfront).1 hlast) hback
    rw [Run.CutsOff, hphase] at hcuts
    cases outcome with
    | completed => exact absurd rfl hcuts
    | cancelled => exact Or.inl rfl
    | sessionExpired n =>
      have hgate := (atGate_of_story hs hwhole).1
      rw [Run.AtGate, hphase] at hgate
      exact Or.inr ⟨⟨n, rfl⟩, by rw [hgate.1]; simp⟩

def Run.hasStopped (r : Run) : Bool :=
  match r.phase with
  | .ended (.ok .cancelled) => true
  | _ => false

theorem phase_of_hasStopped (h : r.hasStopped = true) : r.phase = .ended (.ok .cancelled) := by
  unfold Run.hasStopped at h
  split at h
  · assumption
  · cases h

def haltedConfig : Config :=
  { (default : Config) with harvest := { (default : HarvestSettings) with
    baseDelay := 100, multiplier := 1.0, maxRetries := 1, batchSize := 2, workers := 2
    saveInterval := 1, leastContent := 1, timeout := 1 } }

/-- A site that cannot be reached at first, and then reports its pages as gone; the run is to stop
after fifty milliseconds. -/
def haltedAround : Surroundings :=
  ⟨fun earlier _ => ⟨if earlier.isEmpty then .unreachable "down" else .refused 404, 0, false, false⟩,
    .notNeeded, some 50, ⟨0, 0⟩, fun _ => none⟩

def haltedFrontier : List FrontierEntry :=
  [⟨⟨"https://a.test/1"⟩, "list", none⟩, ⟨⟨"https://a.test/2"⟩, "list", none⟩,
    ⟨⟨"https://a.test/3"⟩, "list", none⟩]

/-- The first worker is about to try again and the second one about to make its first request when
the run is to stop. -/
def haltedFront : List Episode × Run :=
  (Run.start (.of haltedConfig) false false haltedFrontier .empty (.open [] [])).play
    (.of haltedConfig) haltedAround (List.flatten [.replicate 4 .coordinate,
      [.work 0 true, .work 1 true, .work 0 true, .work 0 true, .wait 50, .stop]]) []

def haltedBack : List Episode × Run :=
  haltedFront.2.play (.of haltedConfig) haltedAround (List.flatten [.replicate 3 (.work 0 true),
    [.leave 0, .wait 100], .replicate 4 (.work 1 true), [.leave 1], .replicate 5 .coordinate]) []

theorem stop_law_halted :
    ((1 ≤ haltedConfig.harvest.baseDelay ∧ haltedConfig.harvest.baseDelay < 2 ^ 64 ∧
      haltedConfig.harvest.check = .ok () ∧ haltedFront.2.shared.cancelled = true) ∧
      (requestsOf haltedFront.1).map (·.url) = ["https://a.test/1"] ∧
      (requestsOf haltedBack.1).map (·.url) = ["https://a.test/2"] ∧
      (recordsOf haltedBack.1).map (·.url) = [⟨"https://a.test/1"⟩, ⟨"https://a.test/2"⟩] ∧
      haltedBack.2.phase = .ended (.ok .cancelled)) ∧
    (Run.start (.of haltedConfig) false false haltedFrontier .empty (.open [] [])).Terminates
      (.of haltedConfig) haltedAround ∧
    StopLaw (.of haltedConfig) haltedAround (queueOf false .empty haltedFrontier) haltedFront.1
      haltedBack.1 haltedFront.2 haltedBack.2 := by
  have hfront : (Run.start (.of haltedConfig) false false haltedFrontier .empty (.open [] [])).Story
      (.of haltedConfig) haltedAround haltedFront.1 haltedFront.2 := story_play _ .start
  have hback : haltedFront.2.Story (.of haltedConfig) haltedAround haltedBack.1 haltedBack.2 :=
    story_play _ .start
  have hcheck : haltedConfig.harvest.check = .ok () := ok_of_isOk (by decide +kernel)
  have hstop : haltedFront.2.shared.cancelled = true := by decide +kernel
  have hended : haltedBack.2.phase = .ended (.ok .cancelled) :=
    phase_of_hasStopped (by decide +kernel)
  exact ⟨⟨⟨by decide, by decide, hcheck, hstop⟩, by decide +kernel, by decide +kernel,
    by decide +kernel, hended⟩, stop_law (by decide) (by decide) hcheck hfront hstop hback⟩

end Archiver
