import Archiver.Proofs.Harvest.WorkerBooks

namespace Archiver

variable {plan : Plan} {around : Surroundings} {frontier queue : List FrontierEntry}
  {before : ProgressStore} {r r' : Run}

theorem Tally.of_count (t : Tally) (a b : Outcome) :
    (t.count a).of b = t.of b + if a == b then 1 else 0 := by
  cases a <;> cases b <;> rfl

theorem Tally.count_total {t : Tally} (h : t.attempted = t.succeeded + t.failed + t.skipped)
    (a : Outcome) : (t.count a).attempted =
      (t.count a).succeeded + (t.count a).failed + (t.count a).skipped := by
  cases a <;> simp only [Tally.count] <;> omega

/-- A failure that is noted breaks the run, which stops. -/
theorem Run.Sound.fail (h : r.Sound around frontier queue before) {later : List (List FrontierEntry)}
    (hphase : r.phase = .joining later) (rest : List WorkerEnd) (e : HarvestError) :
    ({ ({ r with finished := rest } : Run).cancel with failure := r.failure.or (some e) } : Run).Sound
      around frontier queue before where
  seats := h.seats.congr (.refl _) rfl rfl
  fits := h.fits
  carries := h.carries
  handed := h.handed
  books := by
    intro hb
    exact absurd (Or.inl (by cases hf : r.failure <;> simp)) hb
  place := by
    have hjoining : r.phase = .joining later := hphase
    simp only [Run.Place, Run.cancel, hjoining]
    exact Or.inl trivial
  tally := h.tally
  report := h.report
  frontierSize := h.frontierSize
  alreadyDone := h.alreadyDone

/-- Taking note of a worker's end moves its outcome to the batch's counts. -/
theorem Run.Sound.join (h : r.Sound around frontier queue before) {later : List (List FrontierEntry)}
    {last : WorkerEnd} {rest : List WorkerEnd} (hphase : r.phase = .joining later)
    (hfinished : r.finished = last :: rest) :
    (({ r with finished := rest } : Run).join last).Sound around frontier queue before := by
  cases last with
  | recorded outcome =>
    refine ⟨h.seats.congr (.refl _) rfl rfl, h.fits, h.carries, h.handed, ?_, ?_,
      Tally.count_total h.tally _, h.report, h.frontierSize, h.alreadyDone⟩
    · intro hb
      obtain ⟨records, hbooks⟩ := h.books fun hbroken => hb (broken_join hfinished hbroken)
      refine ⟨records, hbooks.written, hbooks.snapshot, hbooks.urls, ?_⟩
      intro o
      have hcount := hbooks.counts o
      simp only [Run.ends, hfinished, List.cons_append, List.countP_cons, recorded_beq] at hcount
      simp only [Run.ends, Run.join, Tally.of_count, hcount]
      omega
    · have hplace := h.place
      rw [Run.Place, hphase] at hplace
      simp only [Run.Place, Run.join, hphase]
      exact hplace
  | logFailed => exact h.fail hphase rest .logFailed
  | illegal move => exact h.fail hphase rest (.illegal move)
  | lost => exact h.fail hphase rest .workerLost

theorem Report.of_absorb (r : Report) (t : Tally) (outcome : Outcome) :
    (r.absorb t).of outcome = r.of outcome + t.of outcome := by
  cases outcome <;> rfl

theorem Tally.of_zero (outcome : Outcome) : Tally.zero.of outcome = 0 := by
  cases outcome <;> rfl

/-- The counts of a batch go to the report, whatever comes next. -/
theorem Run.Sound.counted (h : r.Sound around frontier queue before) {store : ProgressStore}
    {phase : RunPhase} (hsaved : store = r.shared.store ∨ store = r.shared.store.checkpoint)
    (hplace : (r.counted store phase).Place queue) :
    (r.counted store phase).Sound around frontier queue before where
  seats := h.seats.congr (.refl _) rfl rfl
  fits := h.fits
  carries := h.carries
  handed := h.handed
  books := by
    intro hb
    obtain ⟨records, hbooks⟩ := h.books hb
    refine ⟨records, ?_, ?_, hbooks.urls, ?_⟩
    · rcases hsaved with rfl | rfl
      · exact hbooks.written
      · exact (checkpoint_written _).trans hbooks.written
    · rcases hsaved with rfl | rfl
      · exact hbooks.snapshot
      · exact hbooks.snapshot
    · intro outcome
      have hcount := hbooks.counts outcome
      simp only [Run.counted, Report.of_absorb, Tally.of_zero]
      exact hcount.trans (by simp only [Run.ends]; omega)
  place := hplace
  tally := rfl
  report := by
    have ht := h.tally
    have hr := h.report
    simp only [Run.counted, Report.absorb]
    omega
  frontierSize := h.frontierSize
  alreadyDone := h.alreadyDone

/-- A batch whose workers are all gone is counted, and the next one stands where it should. -/
theorem Run.Sound.closeBatch (h : r.Sound around frontier queue before)
    {later : List (List FrontierEntry)} {store : ProgressStore} {next : RunPhase}
    (hphase : r.phase = .joining later) (hfinished : r.finished = []) (hworkers : r.workers = [])
    (hleaving : r.leaving = []) (hfailure : r.failure = none)
    (hsaved : store = r.shared.store ∨ store = r.shared.store.checkpoint)
    (honward : r.Onward plan later next) :
    (r.counted store next).Sound around frontier queue before := by
  have hidle : (r.counted store next).Idle := ⟨hworkers, hleaving, hfinished, rfl, hfailure⟩
  have hplace := h.place
  rw [Run.Place, hphase] at hplace
  refine h.counted hsaved ?_
  -- the next phase depends on the stop and the delay, the counts of the batch on neither
  cases honward with
  | stops cancelled => exact ⟨hidle, fun hc => RunOutcome.noConfusion hc⟩
  | rests goes => exact ⟨hidle, hplace.resolve_left (Bool.eq_false_iff.mp goes)⟩
  | opens goes => exact ⟨hidle, hplace.resolve_left (Bool.eq_false_iff.mp goes)⟩

/-- Asking whether the session is valid keeps the books. -/
theorem Run.Sound.check (h : r.Sound around frontier queue before) {batch : List FrontierEntry}
    {later : List (List FrontierEntry)} (hphase : r.phase = .opening (batch :: later)) :
    (r.check around batch later).Sound around frontier queue before := by
  have hplace := h.place
  rw [Run.Place, hphase] at hplace
  unfold Run.check
  split
  · exact h.frame rfl rfl rfl rfl rfl rfl rfl rfl rfl rfl ⟨hplace.1.congr rfl rfl rfl rfl rfl, hplace.2⟩
  · exact h.frame rfl rfl rfl rfl rfl rfl rfl rfl rfl rfl ⟨hplace.1.congr rfl rfl rfl rfl rfl, hplace.2⟩
  · exact h.frame rfl rfl rfl rfl rfl rfl rfl rfl rfl rfl ⟨hplace.1.congr rfl rfl rfl rfl rfl, hplace.2⟩

/-- A step of the coordinator keeps the books. -/
theorem Run.Sound.coordinate (h : r.Sound around frontier queue before)
    (hs : r.coordinate plan around = some r') : r'.Sound around frontier queue before := by
  have hplace := h.place
  unfold Run.Place at hplace
  cases coordinates_of hs with
  | complete phase =>
    simp only [phase] at hplace
    refine h.frame rfl rfl rfl rfl rfl rfl rfl rfl rfl rfl ⟨hplace.1.congr rfl rfl rfl rfl rfl, fun _ => ?_⟩
    exact List.drop_eq_nil_iff.mp hplace.2
  | stop phase cancelled =>
    simp only [phase] at hplace
    exact h.frame rfl rfl rfl rfl rfl rfl rfl rfl rfl rfl
      ⟨hplace.1.congr rfl rfl rfl rfl rfl, fun hc => RunOutcome.noConfusion hc⟩
  | check phase goes => exact h.check phase
  | accept phase time =>
    simp only [phase] at hplace
    exact h.frame rfl rfl rfl rfl rfl rfl rfl rfl rfl rfl hplace.2
  | expire phase time =>
    simp only [phase] at hplace
    exact h.frame rfl rfl rfl rfl rfl rfl rfl rfl rfl rfl
      ⟨hplace.1.congr rfl rfl rfl rfl rfl, fun hc => RunOutcome.noConfusion hc⟩
  | allOut phase =>
    simp only [phase] at hplace
    exact h.frame rfl rfl rfl rfl rfl rfl rfl rfl rfl rfl (Or.inr hplace)
  | cutOff phase cancelled => exact h.frame rfl rfl rfl rfl rfl rfl rfl rfl rfl rfl (Or.inl cancelled)
  | handOut phase goes room => exact h.handOut phase
  | join phase finished => exact h.join phase finished
  | giveUp => exact h.frame rfl rfl rfl rfl rfl rfl rfl rfl rfl rfl trivial
  | loseBatch =>
    exact h.frame (tryCheckpoint_written _ _) (tryCheckpoint_snapshot _ _) rfl rfl rfl rfl rfl rfl rfl
      rfl trivial
  | closeBatch phase finished workers leaving failure saved onward =>
    exact h.closeBatch phase finished workers leaving failure saved onward
  | rested phase time =>
    simp only [phase] at hplace
    exact h.frame rfl rfl rfl rfl rfl rfl rfl rfl rfl rfl ⟨hplace.1.congr rfl rfl rfl rfl rfl, hplace.2⟩
  | close phase =>
    simp only [phase] at hplace
    exact h.frame (checkpoint_written _) rfl rfl rfl rfl rfl rfl rfl rfl rfl
      ⟨hplace.1.congr rfl rfl rfl rfl rfl, hplace.2, rfl⟩
  | loseRun =>
    exact h.frame (tryCheckpoint_written _ _) (tryCheckpoint_snapshot _ _) rfl rfl rfl rfl rfl rfl rfl
      rfl trivial

/-- Every move of a run keeps the books. -/
theorem Run.Sound.step (h : r.Sound around frontier queue before) {move : Move}
    (hs : r.step plan around move = some r') : r'.Sound around frontier queue before := by
  cases move with
  | coordinate => exact h.coordinate hs
  | work ticket heed => exact h.work hs
  | leave ticket => exact h.leave hs
  | stop =>
    obtain ⟨-, -, rfl⟩ := stop_made hs
    exact h.shift fun _ => rfl
  | wait time =>
    obtain ⟨-, rfl⟩ := wait_made hs
    exact h.shift id

theorem sound_of_reaches {diff cancelled : Bool} {files : Files} {store : ProgressStore}
    (hp : 0 < plan.batchSize)
    (h : (Run.start plan diff cancelled frontier files store).Reaches plan around r) :
    r.Sound around frontier (queueOf diff store.snapshot frontier) store :=
  h.invariant (sound_start hp diff cancelled frontier files store) fun hs hm => hs.step hm

end Archiver
