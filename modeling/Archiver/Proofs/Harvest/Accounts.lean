import Mathlib.Data.List.Nodup
import Archiver.Proofs.Harvest.BatchBooks
import Archiver.Proofs.Progress.Latest

namespace Archiver

variable {plan : Plan} {around : Surroundings} {frontier queue : List FrontierEntry}
  {before : ProgressStore} {r : Run}

theorem countP_url (records : List ProgressRecord) (url : CanonicalUrl) :
    records.countP (·.url == url) = (records.map (·.url)).count url := by
  rw [List.count, List.countP_map]
  rfl

/-- What the report of a run says is what the run appended to the log: one record for each of the
first URLs of the queue, as many as were attempted. -/
structure Report.Accounts (report : Report) (queue : List FrontierEntry) (before after : ProgressStore)
    (records : List ProgressRecord) : Prop where
  log : after.log = ⟨before.log.written ++ records.flatMap ProgressRecord.lineBytes, []⟩
  snapshot : after.snapshot = records.foldl Snapshot.remember before.snapshot
  once : ∀ url, records.countP (·.url == url) =
    if url ∈ (queue.take report.attempted).map (·.url) then 1 else 0
  attempted : report.attempted = report.succeeded + report.failed + report.skipped
  succeeded : report.succeeded = records.countP (·.outcome == .success)
  failed : report.failed = records.countP (·.outcome == .failure)
  skipped : report.skipped = records.countP (·.outcome == .skipped)
  bound : report.attempted ≤ queue.length

theorem Run.Sound.accounts (h : r.Sound around frontier queue before) (hn : (queue.map (·.url)).Nodup)
    (hidle : r.Idle) (hheld : r.shared.store.log.held = []) :
    r.report.attempted = r.handed ∧
      ∃ records, r.report.Accounts queue before r.shared.store records := by
  obtain ⟨records, hbooks⟩ := h.books hidle.not_broken
  have hcounts : ∀ outcome, r.report.of outcome = records.countP (·.outcome == outcome) := by
    intro outcome
    have hcount := hbooks.counts outcome
    rw [hidle.tally, hidle.ends, Tally.of_zero, List.countP_nil] at hcount
    omega
  have hurls : (records.map (·.url)).Perm ((queue.take r.handed).map (·.url)) := by
    have hperm := hbooks.urls
    rwa [hidle.workers, List.map_nil, List.append_nil] at hperm
  have hlength : records.length = r.handed := by
    have hlen := hurls.length_eq
    rw [List.length_map, List.length_map, List.length_take, Nat.min_eq_left h.handed] at hlen
    exact hlen
  have hattempted : r.report.attempted = r.handed := by
    have hs := hcounts .success
    have hf := hcounts .failure
    have hk := hcounts .skipped
    have htotal := length_eq_outcomes records
    have hreport := h.report
    simp only [Report.of] at hs hf hk
    omega
  refine ⟨hattempted, records, ?_⟩
  constructor
  case log =>
    rw [← hbooks.written, Appender.written, hheld, List.append_nil, ← hheld]
  case snapshot => exact hbooks.snapshot
  case once =>
    intro url
    have htake : ((queue.take r.handed).map (·.url)).Nodup :=
      hn.sublist ((List.take_sublist _ _).map _)
    rw [countP_url, hurls.count_eq, hattempted]
    exact htake.count
  case attempted => exact h.report
  case succeeded => exact hcounts .success
  case failed => exact hcounts .failure
  case skipped => exact hcounts .skipped
  case bound => exact hattempted ▸ h.handed

/-- A run that ends without an error has recorded every URL that it attempted exactly once, whatever
the order of its steps. -/
theorem report_accounts {config : Config} {diff cancelled : Bool} {files : Files}
    {store : ProgressStore} {outcome : RunOutcome} (hn : (frontier.map (·.url)).Nodup)
    (h : (Run.start (.of config) diff cancelled frontier files store).Reaches (.of config) around r)
    (he : r.phase = .ended (.ok outcome)) :
    (∃ records, r.report.Accounts (queueOf diff store.snapshot frontier) store r.shared.store
      records) ∧
      r.report.frontierSize = frontier.length ∧
      r.report.alreadyDone + (queueOf diff store.snapshot frontier).length = r.report.frontierSize ∧
      (outcome = .completed →
        r.report.attempted = (queueOf diff store.snapshot frontier).length) := by
  have hsize : 0 < (Plan.of config).batchSize := Nat.le_max_right _ _
  have hsound := sound_of_reaches hsize h
  have hqueue : ((queueOf diff store.snapshot frontier).map (·.url)).Nodup :=
    hn.sublist ((queueOf_sublist _ _ _).map _)
  obtain ⟨hidle, hcompleted, hheld⟩ : r.Idle ∧
      (outcome = .completed → (queueOf diff store.snapshot frontier).length ≤ r.handed) ∧
      r.shared.store.log.held = [] := by
    have hplace := hsound.place
    rw [Run.Place, he] at hplace
    exact hplace
  obtain ⟨hattempted, haccounts⟩ := hsound.accounts hqueue hidle hheld
  refine ⟨haccounts, hsound.frontierSize, ?_, ?_⟩
  · rw [hsound.frontierSize]
    exact hsound.alreadyDone
  · intro hc
    have hall := hcompleted hc
    have hmost := hsound.handed
    omega

def goneFrontier : List FrontierEntry :=
  [⟨⟨"https://a.test/1"⟩, "list", none⟩, ⟨⟨"https://a.test/2"⟩, "list", none⟩]

/-- A site on which every page is gone. -/
def goneAround : Surroundings :=
  ⟨fun _ _ => ⟨.refused 404, 0, false, false⟩, .notNeeded, none, ⟨0, 0⟩, fun _ => none⟩

def goneRun : Run :=
  harvest (.of default) goneAround true false goneFrontier .empty (.open [] [])

theorem report_accounts_gone :
    goneRun.phase = .ended (.ok .completed) ∧ goneRun.report.attempted = 2 ∧
      ∃ records, goneRun.report.Accounts (queueOf true .empty goneFrontier) (.open [] [])
        goneRun.shared.store records := by
  have he : goneRun.phase = .ended (.ok .completed) := by rfl
  have hr : (Run.start (.of default) true false goneFrontier .empty (.open [] [])).Reaches
      (.of default) goneAround goneRun := harvest_reaches _ _ _ _ _ _ _
  obtain ⟨haccounts, -, -, hall⟩ := report_accounts (by decide) hr he
  exact ⟨he, hall rfl, haccounts⟩

end Archiver
