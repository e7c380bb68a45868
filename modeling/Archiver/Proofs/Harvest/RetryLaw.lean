import Archiver.Proofs.Fetch.Waits
import Archiver.Proofs.Harvest.BatchBooks
import Archiver.Proofs.Harvest.WorkerLife

namespace Archiver

/-- What a worker has done that has ended over its record: it made one request after each answer
that was not the last one, judged the last one, and appended one record of it. -/
structure Worker.Law (plan : Plan) (around : Surroundings) (url : CanonicalUrl)
    (strides : List Stride) (e : WorkerEnd) (earlier : List Reply) (last : Reply)
    (record : ProgressRecord) (front : List Stride) (judging appending : Stride) : Prop where
  steps : strides = front ++ [judging, appending]
  legal : ∀ x ∈ strides, ∀ w, x.result = .ok w →
    w.state = x.worker.state ∨ x.worker.state.canBecome w.state = true
  requests : (strides.flatMap Stride.requests).map (·.url) =
    List.replicate (earlier.length + 1) url.text
  replies : strides.flatMap (Stride.replies around) = earlier ++ [last]
  goOn : ∀ i reply, earlier[i]? = some reply → ¬ plan.policy.Ends i reply
  uncut : Uncut plan strides → plan.policy.Ends earlier.length last
  cut : ¬ Uncut plan strides → ¬ plan.policy.Ends earlier.length last ∧
    record.outcome = .failure ∧ record.error = some last.describe
  own : record.url = url
  retries : record.retries.toNat = earlier.length
  success : record.outcome = .success ↔
    ∃ after, Archives plan record.timestamp url last judging.before.files after
  skipped : record.outcome = .skipped ↔ last.isGone = true
  error : record.error = none ↔ record.outcome = .success
  archived : record.outcome = .success →
    Archives plan record.timestamp url last judging.before.files judging.after.files
  /-- What is no success leaves the files as they are, but for the traces of an article that finds no
  place. -/
  unarchived : record.outcome ≠ .success → judging.after.files = judging.before.files ∨
    FindsNoPlace plan record.timestamp url last judging.before.files judging.after.files
  clean : ∀ x ∈ front, x.IsClean
  unlogged : judging.after.store = judging.before.store
  appended : ∃ method held, appending.before.store.append
      (around.logFault (.append appending.before.appends)) plan.saveInterval record method =
        (appending.after.store, held) ∧
    appending.after.files = appending.before.files ∧
    e = if held then .recorded record.outcome else .logFailed

variable {plan : Plan} {around : Surroundings} {url : CanonicalUrl} {ticket : Nat}
  {strides : List Stride} {w : Worker} {s s' : Shared} {heed : Bool} {e : WorkerEnd}

/-- A worker that has ended made its last step before. -/
theorem life_end (h : Worker.Life plan around ticket url strides (.error e)) :
    ∃ front w heed s s', strides = front ++ [⟨w, heed, s, s', .error e⟩] ∧
      Worker.Life plan around ticket url front (.ok w) ∧
      w.step plan around heed s = some (s', .error e) := by
  cases h with
  | step life made => exact ⟨_, _, _, _, _, rfl, life, made⟩

theorem length_replies (around : Surroundings) (strides : List Stride) :
    (strides.flatMap (Stride.replies around)).length =
      (strides.flatMap Stride.requests).length := by
  simp [List.length_flatMap, Stride.replies]

theorem Asked.urls {replies : List Reply} (h : Asked around url strides replies) :
    (strides.flatMap Stride.requests).map (·.url) = List.replicate replies.length url.text := by
  rw [List.eq_replicate_iff]
  refine ⟨?_, ?_⟩
  · rw [List.length_map, ← length_replies around, h.replies]
  · intro text htext
    obtain ⟨q, hq, rfl⟩ := List.mem_map.mp htext
    exact h.requests q hq

/-- Two steps without a request at the end change nothing in requests and answers. -/
theorem flatMap_ends {front : List Stride} {x y : Stride} {α : Type} {f : Stride → List α}
    (hx : f x = []) (hy : f y = []) : (front ++ [x, y]).flatMap f = front.flatMap f := by
  simp [hx, hy]

theorem replies_nil {x : Stride} (h : x.requests = []) : x.replies around = [] := by
  rw [Stride.replies, h, List.map_nil]

theorem toNat_retries {n : Nat} {policy : RetryPolicy} (h : n ≤ policy.maxRetries.toNat) :
    (UInt32.ofNat n).toNat = n := by
  have hlt := policy.maxRetries.toNat_lt
  rw [UInt32.toNat_ofNat', Nat.mod_eq_of_lt]
  omega

/-- A worker ends by appending its record, or is lost over a response. -/
theorem deed_error (h : w.Deed plan around heed s s' (.error e)) :
    (∃ record method held, w.phase = .recording record method ∧
      s.store.append (around.logFault (.append s.appends)) plan.saveInterval record method =
        (s'.store, held) ∧ s'.files = s.files ∧ s'.requests = s.requests ∧
      e = if held then .recorded record.outcome else .logFailed) ∨
    (e = .lost ∧ ∃ response, w.response? = some response ∧
      (response.losesWorker = true ∨ plan.policy.wait? w.retries = none)) := by
  cases h with
  | @appends record method phase => exact Or.inl ⟨record, method, _, phase, rfl, rfl, rfl, rfl⟩
  | @breaks due response phase cause =>
    exact Or.inr ⟨rfl, response, by rw [Worker.response?, phase], cause⟩

theorem life_legal (h : ∀ x ∈ strides, x.worker.Fits around ∧
      x.worker.Deed plan around x.heed x.before x.after x.result) :
    ∀ x ∈ strides, ∀ w, x.result = .ok w →
      w.state = x.worker.state ∨ x.worker.state.canBecome w.state = true := by
  intro x hx w hw
  obtain ⟨hfits, hdeed⟩ := h x hx
  rw [hw] at hdeed
  exact hdeed.legal hfits

/-- A worker that ends without being lost has kept the law. -/
theorem law_of_life (h : Worker.Life plan around ticket url strides (.error e)) (he : e ≠ .lost) :
    ∃ earlier last record front judging appending,
      Worker.Law plan around url strides e earlier last record front judging appending := by
  have hlegal := life_legal (life_deeds h).1
  obtain ⟨front', w, heed, s, s', rfl, life, made⟩ := life_end h
  have hfits := ((life_deeds life).2 w rfl).1
  obtain ⟨record, method, held, phase, happend, hfiles, hrequests, hheld⟩ :=
    (deed_error (step_deed hfits made)).resolve_right fun hlost => he hlost.1
  have hpast := (past_of_life life w rfl).1
  unfold Worker.Past at hpast
  rw [phase] at hpast
  obtain ⟨front, judging, earlier, last, rfl, hjudged⟩ := hpast
  obtain ⟨verdict, hverdict, rfl⟩ := hjudged.verdict
  obtain ⟨hsuccess, harchived, hkept, herror⟩ := judge_success hverdict
  have hstill : judging.requests = [] := requests_nil hjudged.still
  have hend : (⟨w, heed, s, s', .error e⟩ : Stride).requests = [] := requests_nil hrequests
  have hquiet : (⟨w, heed, s, s', .error e⟩ : Stride).isCut plan = false := by
    rw [Stride.isCut, Worker.isCutShort, phase]
  have huncut : Uncut plan (front ++ [judging, ⟨w, heed, s, s', .error e⟩]) ↔
      plan.policy.Ends earlier.length last := by
    rw [← hjudged.ends]
    constructor
    · intro hall x hx
      exact hall x (List.mem_append_left _ hx)
    · intro hall
      simpa using (Uncut.concat hall hjudged.uncut).concat hquiet
  refine ⟨earlier, last, ⟨url, verdict.outcome, around.start.afterMillis judging.before.now,
    UInt32.ofNat earlier.length, verdict.error⟩, front, judging, ⟨w, heed, s, s', .error e⟩, ?_⟩
  constructor
  case steps => simp
  case legal => exact hlegal
  case requests =>
    rw [List.append_assoc, List.singleton_append, flatMap_ends hstill hend, hjudged.asked.urls,
      List.length_append, List.length_singleton]
  case replies =>
    rw [List.append_assoc, List.singleton_append,
      flatMap_ends (replies_nil hstill) (replies_nil hend), hjudged.asked.replies]
  case goOn => exact hjudged.tried.goOn
  case uncut =>
    rw [List.append_assoc, List.singleton_append]
    exact huncut.mp
  case cut =>
    rw [List.append_assoc, List.singleton_append, huncut]
    intro hcut
    have hpage : last.isPage = false := by simpa using fun hp => hcut (Or.inl hp)
    have hgone : last.isGone = false := by simpa using fun hg => hcut (Or.inr (Or.inl hg))
    exact ⟨hcut, judge_failure hpage hgone hverdict⟩
  case own => rfl
  case retries => exact toNat_retries hjudged.tried.most
  case success => exact hsuccess
  case skipped => exact judge_skipped hverdict
  case error => exact herror
  case archived => exact harchived
  case unarchived => exact hkept
  case clean => exact hjudged.asked.clean
  case unlogged => exact hjudged.store
  case appended => exact ⟨method, held, happend, hfiles, hheld⟩

theorem span_le (h : w.Past plan around url strides) :
    w.span plan.policy ≤ 3 * plan.policy.maxRetries.toNat + 4 := by
  unfold Worker.span
  rcases h.most with ⟨record, method, phase⟩ | hmost
  · simp [phase]
  · split <;> omega

/-- A worker that has waited long enough can make its next step. -/
theorem step_of_due (hd : ∀ due, w.due? = some due → due ≤ s.now) :
    (w.step plan around heed s).isSome = true := by
  unfold Worker.step
  unfold Worker.due? at hd
  split
  · rfl
  · next phase => simp [hd _ (by rw [phase])]
  · next phase => simp [hd _ (by rw [phase])]
  · next phase =>
    unfold Worker.wake
    split
    · rfl
    · simp [hd _ (by rw [phase])]
  · rfl
  · rfl

/-- No worker is lost whose responses all come and whose waits are all there. -/
theorem not_lost (hm : ¬ plan.policy.multiplier < 0.0)
    (hs : ∀ earlier text, (around.site earlier text).losesWorker = false)
    (h : Worker.Life plan around ticket url strides (.error e)) : e ≠ .lost := by
  rintro rfl
  obtain ⟨front, w, heed, s, s', rfl, life, made⟩ := life_end h
  have hfits := ((life_deeds life).2 w rfl).1
  rcases deed_error (step_deed hfits made) with ⟨_, _, held, _, _, _, _, he⟩ | ⟨-, response, hr, hc⟩
  · cases held <;> cases he
  · rcases hc with hc | hc
    · obtain ⟨earlier, hsite⟩ := hfits.heard response hr
      rw [← hsite, hs] at hc
      cases hc
    · have hwait := wait_isSome hm w.retries
      rw [hc] at hwait
      cases hwait

/-- Whatever the policy, the answers and the times of stops, and whatever the others do in between: a
worker that ends keeps the law, unless it is lost; until it ends it can make its next step once it
has waited, and there are no more than `3 * maxRetries + 4` of them; and it is never lost if every
response comes and the multiplier is not below zero. -/
theorem retry_law (plan : Plan) (around : Surroundings) (ticket : Nat) (url : CanonicalUrl) :
    (∀ strides e, Worker.Life plan around ticket url strides (.error e) → e ≠ .lost →
      ∃ earlier last record front judging appending,
        Worker.Law plan around url strides e earlier last record front judging appending) ∧
    (∀ strides w, Worker.Life plan around ticket url strides (.ok w) →
      strides.length ≤ 3 * plan.policy.maxRetries.toNat + 4 ∧
      ∀ heed s, (∀ due, w.due? = some due → due ≤ s.now) →
        (w.step plan around heed s).isSome = true) ∧
    (¬ plan.policy.multiplier < 0.0 →
      (∀ earlier text, (around.site earlier text).losesWorker = false) →
      ∀ strides e, Worker.Life plan around ticket url strides (.error e) → e ≠ .lost) := by
  refine ⟨fun _ _ h he => law_of_life h he, ?_, fun hm hs _ _ h => not_lost hm hs h⟩
  intro strides w h
  obtain ⟨hpast, hlength⟩ := past_of_life h w rfl
  exact ⟨Nat.le_trans hlength (span_le hpast), fun heed s hd => step_of_due hd⟩

/-- In every run that is reached each worker has a life of its own, in which the rest of the run is
what others did in between. -/
theorem life_of_reaches {r : Run} {diff cancelled : Bool} {frontier : List FrontierEntry}
    {files : Files} {store : ProgressStore} (hp : 0 < plan.batchSize)
    (h : (Run.start plan diff cancelled frontier files store).Reaches plan around r) :
    ∀ w ∈ r.workers, ∃ strides, Worker.Life plan around w.ticket w.url strides (.ok w) := by
  induction h with
  | refl => exact fun _ hw => absurd hw List.not_mem_nil
  | @step a b move hreaches hs ih =>
    have hsound := sound_of_reaches hp hreaches
    rcases step_cases hs with hq | ⟨entry, rest, later, -, rfl⟩ | ⟨ticket, heed, hwork⟩
    · exact hq.workers ▸ ih
    · exact forall_handOut ih ⟨[], .start⟩
    · obtain ⟨w, others, shared, hperm, hstep⟩ := work_cases hsound.tickets hwork
      rcases hstep with ⟨w', hstep, rfl⟩ | ⟨e, hstep, rfl⟩
      · refine forall_goOn hperm ih ?_
        rintro ⟨strides, hlife⟩
        have hw : w ∈ a.workers := hperm.mem_iff.mpr List.mem_cons_self
        have hturn := (step_deed (hsound.fits w hw) hstep).turn
        have hsame : w'.url = w.url ∧ w'.ticket = w.ticket := by
          cases hturn with
          | goes url ticket => exact ⟨url, ticket⟩
          | settles phase judged url ticket => exact ⟨url, ticket⟩
        rw [hsame.1, hsame.2]
        exact ⟨_, hlife.step hstep⟩
      · exact forall_finish hperm ih

/-- The steps of a worker that nobody disturbs. -/
def Worker.alone (plan : Plan) (around : Surroundings) :
    Nat → List Stride → Worker → Shared → List Stride × Except WorkerEnd Worker
  | 0, strides, w, _ => (strides, .ok w)
  | fuel + 1, strides, w, s =>
    match w.step plan around true s with
    | none => (strides, .ok w)
    | some (s', .ok w') =>
      Worker.alone plan around fuel (strides ++ [⟨w, true, s, s', .ok w'⟩]) w' s'
    | some (s', .error e) => (strides ++ [⟨w, true, s, s', .error e⟩], .error e)

theorem life_alone (fuel : Nat) (h : Worker.Life plan around ticket url strides (.ok w)) :
    Worker.Life plan around ticket url (w.alone plan around fuel strides s).1
      (w.alone plan around fuel strides s).2 := by
  induction fuel generalizing strides w s with
  | zero => exact h
  | succ fuel ih =>
    rw [Worker.alone]
    split
    · exact h
    · next made => exact ih (.step h made)
    · next made => exact .step h made

def endOf : Except WorkerEnd Worker → Option WorkerEnd
  | .ok _ => none
  | .error e => some e

theorem eq_of_endOf {result : Except WorkerEnd Worker} (h : endOf result = some e) :
    result = .error e := by
  cases result with
  | ok w => cases h
  | error e' =>
    cases h
    rfl

def flakyPlan : Plan := { Plan.of default with policy := ⟨0, 1.0, 2⟩ }

/-- A site that cannot be reached at first, and then reports its pages as gone. -/
def flakyAround : Surroundings :=
  ⟨fun earlier _ => ⟨if earlier.isEmpty then .unreachable "down" else .refused 404, 0, false, false⟩,
    .notNeeded, none, ⟨0, 0⟩, fun _ => none⟩

def flakyLife : List Stride × Except WorkerEnd Worker :=
  (Worker.start 0 ⟨"https://a.test/1"⟩).alone flakyPlan flakyAround 20 []
    (Run.start flakyPlan false false [] .empty (.open [] [])).shared

theorem retry_law_flaky :
    flakyLife.2 = .error (.recorded .skipped) ∧ ∃ earlier last record front judging appending,
      Worker.Law flakyPlan flakyAround ⟨"https://a.test/1"⟩ flakyLife.1 (.recorded .skipped) earlier
        last record front judging appending := by
  have hend : flakyLife.2 = .error (.recorded .skipped) := eq_of_endOf (by decide +kernel)
  have hlife : Worker.Life flakyPlan flakyAround 0 ⟨"https://a.test/1"⟩ flakyLife.1 flakyLife.2 :=
    life_alone 20 .start
  rw [hend] at hlife
  obtain ⟨hlaw, -, hkept⟩ := retry_law flakyPlan flakyAround 0 ⟨"https://a.test/1"⟩
  have hm : ¬ flakyPlan.policy.multiplier < 0.0 := by decide +kernel
  exact ⟨hend, hlaw _ _ hlife (hkept hm (fun _ _ => rfl) _ _ hlife)⟩

end Archiver
