import Archiver.Proofs.Harvest.Story
import Archiver.Proofs.Progress.LiveView

namespace Archiver

variable {plan : Plan} {around : Surroundings} {frontier queue : List FrontierEntry}
  {before : ProgressStore} {a b r : Run} {episodes : List Episode} {x : Episode}

theorem text_inj {url url' : CanonicalUrl} (h : url.text = url'.text) : url = url' :=
  congrArg CanonicalUrl.mk h

/-- A step of a worker in a sound run is a deed of it, with which it goes on or ends. -/
theorem work_episode (hsound : a.Sound around frontier queue before) {ticket : Nat} {heed : Bool}
    (made : a.step plan around (.work ticket heed) = some b) :
    ∃ w others shared, a.workers.Perm (w :: others) ∧
      (Episode.mk a (.work ticket heed) b).worker? = some w ∧
      ((∃ w', w.Deed plan around heed a.shared shared (.ok w') ∧ b = a.goOn shared others w') ∨
      (∃ e, w.Deed plan around heed a.shared shared (.error e) ∧ b = a.finish shared others w e)) := by
  obtain ⟨w, shared, hw, hstep⟩ := work_found made
  have hp := perm_of_find Worker.ticket hsound.tickets hw
  have hfits := hsound.fits w (hp.mem_iff.mpr List.mem_cons_self)
  refine ⟨w, _, shared, hp, hw, hstep.imp ?_ ?_⟩
  · rintro ⟨w', hmade, hb⟩
    exact ⟨w', step_deed hfits hmade, hb⟩
  · rintro ⟨e, hmade, hb⟩
    exact ⟨e, step_deed hfits hmade, hb⟩

variable {w w' : Worker} {heed : Bool} {s s' : Shared} {result : Except WorkerEnd Worker}

/-- A worker makes one request for its own URL once its time has come, and else none. -/
theorem deed_requests (h : w.Deed plan around heed s s' result) :
    s'.requests = s.requests ∨
      (∃ due, w.phase = .pacing due) ∧ s'.requests = ⟨w.url.text, s.now⟩ :: s.requests := by
  cases h with
  | requests phase => exact Or.inr ⟨⟨_, phase⟩, rfl⟩
  | _ => exact Or.inl rfl

theorem requests_of_same (h : x.after.shared.requests = x.before.shared.requests) :
    x.requests = [] := by
  rw [Episode.requests, h, Nat.sub_self, List.take_zero, ite_self]

theorem requests_of_cons {q : Request} (hm : x.move.isWork = true)
    (h : x.after.shared.requests = q :: x.before.shared.requests) : x.requests = [q] := by
  have hcount : (q :: x.before.shared.requests).length - x.before.shared.requests.length = 1 := by
    simp
  rw [Episode.requests, if_pos hm, h, hcount]
  rfl

theorem lineBytes_ne_nil (record : ProgressRecord) : record.lineBytes ≠ [] := by
  rw [lineBytes_eq]
  exact List.append_ne_nil_of_right_ne_nil _ (List.cons_ne_nil _ _)

theorem record_of_appended {record : ProgressRecord} (hw : x.worker? = some w)
    (hr : w.record? = some record)
    (h : x.after.shared.store.log.written =
      x.before.shared.store.log.written ++ record.lineBytes) : x.record? = some record := by
  rw [Episode.record?, hw, Option.bind_some, hr, h]
  simp

theorem worker_record {record : ProgressRecord} (hw : x.worker? = some w)
    (hx : x.record? = some record) : w.record? = some record := by
  rw [Episode.record?, hw, Option.bind_some] at hx
  exact (Option.filter_eq_some_iff.mp hx).1

theorem record_of_same
    (h : x.after.shared.store.log.written = x.before.shared.store.log.written) : x.record? = none := by
  rw [Episode.record?, h, Option.filter_eq_none_iff]
  intro record _
  simpa using lineBytes_ne_nil record

/-- A worker that ends has its record in the log, or it leaves the log as it was and does not end
with an outcome. -/
theorem deed_ends {e : WorkerEnd} {others : List Worker} {shared : Shared} {move : Move}
    (hx : x = ⟨a, move, a.finish shared others w e⟩) (hworker : x.worker? = some w)
    (hcarries : w.Carries) (hd : w.Deed plan around heed a.shared shared (.error e)) :
    (∃ record, x.record? = some record ∧ record.url = w.url ∧
      shared.store.log.written = a.shared.store.log.written ++ record.lineBytes ∧
      (e = .recorded record.outcome ∧
          shared.store.snapshot = a.shared.store.snapshot.remember record ∨ e = .logFailed)) ∨
    (x.record? = none ∧ shared.store.log.written = a.shared.store.log.written ∧
      ∀ outcome, e ≠ .recorded outcome) := by
  subst hx
  cases hd.turn with
  | @appends record method phase =>
    have hown : w.record? = some record := by rw [Worker.record?, phase]
    have hurl := hcarries record method phase
    rcases shared_append_cases a.shared plan around.logFault record method with
      ⟨he, hwritten, hsnapshot⟩ | ⟨he, hwritten | hwritten⟩
    · exact Or.inl ⟨record, record_of_appended hworker hown hwritten, hurl, hwritten,
        Or.inl ⟨Except.error.inj he, hsnapshot⟩⟩
    · exact Or.inl ⟨record, record_of_appended hworker hown hwritten, hurl, hwritten,
        Or.inr (Except.error.inj he)⟩
    · refine Or.inr ⟨record_of_same hwritten, hwritten, fun outcome ho => ?_⟩
      rw [Except.error.inj he] at ho
      cases ho
  | breaks ahead => exact Or.inr ⟨record_of_same rfl, rfl, by simp⟩

/-- What the log has of a story: the records appended in it, each of a URL that was handed out. -/
structure Run.Logged (queue : List FrontierEntry) (before : ProgressStore) (episodes : List Episode)
    (r : Run) : Prop where
  written : r.shared.store.log.written =
    before.log.written ++ (recordsOf episodes).flatMap ProgressRecord.lineBytes
  snapshot : ¬ r.Broken →
    r.shared.store.snapshot = (recordsOf episodes).foldl Snapshot.remember before.snapshot
  given : ∀ w ∈ r.workers, w.url ∈ (queue.take r.handed).map (·.url)
  asked : ∀ q ∈ requestsOf episodes, ∃ url ∈ (queue.take r.handed).map (·.url), q.url = url.text
  recorded : ∀ record ∈ recordsOf episodes, record.url ∈ (queue.take r.handed).map (·.url)
  urls : ¬ r.Broken → ((recordsOf episodes).map (·.url) ++ r.workers.map (·.url)).Perm
    ((queue.take r.handed).map (·.url))

theorem logged_start (diff cancelled : Bool) (frontier : List FrontierEntry) (files : Files)
    (store : ProgressStore) :
    (Run.start plan diff cancelled frontier files store).Logged
      (queueOf diff store.snapshot frontier) store [] where
  written := (List.append_nil _).symm
  snapshot := fun _ => rfl
  given := fun _ hw => absurd hw List.not_mem_nil
  asked := fun _ hq => absurd hq List.not_mem_nil
  recorded := fun _ hr => absurd hr List.not_mem_nil
  urls := fun _ => .nil

theorem Run.Logged.quiet (h : a.Logged queue before episodes) (hq : a.Quiet b)
    (hrequests : x.requests = []) (hrecord : x.record? = none) :
    b.Logged queue before (episodes ++ [x]) := by
  have hrecords := recordsOf_still episodes hrecord
  have hasked := requestsOf_still episodes hrequests
  constructor
  case written => rw [hrecords, hq.written, h.written]
  case snapshot =>
    intro hbroken
    rw [hrecords, hq.snapshot, h.snapshot fun hbefore => hbroken (hq.broken hbefore)]
  case given => rw [hq.workers, hq.handed]; exact h.given
  case asked => rw [hasked, hq.handed]; exact h.asked
  case recorded => rw [hrecords, hq.handed]; exact h.recorded
  case urls =>
    intro hbroken
    rw [hrecords, hq.workers, hq.handed]
    exact h.urls fun hbefore => hbroken (hq.broken hbefore)

theorem Run.Logged.handOut (h : a.Logged queue before episodes)
    (hsound : a.Sound around frontier queue before) {entry : FrontierEntry}
    {rest : List FrontierEntry} {later : List (List FrontierEntry)}
    (hphase : a.phase = .admitting (entry :: rest) later) (hrequests : x.requests = [])
    (hrecord : x.record? = none) :
    (a.handOut entry rest later).Logged queue before (episodes ++ [x]) := by
  have hrecords := recordsOf_still episodes hrecord
  have hasked := requestsOf_still episodes hrequests
  have htake : (queue.take (a.handOut entry rest later).handed).map (·.url) =
      (queue.take a.handed).map (·.url) ++ [entry.url] := by
    rw [Run.handOut, (hsound.next hphase).2.1, List.map_append, List.map_singleton]
  have hgrow : ∀ {url : CanonicalUrl}, url ∈ (queue.take a.handed).map (·.url) →
      url ∈ (queue.take (a.handOut entry rest later).handed).map (·.url) :=
    fun hu => htake ▸ List.mem_append_left _ hu
  constructor
  case written => rw [hrecords]; exact h.written
  case snapshot => rw [hrecords]; exact h.snapshot
  case given =>
    refine forall_handOut (fun w hw => hgrow (h.given w hw)) ?_
    exact htake ▸ List.mem_append_right _ (List.mem_singleton_self _)
  case asked =>
    intro q hq
    obtain ⟨url, hurl, htext⟩ := h.asked q (hasked ▸ hq)
    exact ⟨url, hgrow hurl, htext⟩
  case recorded => exact fun record hr => hgrow (h.recorded record (hrecords ▸ hr))
  case urls =>
    intro hbroken
    rw [hrecords, htake, Run.handOut, List.map_append, List.map_singleton, ← List.append_assoc]
    exact (h.urls hbroken).append_right _

theorem requests_of_deed (hm : x.move.isWork = true)
    (hd : w.Deed plan around heed x.before.shared x.after.shared result) :
    ∀ q ∈ x.requests, q.url = w.url.text := by
  intro q hq
  rcases deed_requests hd with hsame | ⟨-, hcons⟩
  · rw [requests_of_same hsame] at hq
    cases hq
  · rw [requests_of_cons hm hcons] at hq
    rw [List.mem_singleton.mp hq]

/-- A request is one of a worker that is in work. -/
theorem request_of_worker (hsound : a.Sound around frontier queue before) {move : Move}
    (made : a.step plan around move = some b) {q : Request}
    (hq : q ∈ (Episode.mk a move b).requests) : ∃ w ∈ a.workers, q.url = w.url.text := by
  cases hm : move.isWork with
  | false =>
    rw [requests_of_still hm] at hq
    cases hq
  | true =>
    cases move with
    | work ticket heed =>
      obtain ⟨w, others, shared, hp, -, hcase⟩ := work_episode hsound made
      refine ⟨w, hp.mem_iff.mpr List.mem_cons_self, ?_⟩
      rcases hcase with ⟨w', hdeed, rfl⟩ | ⟨e, hdeed, rfl⟩
      · exact requests_of_deed rfl hdeed q hq
      · exact requests_of_deed rfl hdeed q hq
    | _ => cases hm

theorem Run.Logged.asks (h : a.Logged queue before episodes) (hw : w ∈ a.workers)
    (hx : ∀ q ∈ x.requests, q.url = w.url.text) :
    ∀ q ∈ requestsOf (episodes ++ [x]), ∃ url ∈ (queue.take a.handed).map (·.url),
      q.url = url.text := by
  intro q hq
  rw [requestsOf_concat] at hq
  rcases List.mem_append.mp hq with hq | hq
  · exact h.asked q hq
  · exact ⟨w.url, h.given w hw, hx q hq⟩

variable {others : List Worker} {shared : Shared}

theorem Run.Logged.goOn (h : a.Logged queue before episodes) (hp : a.workers.Perm (w :: others))
    (hurl : w'.url = w.url) (hstore : shared.store = a.shared.store)
    (hx : ∀ q ∈ x.requests, q.url = w.url.text) (hrecord : x.record? = none) :
    (a.goOn shared others w').Logged queue before (episodes ++ [x]) := by
  have hrecords := recordsOf_still episodes hrecord
  constructor
  case written => rw [hrecords, Run.goOn, hstore, h.written]
  case snapshot =>
    intro hbroken
    rw [hrecords, Run.goOn, hstore, h.snapshot hbroken]
  case given => exact forall_goOn hp h.given fun hw => hurl ▸ hw
  case asked => exact h.asks (hp.mem_iff.mpr List.mem_cons_self) hx
  case recorded => rw [hrecords]; exact h.recorded
  case urls =>
    intro hbroken
    rw [hrecords]
    exact ((urls_goOn hp hurl).append_left _).trans (h.urls hbroken)

/-- A worker that ends over its record leaves it in the log. -/
theorem Run.Logged.enter (h : a.Logged queue before episodes) (hp : a.workers.Perm (w :: others))
    {record : ProgressRecord} (e : WorkerEnd) (hx : ∀ q ∈ x.requests, q.url = w.url.text)
    (hrecord : x.record? = some record) (hurl : record.url = w.url)
    (hwritten : shared.store.log.written = a.shared.store.log.written ++ record.lineBytes)
    (hend : shared.store.snapshot = a.shared.store.snapshot.remember record ∨
      ∀ outcome, e ≠ .recorded outcome) :
    (a.finish shared others w e).Logged queue before (episodes ++ [x]) := by
  have hw : w ∈ a.workers := hp.mem_iff.mpr List.mem_cons_self
  have hrecords : recordsOf (episodes ++ [x]) = recordsOf episodes ++ [record] := by
    rw [recordsOf_concat, hrecord, Option.toList_some]
  constructor
  case written =>
    rw [hrecords, List.flatMap_append, List.flatMap_singleton, Run.finish, hwritten, h.written,
      List.append_assoc]
  case snapshot =>
    intro hbroken
    have hsnapshot := hend.resolve_right fun he => hbroken (broken_of_end he)
    rw [hrecords, List.foldl_concat, Run.finish, hsnapshot,
      h.snapshot fun hbefore => hbroken (broken_finish hbefore)]
  case given => exact forall_finish hp h.given
  case asked => exact h.asks hw hx
  case recorded =>
    rw [hrecords]
    exact List.forall_mem_append.mpr
      ⟨h.recorded, List.forall_mem_singleton.mpr (hurl ▸ h.given w hw)⟩
  case urls =>
    intro hbroken
    -- the URL moves from the workers to the records
    have hworkers : (w.url :: others.map (·.url)).Perm (a.workers.map (·.url)) := (hp.map _).symm
    rw [hrecords, List.map_append, List.map_singleton, hurl, List.append_assoc,
      List.singleton_append]
    exact (hworkers.append_left _).trans (h.urls fun hbefore => hbroken (broken_finish hbefore))

theorem Run.Logged.leave (h : a.Logged queue before episodes) (hp : a.workers.Perm (w :: others))
    {e : WorkerEnd} (hx : ∀ q ∈ x.requests, q.url = w.url.text)
    (hwritten : shared.store.log.written = a.shared.store.log.written) (hrecord : x.record? = none)
    (he : ∀ outcome, e ≠ .recorded outcome) :
    (a.finish shared others w e).Logged queue before (episodes ++ [x]) := by
  have hrecords := recordsOf_still episodes hrecord
  constructor
  case written => rw [hrecords, Run.finish, hwritten, h.written]
  case snapshot => exact fun hbroken => absurd (broken_of_end he) hbroken
  case given => exact forall_finish hp h.given
  case asked => exact h.asks (hp.mem_iff.mpr List.mem_cons_self) hx
  case recorded => rw [hrecords]; exact h.recorded
  case urls => exact fun hbroken => absurd (broken_of_end he) hbroken

theorem Run.Logged.work (h : a.Logged queue before episodes)
    (hsound : a.Sound around frontier queue before) {ticket : Nat} {heed : Bool}
    (made : a.step plan around (.work ticket heed) = some b) :
    b.Logged queue before (episodes ++ [⟨a, .work ticket heed, b⟩]) := by
  obtain ⟨w, others, shared, hp, hworker, ⟨w', hdeed, rfl⟩ | ⟨e, hdeed, rfl⟩⟩ :=
    work_episode hsound made
  · have hx := requests_of_deed (x := ⟨a, .work ticket heed, a.goOn shared others w'⟩) rfl hdeed
    cases hdeed.turn with
    | goes url ticket ahead store files heeds => exact h.goOn hp url store hx (record_of_same (store ▸ rfl))
    | settles phase judged url ticket recording => exact h.goOn hp url rfl hx (record_of_same rfl)
  · have hx := requests_of_deed (x := ⟨a, .work ticket heed, a.finish shared others w e⟩) rfl hdeed
    rcases deed_ends rfl hworker (hsound.carries w (hp.mem_iff.mpr List.mem_cons_self)) hdeed with
      ⟨record, hrecord, hurl, hwritten, hend⟩ | ⟨hrecord, hwritten, he⟩
    · refine h.enter hp e hx hrecord hurl hwritten (hend.imp And.right ?_)
      rintro rfl outcome ho
      cases ho
    · exact h.leave hp hx hwritten hrecord he

theorem Run.Logged.step (h : a.Logged queue before episodes)
    (hsound : a.Sound around frontier queue before) {move : Move}
    (made : a.step plan around move = some b) :
    b.Logged queue before (episodes ++ [⟨a, move, b⟩]) := by
  cases hm : move.isWork with
  | false =>
    have hrequests : (Episode.mk a move b).requests = [] := requests_of_still hm
    have hrecord : (Episode.mk a move b).record? = none := record_of_still hm
    rcases still_cases hm made with hq | ⟨entry, rest, later, phase, rfl⟩
    · exact h.quiet hq hrequests hrecord
    · exact h.handOut hsound phase hrequests hrecord
  | true =>
    cases move with
    | work ticket heed => exact h.work hsound made
    | _ => cases hm

/-- The log of a run holds what its story tells, after what was in it before. -/
theorem logged_of_story {diff cancelled : Bool} {files : Files} {store : ProgressStore}
    (hp : 0 < plan.batchSize)
    (h : (Run.start plan diff cancelled frontier files store).Story plan around episodes r) :
    r.Logged (queueOf diff store.snapshot frontier) store episodes :=
  h.invariant (logged_start diff cancelled frontier files store) fun story hlogged made =>
    hlogged.step (sound_of_reaches hp (reaches_of_story story)) made

/-- Each record counts once, by its outcome, until the report has it. -/
def Run.Counted (records : List ProgressRecord) (r : Run) : Prop :=
  ∀ outcome, records.countP (·.outcome == outcome) =
    r.report.of outcome + r.tally.of outcome + r.ends.countP (· == .recorded outcome)

variable {records : List ProgressRecord}

theorem broken_step {move : Move} (made : a.step plan around move = some b) (h : a.Broken) :
    b.Broken := by
  rcases step_cases made with hq | ⟨entry, rest, later, -, rfl⟩ | ⟨ticket, heed, hwork⟩
  · exact hq.broken h
  · exact h
  · obtain ⟨w, shared, -, ⟨w', -, rfl⟩ | ⟨e, -, rfl⟩⟩ := work_found hwork
    · exact h
    · exact broken_finish h

/-- A leaver counts once, whether or not it has given its place back. -/
theorem Run.Counted.leave (h : a.Counted records) {ticket : Nat} (made : a.leave ticket = some b) :
    b.Counted records := by
  intro outcome
  obtain ⟨l, others, hp, -, ⟨-, rfl⟩ | ⟨-, rfl⟩⟩ := leave_cases made
  · rw [ends_pay]
    exact h outcome
  · rw [(ends_release hp).countP_eq]
    exact h outcome

theorem Run.Counted.coordinate (h : a.Counted records) (hunbroken : ¬ b.Broken)
    (made : a.coordinate plan around = some b) : b.Counted records := by
  cases coordinates_of made with
  | check phase goes =>
    unfold Run.check
    split <;> exact h
  | @join last rest later phase finished =>
    have hfailed : ∀ e : HarvestError, a.failure.or (some e) ≠ none := by
      intro e
      cases a.failure <;> simp
    cases last with
    | recorded outcome =>
      intro o
      have hcount := h o
      simp only [Run.ends, finished, List.cons_append, List.countP_cons, recorded_beq] at hcount
      simp only [Run.ends, Run.join, Tally.of_count, hcount]
      omega
    | logFailed => exact absurd (Or.inl (hfailed _)) hunbroken
    | illegal move => exact absurd (Or.inl (hfailed _)) hunbroken
    | lost => exact absurd (Or.inl (hfailed _)) hunbroken
  | closeBatch phase finished workers leaving failure saved onward =>
    intro o
    have hcount := h o
    simp only [Run.counted, Report.of_absorb, Tally.of_zero]
    exact hcount.trans (by simp only [Run.ends]; omega)
  | _ => exact h

theorem Run.Counted.work (h : a.Counted (recordsOf episodes))
    (hsound : a.Sound around frontier queue before) (hunbroken : ¬ b.Broken) {ticket : Nat} {heed : Bool}
    (made : a.step plan around (.work ticket heed) = some b) :
    b.Counted (recordsOf (episodes ++ [⟨a, .work ticket heed, b⟩])) := by
  obtain ⟨w, others, shared, hp, hworker, ⟨w', hdeed, rfl⟩ | ⟨e, hdeed, rfl⟩⟩ :=
    work_episode hsound made
  · cases hdeed.turn with
    | goes url ticket ahead store files heeds =>
      rw [recordsOf_still episodes (record_of_same (store ▸ rfl))]
      exact h
    | settles phase judged url ticket recording =>
      rw [recordsOf_still episodes (record_of_same rfl)]
      exact h
  · rcases deed_ends rfl hworker (hsound.carries w (hp.mem_iff.mpr List.mem_cons_self)) hdeed with
      ⟨record, hrecord, -, -, ⟨rfl, -⟩ | rfl⟩ | ⟨-, -, he⟩
    · rw [recordsOf_concat, hrecord]
      intro o
      have hcount := h o
      simp only [ends_finish, Option.toList_some, List.countP_append, List.countP_singleton,
        recorded_beq, hcount]
      simp only [Run.finish]
      omega
    · exact absurd (broken_of_end (by simp)) hunbroken
    · exact absurd (broken_of_end he) hunbroken

/-- The report of a run counts what its story tells. -/
theorem counted_of_story {diff cancelled : Bool} {files : Files} {store : ProgressStore}
    (hs : 0 < plan.batchSize)
    (h : (Run.start plan diff cancelled frontier files store).Story plan around episodes r)
    (hunbroken : ¬ r.Broken) : r.Counted (recordsOf episodes) := by
  induction h with
  | start => exact fun outcome => by cases outcome <;> rfl
  | @step episodes a b move story made ih =>
    have hcounted := ih fun hbroken => hunbroken (broken_step made hbroken)
    cases move with
    | coordinate =>
      rw [recordsOf_still episodes (record_of_still rfl)]
      exact hcounted.coordinate hunbroken made
    | work ticket heed =>
      exact hcounted.work (sound_of_reaches hs (reaches_of_story story)) hunbroken made
    | leave ticket =>
      rw [recordsOf_still episodes (record_of_still rfl)]
      exact hcounted.leave made
    | stop =>
      rw [recordsOf_still episodes (record_of_still rfl)]
      obtain ⟨-, -, rfl⟩ := stop_made made
      exact hcounted
    | wait time =>
      rw [recordsOf_still episodes (record_of_still rfl)]
      obtain ⟨-, rfl⟩ := wait_made made
      exact hcounted

end Archiver
