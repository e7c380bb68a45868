import Archiver.Proofs.Harvest.Books

namespace Archiver

variable {plan : Plan} {around : Surroundings} {frontier queue : List FrontierEntry}
  {before : ProgressStore} {r r' : Run}

/-- Where a run is not idle, only the wish to stop matters for the place. -/
theorem Run.Place.work (h : r.Place queue) (hbusy : ¬ r.Idle) (hphase : r'.phase = r.phase)
    (hhanded : r'.handed = r.handed)
    (hc : r.shared.cancelled = true → r'.shared.cancelled = true) : r'.Place queue := by
  unfold Run.Place at h ⊢
  rw [hphase, hhanded]
  cases hp : r.phase with
  | opening later =>
    simp only [hp] at h
    exact absurd h.1 hbusy
  | resting due later =>
    simp only [hp] at h
    exact absurd h.1 hbusy
  | checking due valid batch later =>
    simp only [hp] at h
    exact absurd h.1 hbusy
  | admitting batch later =>
    simp only [hp] at h ⊢
    exact h
  | joining later =>
    simp only [hp] at h ⊢
    exact h.imp_left hc
  | closing outcome =>
    simp only [hp] at h
    exact absurd h.1 hbusy
  | ended result =>
    simp only [hp] at h ⊢
    cases result with
    | ok outcome => exact absurd h.1 hbusy
    | error e => trivial

variable {w w' : Worker} {others : List Worker} {shared : Shared}

theorem not_idle_of_perm (hp : r.workers.Perm (w :: others)) : ¬ r.Idle := fun hidle =>
  List.ne_nil_of_mem (hp.mem_iff.mpr List.mem_cons_self) hidle.workers

/-- A worker that goes on with its URL takes its own place behind the others. -/
theorem Run.Sound.goOn (h : r.Sound around frontier queue before) (hp : r.workers.Perm (w :: others))
    (hurl : w'.url = w.url) (hticket : w'.ticket = w.ticket) (hfits : w'.Fits around)
    (hcarries : w'.Carries)
    (hstore : shared.store = r.shared.store)
    (hc : r.shared.cancelled = true → shared.cancelled = true) :
    (r.goOn shared others w').Sound around frontier queue before where
  seats := by
    have hmap : ((others ++ [w']).map (·.ticket)).Perm (r.workers.map (·.ticket)) := by
      rw [List.map_append, List.map_singleton, hticket]
      exact (List.perm_append_singleton _ _).trans (hp.map _).symm
    exact h.seats.congr (hmap.append_right _) rfl rfl
  fits := forall_goOn hp h.fits fun _ => hfits
  carries := forall_goOn hp h.carries fun _ => hcarries
  handed := h.handed
  books := by
    intro hb
    obtain ⟨records, hbooks⟩ := h.books hb
    have hurls := (urls_goOn hp hurl).append_left (records.map (·.url))
    refine ⟨records, ?_, ?_, hurls.trans hbooks.urls, hbooks.counts⟩
    · rw [Run.goOn, hstore]
      exact hbooks.written
    · rw [Run.goOn, hstore]
      exact hbooks.snapshot
  place := h.place.work (not_idle_of_perm hp) rfl rfl hc
  tally := h.tally
  report := h.report
  frontierSize := h.frontierSize
  alreadyDone := h.alreadyDone

theorem recorded_beq (a b : Outcome) :
    (WorkerEnd.recorded a == WorkerEnd.recorded b) = (a == b) := by
  cases a <;> cases b <;> rfl

/-- A worker that ends has appended the record of its URL, or the run is broken. -/
theorem Run.Sound.finish (h : r.Sound around frontier queue before) (hp : r.workers.Perm (w :: others))
    {e : WorkerEnd}
    (hend : (∀ outcome, e ≠ .recorded outcome) ∨ ∃ record : ProgressRecord,
      e = .recorded record.outcome ∧ record.url = w.url ∧
      shared.store.log.written = r.shared.store.log.written ++ record.lineBytes ∧
      shared.store.snapshot = r.shared.store.snapshot.remember record)
    (hc : r.shared.cancelled = true → shared.cancelled = true) :
    (r.finish shared others w e).Sound around frontier queue before where
  seats := h.seats.congr (tickets_finish hp) rfl rfl
  fits := forall_finish hp h.fits
  carries := forall_finish hp h.carries
  handed := h.handed
  books := by
    intro hb
    rcases hend with hend | ⟨record, rfl, hurl, hwritten, hsnapshot⟩
    · -- an end without a record breaks the run, of which nothing is said
      exact absurd (broken_of_end hend) hb
    obtain ⟨records, hbooks⟩ := h.books fun hbroken => hb (broken_finish hbroken)
    refine ⟨records ++ [record], ?_, ?_, ?_, ?_⟩
    · rw [Run.finish, hwritten, hbooks.written]
      simp
    · rw [Run.finish, hsnapshot, hbooks.snapshot]
      simp
    · have hworkers : (w.url :: others.map (·.url)).Perm (r.workers.map (·.url)) := (hp.map _).symm
      rw [List.map_append, List.map_singleton, hurl, List.append_assoc, List.singleton_append]
      exact (hworkers.append_left _).trans hbooks.urls
    · intro outcome
      have hcount := hbooks.counts outcome
      simp only [ends_finish, List.countP_append, List.countP_singleton, recorded_beq, hcount]
      simp only [Run.finish]
      omega
  place := h.place.work (not_idle_of_perm hp) rfl rfl hc
  tally := h.tally
  report := h.report
  frontierSize := h.frontierSize
  alreadyDone := h.alreadyDone

/-- A step of any worker keeps the books. -/
theorem Run.Sound.work (h : r.Sound around frontier queue before) {ticket : Nat} {heed : Bool}
    (hs : r.work plan around ticket heed = some r') : r'.Sound around frontier queue before := by
  obtain ⟨w, others, shared, hp, ⟨w', hstep, rfl⟩ | ⟨e, hstep, rfl⟩⟩ := work_cases h.tickets hs
  · have hfits := h.fits w (hp.mem_iff.mpr List.mem_cons_self)
    have hdeed := step_deed hfits hstep
    cases hdeed.turn with
    | goes url ticket ahead store files heeds =>
      exact h.goOn hp url ticket (hdeed.fits hfits) (carries_of_isAhead ahead.2) store heeds
    | settles phase judged url ticket recording =>
      refine h.goOn hp url ticket (hdeed.fits hfits) ?_ rfl id
      intro record method hr
      cases recording.symm.trans hr
      exact url.symm
  · have hmem : w ∈ r.workers := hp.mem_iff.mpr List.mem_cons_self
    have hturn := (step_deed (h.fits w hmem) hstep).turn
    cases hturn with
    | @appends record method phase =>
      refine h.finish hp ?_ id
      have hcarries := h.carries w hmem record method phase
      rcases shared_append_cases r.shared plan around.logFault record method with
        ⟨he, hwritten, hsnapshot⟩ | ⟨he, -⟩
      · right
        exact ⟨record, Except.error.inj he, hcarries, hwritten, hsnapshot⟩
      · left
        intro outcome ho
        rw [Except.error.inj he] at ho
        cases ho
    | breaks ahead => exact h.finish hp (Or.inl (by simp)) id

/-- A leaver that asks for a stop or gives its place back keeps the books. -/
theorem Run.Sound.leave (h : r.Sound around frontier queue before) {ticket : Nat}
    (hs : r.leave ticket = some r') : r'.Sound around frontier queue before := by
  obtain ⟨l, others, hp, -, ⟨-, rfl⟩ | ⟨-, rfl⟩⟩ := leave_cases hs
  · have hbusy : ¬ r.Idle := fun hidle =>
      List.ne_nil_of_mem (hp.mem_iff.mpr List.mem_cons_self) hidle.leaving
    exact h.reseat rfl rfl rfl rfl (h.seats.congr (.of_eq (tickets_pay r ticket)) rfl rfl)
      (.of_eq (ends_pay r ticket)) rfl rfl rfl (h.place.work hbusy rfl rfl fun _ => rfl)
  · have hbusy : ¬ r.Idle := fun hidle =>
      List.ne_nil_of_mem (hp.mem_iff.mpr List.mem_cons_self) hidle.leaving
    exact h.reseat rfl rfl rfl rfl (h.seats.release hp) (ends_release hp) rfl rfl rfl
      (h.place.work hbusy rfl rfl id)

/-- The next URL of a batch is the next one of the queue. -/
theorem Run.Sound.next (h : r.Sound around frontier queue before) {entry : FrontierEntry}
    {rest : List FrontierEntry} {later : List (List FrontierEntry)}
    (hphase : r.phase = .admitting (entry :: rest) later) :
    r.handed < queue.length ∧ queue.take (r.handed + 1) = queue.take r.handed ++ [entry] ∧
      queue.drop (r.handed + 1) = rest ++ later.flatten := by
  have hdrop : queue.drop r.handed = entry :: (rest ++ later.flatten) := by
    have hplace := h.place
    rw [Run.Place, hphase] at hplace
    exact hplace
  have hlt : r.handed < queue.length := by
    have hlen := congrArg List.length hdrop
    simp only [List.length_drop, List.length_cons] at hlen
    omega
  rw [List.drop_eq_getElem_cons hlt] at hdrop
  obtain ⟨hentry, hrest⟩ := List.cons.inj hdrop
  exact ⟨hlt, by rw [List.take_succ_eq_append_getElem hlt, hentry], hrest⟩

/-- The ticket of the next worker is one that no other has. -/
theorem Run.Seated.handOut (h : r.Seated) (entry : FrontierEntry) (rest : List FrontierEntry)
    (later : List (List FrontierEntry)) : (r.handOut entry rest later).Seated := by
  have htickets : (r.handOut entry rest later).tickets.Perm (r.handed :: r.tickets) := by
    simp only [Run.tickets, Run.handOut, Worker.start, List.map_append, List.map_singleton]
    exact (List.perm_append_singleton _ _).append_right _
  refine ⟨h.roomy, htickets.nodup_iff.mpr (List.nodup_cons.mpr ⟨?_, h.nodup⟩), ?_, ?_⟩
  · exact fun hmem => Nat.lt_irrefl _ (h.given _ hmem)
  · intro ticket ht
    rcases List.mem_cons.mp (htickets.mem_iff.mp ht) with rfl | hold
    · exact Nat.lt_succ_self _
    · exact Nat.lt_succ_of_lt (h.given ticket hold)
  · exact ((List.perm_append_singleton _ _).trans (h.held.cons _)).trans htickets.symm

/-- The next URL of a batch goes to a worker of its own, with a ticket that no other has. -/
theorem Run.Sound.handOut (h : r.Sound around frontier queue before) {entry : FrontierEntry}
    {rest : List FrontierEntry} {later : List (List FrontierEntry)}
    (hphase : r.phase = .admitting (entry :: rest) later) :
    (r.handOut entry rest later).Sound around frontier queue before := by
  obtain ⟨hlt, htake, hrest⟩ := h.next hphase
  have hcarries : (Worker.start r.handed entry.url).Carries := carries_of_isAhead rfl
  refine ⟨h.seats.handOut entry rest later,
    forall_handOut h.fits (fits_start around r.handed entry.url), forall_handOut h.carries hcarries,
    hlt, ?_, hrest, h.tally, h.report, h.frontierSize, h.alreadyDone⟩
  · intro hb
    obtain ⟨records, hbooks⟩ := h.books hb
    refine ⟨records, hbooks.written, hbooks.snapshot, ?_, hbooks.counts⟩
    rw [Run.handOut, htake, List.map_append, List.map_append, List.map_singleton, List.map_singleton,
      ← List.append_assoc]
    exact hbooks.urls.append_right _

end Archiver
