import Archiver.Proofs.Harvest.Fate
import Archiver.Proofs.Harvest.SessionLaw

namespace Archiver

/-- How often checking a session has asked for a URL before so many batches. -/
def SessionCheck.probesOf (session : SessionCheck) (text : String) (batches : Nat) : Nat :=
  match session with
  | .probe p => if p.url = text then batches else 0
  | _ => 0

/-- Surroundings in which an answer depends on the URL and on how often it was asked for before, the
session stays valid, the log can be written and nobody asks for a stop. -/
structure Surroundings.Steady (answers : String → Nat → Reply) (around : Surroundings) : Prop where
  reply : ∀ earlier text,
    (around.site earlier text).reply = answers text (earlier.countP (·.url == text))
  goes : ∀ earlier text, (around.site earlier text).stops = false
  keeps : ∀ earlier text, (around.site earlier text).losesWorker = false
  stop : around.stopAt = none
  log : ∀ use, around.logFault use = none
  session : match around.session with
    | .notNeeded => True
    | .answers valid => ∀ n, valid n = true
    | .probe probe => ∀ n, probe.accepts (answers probe.url n) = true

/-- The answers to the tries for a URL that stands at a place in the queue. -/
def repliesAt (answers : String → Nat → Reply) (session : SessionCheck) (size i : Nat)
    (url : CanonicalUrl) (k : Nat) : Reply :=
  answers url.text (session.probesOf url.text (i / size + 1) + k)

def Shared.asked (s : Shared) (text : String) : Nat := s.requests.countP (·.url == text)

/-- A worker whose tries get the answers meant for the place of its URL. -/
structure Worker.Fair (plan : Plan) (answers : String → Nat → Reply) (session : SessionCheck)
    (queue : List FrontierEntry) (s : Shared) (w : Worker) : Prop where
  own : (queue[w.ticket]?).map (·.url) = some w.url
  course : w.OnCourse plan (repliesAt answers session plan.batchSize w.ticket w.url)
  asked : s.asked w.url.text =
    session.probesOf w.url.text (w.ticket / plan.batchSize + 1) + w.made

/-- Where nothing is wrong with the session, the log and the workers, and nobody asks for a stop. -/
def RunPhase.IsFair : RunPhase → Prop
  | .checking _ valid _ _ => valid = true
  | .closing outcome | .ended (.ok outcome) => outcome = .completed
  | .ended (.error _) => False
  | _ => True

/-- What the order of the moves leaves alone in steady surroundings. -/
structure Run.Fair (plan : Plan) (answers : String → Nat → Reply) (session : SessionCheck)
    (queue : List FrontierEntry) (episodes : List Episode) (r : Run) : Prop where
  goes : r.shared.cancelled = false
  unbroken : ¬ r.Broken
  phase : r.phase.IsFair
  workers : ∀ w ∈ r.workers, w.Fair plan answers session queue r.shared
  unasked : ∀ entry ∈ queue.drop r.handed, r.shared.asked entry.url.text =
    session.probesOf entry.url.text ((gatesOf episodes).count .asked)
  follows : ∀ record ∈ recordsOf episodes, ∃ i, (queue[i]?).map (·.url) = some record.url ∧
    record.Follows plan (repliesAt answers session plan.batchSize i record.url)

variable {plan : Plan} {around : Surroundings} {answers : String → Nat → Reply}
  {session : SessionCheck} {frontier queue : List FrontierEntry} {before : ProgressStore}
  {episodes : List Episode} {a b r : Run} {x : Episode}

theorem probesOf_succ (session : SessionCheck) (text : String) (n : Nat) :
    session.probesOf text (n + 1) = session.probesOf text n + session.probesOf text 1 := by
  cases session with
  | probe probe => simp only [SessionCheck.probesOf]; split <;> rfl
  | _ => rfl

theorem probesOf_zero (session : SessionCheck) (text : String) : session.probesOf text 0 = 0 := by
  cases session with
  | probe probe => simp only [SessionCheck.probesOf, ite_self]
  | _ => rfl

theorem Surroundings.Steady.flush (ha : around.Steady answers) (batches : Nat) :
    around.flushFault batches = none := by
  rw [Surroundings.flushFault, ha.log]

theorem not_broken_of (h : ¬ a.Broken) (hfailure : b.failure = a.failure) (hends : b.ends ⊆ a.ends) :
    ¬ b.Broken := by
  rintro (hnoted | ⟨e, he, hne⟩)
  · exact h (Or.inl (hfailure ▸ hnoted))
  · exact h (Or.inr ⟨e, hends he, hne⟩)

theorem fair_start (diff : Bool) (frontier : List FrontierEntry) (files : Files)
    (store : ProgressStore) :
    (Run.start plan diff false frontier files store).Fair plan answers session
      (queueOf diff store.snapshot frontier) [] where
  goes := rfl
  unbroken := by simp [Run.Broken, Run.ends, Run.start]
  phase := trivial
  workers := fun _ hw => absurd hw List.not_mem_nil
  unasked := fun entry _ => (probesOf_zero session entry.url.text).symm
  follows := fun _ hr => absurd hr List.not_mem_nil

theorem Run.Fair.frame (h : a.Fair plan answers session queue episodes)
    (hworkers : b.workers = a.workers) (hhanded : b.handed = a.handed)
    (hrequests : b.shared.requests = a.shared.requests) (hgoes : b.shared.cancelled = false)
    (hunbroken : ¬ b.Broken) (hphase : b.phase.IsFair) (hrecord : x.record? = none)
    (hgate : x.gate? ≠ some .asked) : b.Fair plan answers session queue (episodes ++ [x]) := by
  have hasked : b.shared.asked = a.shared.asked := by
    funext text
    rw [Shared.asked, hrequests, Shared.asked]
  have hcount : (gatesOf (episodes ++ [x])).count .asked = (gatesOf episodes).count .asked := by
    rw [gatesOf_concat, List.count_append]
    cases hx : x.gate? with
    | none => rfl
    | some gate => simp [show gate ≠ .asked from fun he => hgate (he ▸ hx)]
  refine ⟨hgoes, hunbroken, hphase, ?_, ?_, ?_⟩
  · intro w hw
    obtain ⟨hown, hcourse, hmade⟩ := h.workers w (hworkers ▸ hw)
    exact ⟨hown, hcourse, hasked ▸ hmade⟩
  · rw [hhanded, hasked, hcount]
    exact h.unasked
  · rw [recordsOf_still episodes hrecord]
    exact h.follows

theorem Run.Fair.check (ha : around.Steady answers)
    (h : a.Fair plan answers around.session queue episodes) (hworkers : a.workers = [])
    {batch : List FrontierEntry} {later : List (List FrontierEntry)} (hrecord : x.record? = none)
    (hgate : x.gate? = some .asked) :
    (a.check around batch later).Fair plan answers around.session queue (episodes ++ [x]) := by
  have hcount : (gatesOf (episodes ++ [x])).count .asked =
      (gatesOf episodes).count .asked + 1 := by
    rw [gatesOf_concat, hgate, Option.toList_some, List.count_append]
    rfl
  have hsession := ha.session
  have hnobody : ∀ w ∈ (a.check around batch later).workers,
      w.Fair plan answers around.session queue (a.check around batch later).shared := by
    rw [(quiet_check batch later).workers, hworkers]
    exact fun _ hw => absurd hw List.not_mem_nil
  have hfollows := h.follows
  rw [← recordsOf_still episodes hrecord] at hfollows
  have hunbroken : ¬ (a.check around batch later).Broken := by
    unfold Run.check
    split <;> exact not_broken_of h.unbroken rfl (List.Subset.refl _)
  refine ⟨?_, hunbroken, ?_, hnobody, ?_, hfollows⟩
  · unfold Run.check
    split
    · exact h.goes
    · exact h.goes
    · simp only [h.goes, ha.goes, Bool.or_self]
  · unfold Run.check
    split
    · rfl
    · next hanswers =>
      simp only [hanswers] at hsession
      exact hsession _
    · next hprobe =>
      simp only [hprobe] at hsession
      simp only [RunPhase.IsFair, ha.reply]
      exact hsession _
  · -- a probe is one more request for its own URL, and no other check makes a request
    intro entry hentry
    rw [(quiet_check batch later).handed] at hentry
    have hasked := h.unasked entry hentry
    rw [hcount, probesOf_succ, ← hasked]
    unfold Run.check
    split
    · next hnone => simp only [hnone, SessionCheck.probesOf]; rfl
    · next hanswers => simp only [hanswers, SessionCheck.probesOf]; rfl
    · next probe hprobe =>
      simp only [hprobe, SessionCheck.probesOf, Shared.asked, List.countP_cons, beq_iff_eq]

/-- The next URL of a batch stands in the queue at the place that its worker's ticket says. -/
theorem Run.Sound.entry (h : r.Sound around frontier queue before) {entry : FrontierEntry}
    {rest : List FrontierEntry} {later : List (List FrontierEntry)}
    (hphase : r.phase = .admitting (entry :: rest) later) : queue[r.handed]? = some entry := by
  have hplace := h.place
  rw [Run.Place, hphase] at hplace
  have hfirst : (queue.drop r.handed)[0]? = some entry := by
    rw [hplace]
    rfl
  rwa [List.getElem?_drop, Nat.add_zero] at hfirst

/-- A URL that is handed out was never asked for but to check the session. -/
theorem Run.Fair.handOut (h : a.Fair plan answers session queue episodes)
    (hsound : a.Sound around frontier queue before) {entry : FrontierEntry}
    {rest : List FrontierEntry} {later : List (List FrontierEntry)}
    (hphase : a.phase = .admitting (entry :: rest) later)
    (hgates : gatesOf episodes = gateSequence (a.handed / plan.batchSize + 1))
    (hrecord : x.record? = none) (hgate : x.gate? = none) :
    (a.handOut entry rest later).Fair plan answers session queue (episodes ++ [x]) := by
  have hentry := hsound.entry hphase
  have hfollows := h.follows
  rw [← recordsOf_still episodes hrecord] at hfollows
  refine ⟨h.goes, not_broken_of h.unbroken rfl (List.Subset.refl _), trivial,
    forall_handOut h.workers ?_, ?_, hfollows⟩
  · have hmem : entry ∈ queue.drop a.handed := by
      rw [List.mem_iff_getElem?]
      exact ⟨0, by rw [List.getElem?_drop, Nat.add_zero, hentry]⟩
    have hasked := h.unasked entry hmem
    rw [hgates, count_asked_gateSequence] at hasked
    exact ⟨by rw [Worker.start, hentry, Option.map_some],
      ⟨Nat.zero_le _, fun i hi => absurd hi (Nat.not_lt_zero i)⟩, hasked⟩
  · rw [gatesOf_still episodes hgate]
    intro other hother
    exact h.unasked other (List.mem_of_mem_drop (List.drop_drop ▸ hother))

theorem Run.Fair.join (h : a.Fair plan answers session queue episodes) {later : List (List FrontierEntry)}
    {last : WorkerEnd} {rest : List WorkerEnd} (hphase : a.phase = .joining later)
    (hfinished : a.finished = last :: rest) (hrecord : x.record? = none) (hgate : x.gate? = none) :
    (({ a with finished := rest } : Run).join last).Fair plan answers session queue
      (episodes ++ [x]) := by
  have hends : a.ends = last :: ({ a with finished := rest } : Run).ends := by
    rw [Run.ends, hfinished, List.cons_append]
    rfl
  cases last with
  | recorded outcome =>
    refine h.frame rfl rfl rfl h.goes (not_broken_of h.unbroken rfl ?_) ?_ hrecord
      (by rw [hgate]; simp)
    · rw [hends]
      exact List.subset_cons_self _ _
    · simp only [Run.join, hphase]
      trivial
  | _ =>
    -- any other end would have broken the run
    refine absurd (Or.inr ⟨_, hends ▸ List.mem_cons_self, ?_⟩) h.unbroken
    simp

/-- A batch that was counted goes on to the next one. -/
theorem Run.Fair.counted (h : a.Fair plan answers session queue episodes)
    {later : List (List FrontierEntry)} {store : ProgressStore} {next : RunPhase}
    (onward : a.Onward plan later next) (hrecord : x.record? = none) (hgate : x.gate? = none) :
    (a.counted store next).Fair plan answers session queue (episodes ++ [x]) := by
  have hgates : x.gate? ≠ some .asked := by
    rw [hgate]
    simp
  have hunbroken : ¬ (a.counted store next).Broken :=
    not_broken_of h.unbroken rfl (List.Subset.refl _)
  cases onward with
  | stops cancelled => exact absurd (h.goes.symm.trans cancelled) Bool.false_ne_true
  | rests => exact h.frame rfl rfl rfl h.goes hunbroken trivial hrecord hgates
  | opens => exact h.frame rfl rfl rfl h.goes hunbroken trivial hrecord hgates

theorem Run.Fair.coordinate (ha : around.Steady answers)
    (h : a.Fair plan answers around.session queue episodes)
    (hsound : a.Sound around frontier queue before) (hs : 0 < plan.batchSize)
    (hgate : a.AtGate around plan.batchSize queue (gatesOf episodes))
    (made : a.coordinate plan around = some b) :
    b.Fair plan answers around.session queue (episodes ++ [⟨a, .coordinate, b⟩]) := by
  have hrecord : (Episode.mk a .coordinate b).record? = none := record_of_still rfl
  have hfair := h.phase
  have hgoes := h.goes
  cases coordinates_of made with
  | complete phase =>
    exact h.frame rfl rfl rfl hgoes (not_broken_of h.unbroken rfl (List.Subset.refl _)) rfl hrecord
      (by simp [Episode.gate?, phase])
  | stop phase cancelled => exact absurd (hgoes.symm.trans cancelled) Bool.false_ne_true
  | @check batch later phase goes =>
    have hidle : a.Idle := by
      have hplace := hsound.place
      rw [Run.Place, phase] at hplace
      exact hplace.1
    obtain ⟨due, valid, hphase, -⟩ := check_cases a around batch later
    exact h.check ha hidle.workers hrecord (by simp only [Episode.gate?, phase, hphase])
  | accept phase time =>
    exact h.frame rfl rfl rfl hgoes (not_broken_of h.unbroken rfl (List.Subset.refl _)) trivial hrecord
      (by simp [Episode.gate?, phase])
  | expire phase time =>
    rw [phase] at hfair
    cases hfair
  | allOut phase =>
    exact h.frame rfl rfl rfl hgoes (not_broken_of h.unbroken rfl (List.Subset.refl _)) trivial hrecord
      (by simp [Episode.gate?, phase])
  | cutOff phase cancelled => exact absurd (hgoes.symm.trans cancelled) Bool.false_ne_true
  | @handOut entry rest later phase goes room =>
    have hmade : a.step plan around .coordinate = some (a.handOut entry rest later) := made
    have hgates := gates_of_handOut hs hgate hsound hmade (Nat.succ_ne_self _)
    exact h.handOut hsound phase hgates hrecord (by simp [Episode.gate?, phase])
  | join phase finished => exact h.join phase finished hrecord (by simp [Episode.gate?, phase])
  | giveUp phase finished workers leaving failure =>
    exact absurd (Or.inl (failure ▸ Option.some_ne_none _)) h.unbroken
  | loseBatch phase finished workers leaving failure fails =>
    cases fails.symm.trans (ha.flush _)
  | closeBatch phase finished workers leaving failure saved onward =>
    exact h.counted onward hrecord (by simp [Episode.gate?, phase])
  | rested phase time =>
    exact h.frame rfl rfl rfl hgoes (not_broken_of h.unbroken rfl (List.Subset.refl _)) trivial hrecord
      (by simp [Episode.gate?, phase])
  | close phase =>
    rw [phase] at hfair
    exact h.frame rfl rfl rfl hgoes (not_broken_of h.unbroken rfl (List.Subset.refl _)) hfair hrecord
      (by simp [Episode.gate?, phase])
  | loseRun phase fails => cases fails.symm.trans (ha.flush _)

variable {w w' : Worker} {others : List Worker} {heed : Bool} {s s' : Shared}
  {result : Except WorkerEnd Worker}

theorem asked_cons (s : Shared) (q : Request) {s' : Shared} (h : s'.requests = q :: s.requests)
    (text : String) : s'.asked text = s.asked text + if q.url = text then 1 else 0 := by
  simp only [Shared.asked, h, List.countP_cons, beq_iff_eq]

theorem asked_other (hd : w.Deed plan around heed s s' result) {text : String}
    (hne : text ≠ w.url.text) : s'.asked text = s.asked text := by
  rcases deed_requests hd with hsame | ⟨-, hcons⟩
  · rw [Shared.asked, hsame, Shared.asked]
  · rw [asked_cons s _ hcons, if_neg hne.symm, Nat.add_zero]

theorem deed_goes (ha : around.Steady answers) (hd : w.Deed plan around heed s s' result)
    (hc : s.cancelled = false) : s'.cancelled = false := by
  cases hd with
  | requests phase => simp only [Worker.request, hc, ha.goes, Bool.or_self]
  | _ => exact hc

theorem deed_ended (ha : around.Steady answers) {e : WorkerEnd}
    (hd : w.Deed plan around heed s s' (.error e)) {record : ProgressRecord} {method : Option String}
    (hphase : w.phase = .recording record method) : e = .recorded record.outcome := by
  generalize hresult : Except.error e = result at hd
  cases hd with
  | appends phase =>
    cases phase.symm.trans hphase
    simp only [Shared.append, ha.log, append_held, if_true] at hresult
    exact Except.error.inj hresult
  | breaks phase => cases phase.symm.trans hphase
  | _ => cases hresult

theorem Worker.Fair.deed (ha : around.Steady answers)
    (h : w.Fair plan answers around.session queue s)
    (hd : w.Deed plan around heed s s' (.ok w')) (hc : s.cancelled = false)
    (hkept : w.losesArticle plan around.start s = false) (hurl : w'.url = w.url)
    (hticket : w'.ticket = w.ticket) : w'.Fair plan answers around.session queue s' := by
  refine ⟨by rw [hticket, hurl]; exact h.own, ?_, ?_⟩
  · rw [hticket, hurl]
    refine hd.onCourse h.course hc ?_ hkept
    intro due hphase
    -- all earlier requests for the URL are its own tries and the probes
    have hasked := h.asked
    rw [Worker.made, hphase] at hasked
    rw [ha.reply, ← Shared.asked, hasked, repliesAt]
  · rw [hticket, hurl]
    rcases hd.made with ⟨hsame, hmade⟩ | ⟨hcons, hmade⟩
    · rw [hmade, ← h.asked, Shared.asked, hsame, Shared.asked]
    · rw [hmade, asked_cons s _ hcons, if_pos rfl, h.asked, Nat.add_assoc]

/-- The URLs in work are distinct, and none of them is still to be handed out. -/
theorem Run.Logged.distinct (h : a.Logged queue before episodes) (hn : (queue.map (·.url)).Nodup)
    (hunbroken : ¬ a.Broken) (hp : a.workers.Perm (w :: others)) :
    (∀ v ∈ others, v.url ≠ w.url) ∧ ∀ entry ∈ queue.drop a.handed, w.url ≠ entry.url := by
  have hw : w ∈ a.workers := hp.mem_iff.mpr List.mem_cons_self
  have htake : ((queue.take a.handed).map (·.url)).Nodup :=
    hn.sublist ((List.take_sublist _ _).map _)
  have hworkers : (a.workers.map (·.url)).Nodup :=
    ((h.urls hunbroken).nodup_iff.mpr htake).of_append_right
  have hcons : ((w :: others).map (·.url)).Nodup := (hp.map _).nodup_iff.mp hworkers
  refine ⟨fun v hv he => ?_, not_mem_drop hn (h.given w hw) (Nat.le_refl _)⟩
  exact (List.nodup_cons.mp hcons).1 (List.mem_map.mpr ⟨v, hv, he⟩)

theorem text_ne {url url' : CanonicalUrl} (h : url ≠ url') : url.text ≠ url'.text :=
  fun ht => h (text_inj ht)

/-- What a worker's step leaves alone for the other workers and the URLs to come. -/
theorem Run.Fair.beside (h : a.Fair plan answers session queue episodes)
    (hn : (queue.map (·.url)).Nodup) (hlogged : a.Logged queue before episodes)
    (hp : a.workers.Perm (w :: others)) (hd : w.Deed plan around heed a.shared s' result) :
    (∀ v ∈ others, v.Fair plan answers session queue s') ∧
      ∀ entry ∈ queue.drop a.handed, s'.asked entry.url.text =
        session.probesOf entry.url.text ((gatesOf episodes).count .asked) := by
  obtain ⟨hothers, hcome⟩ := hlogged.distinct hn h.unbroken hp
  refine ⟨fun v hv => ?_, fun entry hentry => ?_⟩
  · obtain ⟨hown, hcourse, hasked⟩ := (forall_of_perm hp h.workers).2 v hv
    exact ⟨hown, hcourse, (asked_other hd (text_ne (hothers v hv))).trans hasked⟩
  · have hne := text_ne (hcome entry hentry).symm
    exact (asked_other hd hne).trans (h.unasked entry hentry)

theorem Worker.Fair.follows (h : w.Fair plan answers session queue s) (hcarries : w.Carries)
    {record : ProgressRecord} (hrecord : w.record? = some record) :
    ∃ i, (queue[i]?).map (·.url) = some record.url ∧
      record.Follows plan (repliesAt answers session plan.batchSize i record.url) := by
  have hcourse := h.course
  unfold Worker.record? at hrecord
  split at hrecord
  · next record' method phase =>
    cases hrecord
    have hurl := hcarries record method phase
    rw [Worker.OnCourse, phase] at hcourse
    exact ⟨w.ticket, hurl ▸ h.own, hurl ▸ hcourse⟩
  · cases hrecord

/-- True of a move in which the archive does not take in an article that was accepted. -/
def Episode.losesArticle (plan : Plan) (around : Surroundings) (x : Episode) : Bool :=
  x.worker?.any fun w => w.losesArticle plan around.start x.before.shared

theorem Run.Fair.work (ha : around.Steady answers) (hm : ¬ plan.policy.multiplier < 0.0)
    (hn : (queue.map (·.url)).Nodup) (h : a.Fair plan answers around.session queue episodes)
    (hsound : a.Sound around frontier queue before) (hlogged : a.Logged queue before episodes)
    {ticket : Nat} (made : a.step plan around (.work ticket heed) = some b)
    (hkept : (Episode.mk a (.work ticket heed) b).losesArticle plan around = false) :
    b.Fair plan answers around.session queue (episodes ++ [⟨a, .work ticket heed, b⟩]) := by
  obtain ⟨w, others, shared, hp, hworker, hcase⟩ := work_episode hsound made
  have hw : w ∈ a.workers := hp.mem_iff.mpr List.mem_cons_self
  have hgates := gatesOf_still episodes (x := ⟨a, .work ticket heed, b⟩) rfl
  rw [Episode.losesArticle, hworker, Option.any_some] at hkept
  have hphase := h.phase
  rcases hcase with ⟨w', hdeed, rfl⟩ | ⟨e, hdeed, rfl⟩
  · obtain ⟨hothers, hcome⟩ := h.beside hn hlogged hp hdeed
    obtain ⟨hurl, hticket, hstore⟩ := deed_store hdeed
    have hfair := (h.workers w hw).deed ha hdeed h.goes hkept hurl hticket
    have hrecord := record_of_same (x := ⟨a, .work ticket heed, a.goOn shared others w'⟩)
      (congrArg (·.log.written) hstore)
    refine ⟨deed_goes ha hdeed h.goes, not_broken_of h.unbroken rfl (List.Subset.refl _), hphase,
      ?_, ?_, ?_⟩
    · exact List.forall_mem_append.mpr ⟨hothers, List.forall_mem_singleton.mpr hfair⟩
    · rw [hgates]
      exact hcome
    · rw [recordsOf_still episodes hrecord]
      exact h.follows
  · obtain ⟨hothers, hcome⟩ := h.beside hn hlogged hp hdeed
    obtain ⟨record, method, phase⟩ := deed_recorded (hsound.fits w hw) hdeed hm ha.keeps
    refine ⟨deed_goes ha hdeed h.goes, ?_, hphase, hothers, ?_, ?_⟩
    · have hend := deed_ended ha hdeed phase
      rintro (hfailure | ⟨e', he, hne⟩)
      · exact h.unbroken (Or.inl hfailure)
      · rw [ends_finish] at he
        rcases List.mem_append.mp he with he | he
        · exact h.unbroken (Or.inr ⟨e', he, hne⟩)
        · rw [List.mem_singleton.mp he, hend] at hne
          exact hne record.outcome rfl
    · rw [hgates]
      exact hcome
    · rw [recordsOf_concat]
      refine List.forall_mem_append.mpr ⟨h.follows, fun other hother => ?_⟩
      exact (h.workers w hw).follows (hsound.carries w hw)
        (worker_record hworker (Option.mem_toList.mp hother))

/-- Who owes the run a stop could not append its record. -/
theorem broken_of_owing {diff cancelled : Bool} {files : Files} {store : ProgressStore} {l : Leaver}
    (h : (Run.start plan diff cancelled frontier files store).Reaches plan around r)
    (hl : l ∈ r.leaving) (howes : l.owesStop = true) : r.Broken := by
  have howing : ∀ l ∈ r.leaving, l.owesStop = true → l.how = .logFailed := by
    refine h.invariant (P := fun r => ∀ l ∈ r.leaving, l.owesStop = true → l.how = .logFailed)
      (fun l hl => absurd hl List.not_mem_nil) ?_
    intro a b move hbefore made l hl howes
    cases move with
    | coordinate =>
      rcases coordinate_hands made with ⟨-, hleaving, -⟩ | ⟨entry, rest, later, -, -, -, rfl⟩
      · exact hbefore l (hleaving ▸ hl) howes
      · exact hbefore l hl howes
    | work ticket heed =>
      obtain ⟨w, shared, -, ⟨w', -, rfl⟩ | ⟨e, -, rfl⟩⟩ := work_found made
      · exact hbefore l hl howes
      · rcases List.mem_append.mp hl with hl | hl
        · exact hbefore l hl howes
        · obtain rfl := List.mem_singleton.mp hl
          exact beq_iff_eq.mp howes
    | leave ticket =>
      obtain ⟨l', others, hp, -, ⟨-, rfl⟩ | ⟨-, rfl⟩⟩ := leave_cases made
      · obtain ⟨m, hm, rfl⟩ := List.mem_map.mp hl
        split at howes
        · cases howes
        · next hother => rw [if_neg hother]; exact hbefore m hm howes
      · exact hbefore l (hp.mem_iff.mpr (List.mem_cons_of_mem l' hl)) howes
    | stop =>
      obtain ⟨-, -, rfl⟩ := stop_made made
      exact hbefore l hl howes
    | wait time =>
      obtain ⟨-, rfl⟩ := wait_made made
      exact hbefore l hl howes
  refine Or.inr ⟨l.how, List.mem_append_right _ (List.mem_map_of_mem hl), ?_⟩
  rw [howing l hl howes]
  simp

/-- In steady surroundings every story in which the archive takes in all articles is fair. -/
theorem fair_of_story {diff : Bool} {files : Files} {store : ProgressStore}
    (ha : around.Steady answers) (hm : ¬ plan.policy.multiplier < 0.0) (hs : 0 < plan.batchSize)
    (hn : (frontier.map (·.url)).Nodup)
    (h : (Run.start plan diff false frontier files store).Story plan around episodes r)
    (hkept : ∀ x ∈ episodes, x.losesArticle plan around = false) :
    r.Fair plan answers around.session (queueOf diff store.snapshot frontier) episodes := by
  have hqueue := nodup_queueOf hn diff store.snapshot
  induction h with
  | start => exact fair_start diff frontier files store
  | @step episodes a b move story made ih =>
    have hbefore := ih fun x hx => hkept x (List.mem_append_left _ hx)
    have hlast := hkept ⟨a, move, b⟩ (List.mem_append_right _ (List.mem_singleton_self _))
    have hsound := sound_of_reaches hs (reaches_of_story story)
    cases move with
    | coordinate => exact hbefore.coordinate ha hsound hs (atGate_of_story hs story).1 made
    | work ticket heed =>
      exact hbefore.work ha hm hqueue hsound (logged_of_story hs story) made hlast
    | leave ticket =>
      obtain ⟨l, others, hp, -, ⟨howes, rfl⟩ | ⟨-, rfl⟩⟩ := leave_cases made
      · have hl := hp.mem_iff.mpr List.mem_cons_self
        exact absurd (broken_of_owing (reaches_of_story story) hl howes) hbefore.unbroken
      · have hends := (ends_release hp).subset
        exact hbefore.frame rfl rfl rfl hbefore.goes (not_broken_of hbefore.unbroken rfl hends)
          hbefore.phase rfl (by simp [Episode.gate?])
    | stop =>
      obtain ⟨⟨time, hstop, -⟩, -⟩ := stop_made made
      rw [ha.stop] at hstop
      cases hstop
    | wait time =>
      obtain ⟨-, rfl⟩ := wait_made made
      exact hbefore.frame rfl rfl rfl hbefore.goes (not_broken_of hbefore.unbroken rfl (List.Subset.refl _))
        hbefore.phase rfl (by simp [Episode.gate?])

end Archiver
