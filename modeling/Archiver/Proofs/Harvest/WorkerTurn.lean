import Archiver.Proofs.Harvest.Verdicts
import Archiver.Proofs.Progress.StoreLaws

namespace Archiver

/-- The answer that a worker has to deal with. -/
def Worker.reply? (w : Worker) : Option Reply :=
  match w.phase with
  | .fetching _ response => some response.reply
  | .backingOff _ reply | .settling reply => some reply
  | _ => none

/-- True of a worker that has no record yet. -/
def Worker.isAhead (w : Worker) : Bool :=
  match w.phase with
  | .recording _ _ => false
  | _ => true

/-- The record that a worker has to append. -/
def Worker.record? (w : Worker) : Option ProgressRecord :=
  match w.phase with
  | .recording record _ => some record
  | _ => none

theorem record_ahead {w : Worker} (h : w.isAhead = true) : w.record? = none := by
  unfold Worker.record?
  split
  · next hp =>
    rw [Worker.isAhead, hp] at h
    cases h
  · rfl

/-- The states in which a phase finds its URL. -/
def WorkerPhase.Expects : WorkerPhase → FetchState → Prop
  | .ready, state => state = .pending
  | .pacing _, state | .fetching _ _, state => state = .fetching
  | .backingOff _ reply, state => state = .retrying ∧ reply.isPage = false ∧ reply.isGone = false
  | .settling reply, state =>
    state = .fetching ∨ state = .retrying ∧ reply.isPage = false ∧ reply.isGone = false
  | .recording _ _, _ => True

/-- The response that a worker waits for. -/
def Worker.response? (w : Worker) : Option Response :=
  match w.phase with
  | .fetching _ response => some response
  | _ => none

/-- The state of a worker fits its phase, and its answer is one that the site gives for its URL. -/
structure Worker.Fits (around : Surroundings) (w : Worker) : Prop where
  state : w.phase.Expects w.state
  answered : ∀ reply, w.reply? = some reply →
    ∃ earlier, (around.site earlier w.url.text).reply = reply
  heard : ∀ response, w.response? = some response →
    ∃ earlier, around.site earlier w.url.text = response

/-- True if a worker sees a stop in the wait before another try, or in place of it. -/
def Worker.isCutShort (w : Worker) (plan : Plan) (heed : Bool) (s : Shared) : Bool :=
  match w.phase with
  | .fetching _ response => !w.isLast plan.policy response.reply && s.cancelled &&
      (heed || 0 < plan.policy.waitMillis w.retries)
  | .backingOff due _ => s.cancelled && (heed || s.now < due)
  | _ => false

/-- What one step of a worker whose state fits can do. -/
inductive Worker.Deed (plan : Plan) (around : Surroundings) (heed : Bool) (w : Worker) (s : Shared) :
    Shared → Except WorkerEnd Worker → Prop where
  /-- Takes a time for its first request. -/
  | starts {slot : Nat} {pacer : Pacer} (phase : w.phase = .ready) :
      Deed plan around heed w s { s with pacer := pacer }
        (.ok { w with state := .fetching, phase := .pacing slot })
  /-- Makes its request. -/
  | requests {due : Nat} (phase : w.phase = .pacing due) :
      Deed plan around heed w s (w.request around.site s).1 (w.request around.site s).2
  /-- Takes an answer that is the last one. -/
  | receives {due : Nat} {response : Response} (phase : w.phase = .fetching due response)
      (last : w.isLast plan.policy response.reply = true) :
      Deed plan around heed w s s (.ok { w with phase := .settling response.reply })
  /-- Takes an answer and begins to wait for another try. -/
  | backsOff {due wait : Nat} {response : Response} (phase : w.phase = .fetching due response)
      (last : w.isLast plan.policy response.reply = false)
      (uncut : w.isCutShort plan heed s = false) :
      Deed plan around heed w s s
        (.ok { w with state := .retrying, phase := .backingOff wait response.reply })
  /-- Takes an answer and sees a stop instead of waiting. -/
  | quits {due : Nat} {response : Response} (phase : w.phase = .fetching due response)
      (last : w.isLast plan.policy response.reply = false)
      (cut : w.isCutShort plan heed s = true) :
      Deed plan around heed w s s
        (.ok { w with state := .retrying, phase := .settling response.reply })
  /-- Sees a stop while it waits. -/
  | wakes {due : Nat} {reply : Reply} (phase : w.phase = .backingOff due reply)
      (cut : w.isCutShort plan heed s = true) :
      Deed plan around heed w s s (.ok { w with phase := .settling reply })
  /-- Has waited, and takes a time for another request. -/
  | retries {due slot : Nat} {reply : Reply} {pacer : Pacer} (phase : w.phase = .backingOff due reply)
      (uncut : w.isCutShort plan heed s = false) :
      Deed plan around heed w s { s with pacer := pacer }
        (.ok { w with state := .fetching, retries := w.retries + 1, phase := .pacing slot })
  /-- Judges its last answer and has a record to append. -/
  | settles {reply : Reply} {verdict : Verdict} {files : Files} (phase : w.phase = .settling reply)
      (judged : judge plan (around.start.afterMillis s.now) w.url reply s.files = (verdict, files)) :
      Deed plan around heed w s { s with files := files }
        (.ok { w with
          state := verdict.outcome.state
          phase := .recording ⟨w.url, verdict.outcome, around.start.afterMillis s.now,
            UInt32.ofNat w.retries, verdict.error⟩ verdict.method })
  /-- Appends its record. -/
  | appends {record : ProgressRecord} {method : Option String}
      (phase : w.phase = .recording record method) :
      Deed plan around heed w s (s.append plan around.logFault record method).1
        (s.append plan around.logFault record method).2
  /-- Is lost over an answer, or over a wait that would be below zero. -/
  | breaks {due : Nat} {response : Response} (phase : w.phase = .fetching due response)
      (cause : response.losesWorker = true ∨ plan.policy.wait? w.retries = none) :
      Deed plan around heed w s s (.error .lost)

variable {plan : Plan} {around : Surroundings} {heed : Bool} {w w' : Worker} {s s' : Shared}
  {result : Except WorkerEnd Worker}

theorem become_of {a b : FetchState} (h : a.canBecome b = true) : a.become b = .ok b := by
  rw [FetchState.become, if_pos h]

/-- A state that expects a verdict can take the state of its outcome. -/
theorem canBecome_outcome {captured : Timestamp} {url : CanonicalUrl} {reply : Reply}
    {files files' : Files} {verdict : Verdict} {state : FetchState}
    (hs : (WorkerPhase.settling reply).Expects state)
    (h : judge plan captured url reply files = (verdict, files')) :
    state.canBecome verdict.outcome.state = true := by
  rcases hs with rfl | ⟨rfl, hpage, hgone⟩
  · cases verdict.outcome <;> rfl
  · rw [(judge_failure hpage hgone h).1]
    rfl

theorem receive_deed {due : Nat} {response : Response} (hp : w.phase = .fetching due response)
    (hs : w.state = .fetching) :
    w.Deed plan around heed s s (w.receive plan.policy heed s response) := by
  unfold Worker.receive
  split
  · next hlost => exact .breaks hp (Or.inl hlost)
  split
  · next hlast => exact .receives hp hlast
  next hlast =>
    have hlast : w.isLast plan.policy response.reply = false := by simpa using hlast
    rw [hs, become_of rfl]
    simp only
    cases hwait : plan.policy.wait? w.retries with
    | none => exact .breaks hp (Or.inr hwait)
    | some wait =>
      have hcut : w.isCutShort plan heed s = (s.cancelled && (heed || 0 < millisOfWait wait)) := by
        simp only [Worker.isCutShort, hp, hlast, RetryPolicy.waitMillis, hwait]
        rfl
      simp only [Option.map_some]
      split
      · next hstop => exact .quits hp hlast (hcut.trans hstop)
      · next hstop => exact .backsOff hp hlast (hcut.trans (by simpa using hstop))

theorem wake_deed {due : Nat} {reply : Reply} (hp : w.phase = .backingOff due reply)
    (hs : w.state = .retrying) (h : w.wake heed s due reply = some (s', result)) :
    w.Deed plan around heed s s' result := by
  have hcut : w.isCutShort plan heed s = (s.cancelled && (heed || s.now < due)) := by
    rw [Worker.isCutShort, hp]
  unfold Worker.wake at h
  split at h
  · next hstop =>
    cases h
    exact .wakes hp (hcut.trans hstop)
  next hstop =>
    split at h
    · rw [Worker.attempt, become_of (by rw [hs]; rfl)] at h
      cases h
      exact .retries hp (hcut.trans (by simpa using hstop))
    · cases h

theorem settle_deed {reply : Reply} (hp : w.phase = .settling reply)
    (hs : (WorkerPhase.settling reply).Expects w.state) :
    w.Deed plan around heed s (w.settle plan around.start s reply).1
      (w.settle plan around.start s reply).2 := by
  unfold Worker.settle
  cases hj : judge plan (around.start.afterMillis s.now) w.url reply s.files with
  | mk verdict files =>
    simp only [hj, become_of (canBecome_outcome hs hj)]
    exact .settles hp hj

/-- Every step of a worker whose state fits is one of its deeds. -/
theorem step_deed (hw : w.Fits around) (h : w.step plan around heed s = some (s', result)) :
    w.Deed plan around heed s s' result := by
  have hstate := hw.state
  unfold Worker.step at h
  cases hp : w.phase with
  | ready =>
    rw [hp] at hstate
    rw [hp, Worker.attempt, become_of (by rw [hstate]; rfl)] at h
    cases h
    exact .starts hp
  | pacing due =>
    simp only [hp] at h
    split at h
    · cases h
      exact .requests hp
    · cases h
  | fetching due response =>
    rw [hp] at hstate
    simp only [hp] at h
    split at h
    · cases h
      exact receive_deed hp hstate
    · cases h
  | backingOff due reply =>
    rw [hp] at hstate
    simp only [hp] at h
    exact wake_deed hp hstate.1 h
  | settling reply =>
    rw [hp] at hstate
    rw [hp] at h
    have hdeed : w.Deed plan around heed s (w.settle plan around.start s reply).1
        (w.settle plan around.start s reply).2 := settle_deed hp hstate
    have hresult : w.settle plan around.start s reply = (s', result) := Option.some.inj h
    rwa [hresult] at hdeed
  | recording record method =>
    simp only [hp] at h
    cases h
    exact .appends hp

theorem fits_start (around : Surroundings) (ticket : Nat) (url : CanonicalUrl) :
    (Worker.start ticket url).Fits around :=
  ⟨rfl, fun _ h => absurd h (by simp [Worker.reply?, Worker.start]),
    fun _ h => absurd h (by simp [Worker.response?, Worker.start])⟩

theorem isLast_eq_false {policy : RetryPolicy} {reply : Reply} (h : w.isLast policy reply = false) :
    reply.isPage = false ∧ reply.isGone = false ∧ policy.allows w.retries = true := by
  simpa [Worker.isLast, and_assoc] using h

/-- What a worker does leaves its state and its answer fitting. -/
theorem Worker.Deed.fits (hw : w.Fits around) (h : w.Deed plan around heed s s' (.ok w')) :
    w'.Fits around := by
  have hstate := hw.state
  have hanswered := hw.answered
  cases h with
  | starts phase => exact ⟨rfl, by simp [Worker.reply?], by simp [Worker.response?]⟩
  | requests phase =>
    rw [phase] at hstate
    refine ⟨hstate, fun reply hr => ⟨s.requests, ?_⟩, fun response hr => ⟨s.requests, ?_⟩⟩
    · exact Option.some.inj hr
    · exact Option.some.inj hr
  | receives phase last =>
    rw [phase] at hstate
    exact ⟨Or.inl hstate, fun reply hr => hanswered reply (by rw [Worker.reply?, phase]; exact hr),
      by simp [Worker.response?]⟩
  | backsOff phase last uncut =>
    have hlast := isLast_eq_false last
    exact ⟨⟨rfl, hlast.1, hlast.2.1⟩,
      fun reply hr => hanswered reply (by rw [Worker.reply?, phase]; exact hr),
      by simp [Worker.response?]⟩
  | quits phase last cut =>
    have hlast := isLast_eq_false last
    exact ⟨Or.inr ⟨rfl, hlast.1, hlast.2.1⟩,
      fun reply hr => hanswered reply (by rw [Worker.reply?, phase]; exact hr),
      by simp [Worker.response?]⟩
  | wakes phase cut =>
    rw [phase] at hstate
    exact ⟨Or.inr hstate, fun reply hr => hanswered reply (by rw [Worker.reply?, phase]; exact hr),
      by simp [Worker.response?]⟩
  | retries phase uncut => exact ⟨rfl, by simp [Worker.reply?], by simp [Worker.response?]⟩
  | settles phase judged => exact ⟨trivial, by simp [Worker.reply?], by simp [Worker.response?]⟩

/-- Every move of a worker from one state to another is legal. -/
theorem Worker.Deed.legal (hw : w.Fits around) (h : w.Deed plan around heed s s' (.ok w')) :
    w'.state = w.state ∨ w.state.canBecome w'.state = true := by
  have hstate := hw.state
  cases h with
  | starts phase =>
    rw [phase] at hstate
    rw [hstate]
    exact Or.inr rfl
  | requests phase => exact Or.inl rfl
  | receives phase last => exact Or.inl rfl
  | backsOff phase last uncut =>
    rw [phase] at hstate
    rw [hstate]
    exact Or.inr rfl
  | quits phase last cut =>
    rw [phase] at hstate
    rw [hstate]
    exact Or.inr rfl
  | wakes phase cut => exact Or.inl rfl
  | retries phase uncut =>
    rw [phase] at hstate
    rw [hstate.1]
    exact Or.inr rfl
  | settles phase judged =>
    rw [phase] at hstate
    exact Or.inr (canBecome_outcome hstate judged)

/-- The deeds of a worker as the others see them: it goes on without touching files or store, it
judges its last answer, it appends its record, or it is lost. -/
inductive Worker.Turn (plan : Plan) (around : Surroundings) (w : Worker) (s : Shared) :
    Shared → Except WorkerEnd Worker → Prop where
  | goes {s' : Shared} {w' : Worker} (url : w'.url = w.url) (ticket : w'.ticket = w.ticket)
      (ahead : w.isAhead = true ∧ w'.isAhead = true) (store : s'.store = s.store)
      (files : s'.files = s.files) (heeds : s.cancelled = true → s'.cancelled = true) :
      Turn plan around w s s' (.ok w')
  | settles {reply : Reply} {verdict : Verdict} {files : Files} {w' : Worker}
      (phase : w.phase = .settling reply)
      (judged : judge plan (around.start.afterMillis s.now) w.url reply s.files = (verdict, files))
      (url : w'.url = w.url) (ticket : w'.ticket = w.ticket)
      (recording : w'.phase = .recording ⟨w.url, verdict.outcome, around.start.afterMillis s.now,
        UInt32.ofNat w.retries, verdict.error⟩ verdict.method) :
      Turn plan around w s { s with files := files } (.ok w')
  | appends {record : ProgressRecord} {method : Option String}
      (phase : w.phase = .recording record method) :
      Turn plan around w s (s.append plan around.logFault record method).1
        (s.append plan around.logFault record method).2
  | breaks (ahead : w.isAhead = true) : Turn plan around w s s (.error .lost)

theorem isAhead_of {phase : WorkerPhase} (hp : w.phase = phase)
    (h : ∀ record method, phase ≠ .recording record method) : w.isAhead = true := by
  unfold Worker.isAhead
  rw [hp]
  split
  · exact absurd rfl (h _ _)
  · rfl

theorem Worker.Deed.turn (h : w.Deed plan around heed s s' result) :
    w.Turn plan around s s' result := by
  cases h with
  | starts phase => exact .goes rfl rfl ⟨isAhead_of phase (by simp), rfl⟩ rfl rfl id
  | requests phase =>
    refine .goes rfl rfl ⟨isAhead_of phase (by simp), rfl⟩ rfl rfl ?_
    intro hc
    simp [Worker.request, hc]
  | receives phase last => exact .goes rfl rfl ⟨isAhead_of phase (by simp), rfl⟩ rfl rfl id
  | backsOff phase last uncut => exact .goes rfl rfl ⟨isAhead_of phase (by simp), rfl⟩ rfl rfl id
  | quits phase last cut => exact .goes rfl rfl ⟨isAhead_of phase (by simp), rfl⟩ rfl rfl id
  | wakes phase cut => exact .goes rfl rfl ⟨isAhead_of phase (by simp), rfl⟩ rfl rfl id
  | retries phase uncut => exact .goes rfl rfl ⟨isAhead_of phase (by simp), rfl⟩ rfl rfl id
  | settles phase judged => exact .settles phase judged rfl rfl rfl
  | appends phase => exact .appends phase
  | breaks phase cause => exact .breaks (isAhead_of phase (by simp))

/-- A worker that goes on keeps its URL and its ticket, and leaves the store as it is. -/
theorem deed_store (hd : w.Deed plan around heed s s' (.ok w')) :
    w'.url = w.url ∧ w'.ticket = w.ticket ∧ s'.store = s.store := by
  cases hd.turn with
  | goes url ticket ahead store files heeds => exact ⟨url, ticket, store⟩
  | settles phase judged url ticket recording => exact ⟨url, ticket, rfl⟩

/-- Appending a record adds its line to the log, unless the log loses it; the worker ends with the
outcome, unless the log fails. -/
theorem shared_append_cases (s : Shared) (plan : Plan) (logFault : LogUse → Option LogFault)
    (record : ProgressRecord) (method : Option String) :
    ((s.append plan logFault record method).2 = .error (.recorded record.outcome) ∧
      (s.append plan logFault record method).1.store.log.written =
        s.store.log.written ++ record.lineBytes ∧
      (s.append plan logFault record method).1.store.snapshot = s.store.snapshot.remember record) ∨
    ((s.append plan logFault record method).2 = .error .logFailed ∧
      ((s.append plan logFault record method).1.store.log.written =
          s.store.log.written ++ record.lineBytes ∨
        (s.append plan logFault record method).1.store.log.written = s.store.log.written)) := by
  unfold Shared.append
  rcases append_cases s.store (logFault (.append s.appends)) plan.saveInterval record method with
    ⟨hheld, hstore⟩ | ⟨hheld, hstore⟩
  · simp only [hheld]
    exact Or.inl ⟨rfl, hstore⟩
  · simp only [hheld]
    exact Or.inr ⟨rfl, hstore⟩

end Archiver
