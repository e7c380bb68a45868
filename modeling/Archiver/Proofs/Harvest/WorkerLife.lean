import Archiver.Proofs.Harvest.WorkerTurn

namespace Archiver

/-- One step of a worker: how it stood, what it shared with the others before and after, and how it
went on. -/
structure Stride where
  worker : Worker
  heed : Bool
  before : Shared
  after : Shared
  result : Except WorkerEnd Worker

/-- The requests made in a step. -/
def Stride.requests (x : Stride) : List Request :=
  x.after.requests.take (x.after.requests.length - x.before.requests.length)

/-- The answers to the requests made in a step. -/
def Stride.replies (around : Surroundings) (x : Stride) : List Reply :=
  x.requests.map fun q => (around.site x.before.requests q.url).reply

/-- True if a stop cuts a wait short in a step. -/
def Stride.isCut (plan : Plan) (x : Stride) : Bool := x.worker.isCutShort plan x.heed x.before

/-- A step that leaves files and store as they are. -/
def Stride.IsClean (x : Stride) : Prop :=
  x.after.files = x.before.files ∧ x.after.store = x.before.store

/-- The steps of a worker from its start on. In between the others may do anything to what they
share. -/
inductive Worker.Life (plan : Plan) (around : Surroundings) (ticket : Nat) (url : CanonicalUrl) :
    List Stride → Except WorkerEnd Worker → Prop where
  | start : Life plan around ticket url [] (.ok (.start ticket url))
  | step {strides : List Stride} {w : Worker} {heed : Bool} {s s' : Shared}
      {result : Except WorkerEnd Worker} (life : Life plan around ticket url strides (.ok w))
      (made : w.step plan around heed s = some (s', result)) :
      Life plan around ticket url (strides ++ [⟨w, heed, s, s', result⟩]) result

/-- True of an answer to the request after `retries` others that is the last one there will be: a
page, a page that is gone, or no try is left. -/
def RetryPolicy.Ends (p : RetryPolicy) (retries : Nat) (reply : Reply) : Prop :=
  reply.isPage = true ∨ reply.isGone = true ∨ retries = p.maxRetries.toNat

/-- Steps that made requests for one URL, got these answers, and left files and store as they were. -/
structure Asked (around : Surroundings) (url : CanonicalUrl) (strides : List Stride)
    (replies : List Reply) : Prop where
  requests : ∀ q ∈ strides.flatMap Stride.requests, q.url = url.text
  replies : strides.flatMap (Stride.replies around) = replies
  clean : ∀ x ∈ strides, x.IsClean

/-- Answers after each of which there was another try. -/
structure Tried (policy : RetryPolicy) (retries : Nat) (replies : List Reply) : Prop where
  length : replies.length = retries
  most : retries ≤ policy.maxRetries.toNat
  goOn : ∀ i reply, replies[i]? = some reply → ¬ policy.Ends i reply

def Uncut (plan : Plan) (strides : List Stride) : Prop := ∀ x ∈ strides, x.isCut plan = false

variable {plan : Plan} {around : Surroundings} {url : CanonicalUrl} {policy : RetryPolicy}
  {strides : List Stride} {w : Worker} {s : Shared} {replies : List Reply} {reply : Reply}

theorem isLast_iff (h : w.retries ≤ policy.maxRetries.toNat) :
    w.isLast policy reply = true ↔ policy.Ends w.retries reply := by
  have hleft : policy.allows w.retries = false ↔ w.retries = policy.maxRetries.toNat := by
    simp only [RetryPolicy.allows, decide_eq_false_iff_not]
    omega
  simp only [Worker.isLast, RetryPolicy.Ends, Bool.or_eq_true, Bool.not_eq_true', hleft, or_assoc]

theorem tried_nil (policy : RetryPolicy) : Tried policy 0 [] :=
  ⟨rfl, Nat.zero_le _, fun _ _ h => nomatch h⟩

/-- An answer that is not the last one leads to another try. -/
theorem Tried.concat (h : Tried policy w.retries replies) (hlast : w.isLast policy reply = false) :
    Tried policy (w.retries + 1) (replies ++ [reply]) := by
  have hmore : w.retries < policy.maxRetries.toNat := by
    simpa [RetryPolicy.allows] using (isLast_eq_false hlast).2.2
  refine ⟨by simp [h.length], hmore, ?_⟩
  intro i other hi
  rcases Nat.lt_trichotomy i replies.length with hlt | rfl | hgt
  · rw [List.getElem?_append_left hlt] at hi
    exact h.goOn i other hi
  · rw [List.getElem?_concat_length] at hi
    cases hi
    rw [h.length, ← isLast_iff h.most, hlast]
    simp
  · rw [List.getElem?_eq_none (by simp; omega)] at hi
    cases hi

variable {x : Stride} {ticket : Nat} {result : Except WorkerEnd Worker}

theorem requests_nil (h : x.after.requests = x.before.requests) : x.requests = [] := by
  rw [Stride.requests, h, Nat.sub_self, List.take_zero]

theorem asked_nil (around : Surroundings) (url : CanonicalUrl) : Asked around url [] [] :=
  ⟨fun _ hq => absurd hq List.not_mem_nil, rfl, fun _ hx => absurd hx List.not_mem_nil⟩

/-- A step without a request leaves the answers as they are. -/
theorem Asked.quiet (h : Asked around url strides replies)
    (hr : x.after.requests = x.before.requests) (hc : x.IsClean) :
    Asked around url (strides ++ [x]) replies := by
  refine ⟨?_, ?_, ?_⟩
  · rw [List.flatMap_append, List.flatMap_singleton, requests_nil hr, List.append_nil]
    exact h.requests
  · rw [List.flatMap_append, List.flatMap_singleton, Stride.replies, requests_nil hr, List.map_nil,
      List.append_nil]
    exact h.replies
  · intro y hy
    rcases List.mem_append.mp hy with hy | hy
    · exact h.clean y hy
    · rw [List.mem_singleton.mp hy]
      exact hc

/-- A step with a request adds its answer. -/
theorem Asked.request (h : Asked around url strides replies) {q : Request}
    (hr : x.after.requests = q :: x.before.requests) (hq : q.url = url.text) (hc : x.IsClean) :
    Asked around url (strides ++ [x])
      (replies ++ [(around.site x.before.requests url.text).reply]) := by
  have hone : x.requests = [q] := by
    have hcount : (q :: x.before.requests).length - x.before.requests.length = 1 := by simp
    rw [Stride.requests, hr, hcount]
    rfl
  refine ⟨?_, ?_, ?_⟩
  · intro p hp
    rw [List.flatMap_append, List.flatMap_singleton, hone] at hp
    rcases List.mem_append.mp hp with hp | hp
    · exact h.requests p hp
    · rw [List.mem_singleton.mp hp, hq]
  · rw [List.flatMap_append, List.flatMap_singleton, h.replies, Stride.replies, hone, List.map_singleton,
      hq]
  · intro y hy
    rcases List.mem_append.mp hy with hy | hy
    · exact h.clean y hy
    · rw [List.mem_singleton.mp hy]
      exact hc

theorem Uncut.concat (h : Uncut plan strides) (hx : x.isCut plan = false) :
    Uncut plan (strides ++ [x]) := by
  intro y hy
  rcases List.mem_append.mp hy with hy | hy
  · exact h y hy
  · rw [List.mem_singleton.mp hy]
    exact hx

theorem not_uncut_concat (hx : x.isCut plan = true) : ¬ Uncut plan (strides ++ [x]) := by
  intro h
  have hfalse := h x (List.mem_append_right _ (List.mem_singleton_self x))
  rw [hx] at hfalse
  cases hfalse

/-- Every step of a worker's life is a deed of a worker whose state fits. -/
theorem life_deeds (h : Worker.Life plan around ticket url strides result) :
    (∀ x ∈ strides, x.worker.Fits around ∧
      x.worker.Deed plan around x.heed x.before x.after x.result) ∧
    ∀ w, result = .ok w → w.Fits around ∧ w.url = url := by
  induction h with
  | start =>
    refine ⟨fun _ hx => absurd hx List.not_mem_nil, ?_⟩
    intro w hw
    cases hw
    exact ⟨fits_start around ticket url, rfl⟩
  | @step strides w heed s s' result life made ih =>
    obtain ⟨hdeeds, hfits⟩ := ih
    obtain ⟨hw, hurl⟩ := hfits w rfl
    have hdeed := step_deed hw made
    refine ⟨?_, ?_⟩
    · intro x hx
      rcases List.mem_append.mp hx with hx | hx
      · exact hdeeds x hx
      · rw [List.mem_singleton.mp hx]
        exact ⟨hw, hdeed⟩
    · rintro w' rfl
      refine ⟨hdeed.fits hw, ?_⟩
      cases hdeed <;> exact hurl

/-- How a worker came to have its record: after its last answer it judged it, and did nothing else. -/
structure Judged (plan : Plan) (around : Surroundings) (url : CanonicalUrl) (earlier : List Reply)
    (last : Reply) (front : List Stride) (judging : Stride) (record : ProgressRecord) : Prop where
  asked : Asked around url front (earlier ++ [last])
  tried : Tried plan.policy earlier.length earlier
  ends : Uncut plan front ↔ plan.policy.Ends earlier.length last
  still : judging.after.requests = judging.before.requests
  uncut : judging.isCut plan = false
  store : judging.after.store = judging.before.store
  verdict : ∃ verdict, judge plan (around.start.afterMillis judging.before.now) url last
      judging.before.files = (verdict, judging.after.files) ∧
    record = ⟨url, verdict.outcome, around.start.afterMillis judging.before.now,
      UInt32.ofNat earlier.length, verdict.error⟩

/-- What a worker has behind it, phase by phase. -/
def Worker.Past (plan : Plan) (around : Surroundings) (url : CanonicalUrl) (strides : List Stride)
    (w : Worker) : Prop :=
  match w.phase with
  | .ready | .pacing _ => ∃ earlier, Asked around url strides earlier ∧
      Tried plan.policy w.retries earlier ∧ Uncut plan strides
  | .fetching _ response => ∃ earlier, Asked around url strides (earlier ++ [response.reply]) ∧
      Tried plan.policy w.retries earlier ∧ Uncut plan strides
  | .backingOff _ reply => ∃ earlier, Asked around url strides (earlier ++ [reply]) ∧
      Tried plan.policy w.retries earlier ∧ w.isLast plan.policy reply = false ∧ Uncut plan strides
  | .settling reply => ∃ earlier, Asked around url strides (earlier ++ [reply]) ∧
      Tried plan.policy w.retries earlier ∧
      (Uncut plan strides ↔ plan.policy.Ends w.retries reply)
  | .recording record _ => ∃ front judging earlier last, strides = front ++ [judging] ∧
      Judged plan around url earlier last front judging record

/-- The longest that a worker can have been at work in a phase, in steps. -/
def Worker.span (policy : RetryPolicy) (w : Worker) : Nat :=
  match w.phase with
  | .ready => 0
  | .pacing _ => 3 * w.retries + 1
  | .fetching _ _ => 3 * w.retries + 2
  | .backingOff _ _ => 3 * w.retries + 3
  | .settling _ => 3 * policy.maxRetries.toNat + 3
  | .recording _ _ => 3 * policy.maxRetries.toNat + 4

variable {w' : Worker}

/-- A deed that a worker goes on from leads from one past to the next. -/
theorem Worker.Past.deed (h : w.Past plan around url strides) (hurl : w.url = url)
    (hx : x.worker = w) (hresult : x.result = .ok w')
    (hd : w.Deed plan around x.heed x.before x.after x.result) :
    w'.Past plan around url (strides ++ [x]) := by
  rw [hresult] at hd
  unfold Worker.Past at h
  have hcut : x.isCut plan = w.isCutShort plan x.heed x.before := by rw [Stride.isCut, hx]
  generalize hafter : x.after = after at hd
  cases hd with
  | starts phase =>
    rw [phase] at h
    obtain ⟨earlier, hasked, htried, huncut⟩ := h
    refine ⟨earlier, hasked.quiet (by rw [hafter]) ⟨by rw [hafter], by rw [hafter]⟩, htried,
      huncut.concat ?_⟩
    rw [hcut, Worker.isCutShort, phase]
  | requests phase =>
    rw [phase] at h
    obtain ⟨earlier, hasked, htried, huncut⟩ := h
    refine ⟨earlier, ?_, htried, huncut.concat ?_⟩
    · have hrequest := hasked.request (x := x) (q := ⟨w.url.text, x.before.now⟩)
        (by rw [hafter]; rfl) (by rw [hurl]) ⟨by rw [hafter]; rfl, by rw [hafter]; rfl⟩
      rw [hurl]
      exact hrequest
    · rw [hcut, Worker.isCutShort, phase]
  | receives phase last =>
    rw [phase] at h
    obtain ⟨earlier, hasked, htried, huncut⟩ := h
    refine ⟨earlier, hasked.quiet (by rw [hafter]) ⟨by rw [hafter], by rw [hafter]⟩, htried, ?_⟩
    refine iff_of_true (huncut.concat ?_) ((isLast_iff htried.most).mp last)
    rw [hcut, Worker.isCutShort, phase]
    simp [last]
  | backsOff phase last uncut =>
    rw [phase] at h
    obtain ⟨earlier, hasked, htried, huncut⟩ := h
    exact ⟨earlier, hasked.quiet (by rw [hafter]) ⟨by rw [hafter], by rw [hafter]⟩, htried, last,
      huncut.concat (hcut.trans uncut)⟩
  | quits phase last cut =>
    rw [phase] at h
    obtain ⟨earlier, hasked, htried, -⟩ := h
    refine ⟨earlier, hasked.quiet (by rw [hafter]) ⟨by rw [hafter], by rw [hafter]⟩, htried, ?_⟩
    refine iff_of_false (not_uncut_concat (hcut.trans cut)) ?_
    rw [← isLast_iff htried.most, last]
    exact Bool.false_ne_true
  | wakes phase cut =>
    rw [phase] at h
    obtain ⟨earlier, hasked, htried, last, -⟩ := h
    refine ⟨earlier, hasked.quiet (by rw [hafter]) ⟨by rw [hafter], by rw [hafter]⟩, htried, ?_⟩
    refine iff_of_false (not_uncut_concat (hcut.trans cut)) ?_
    rw [← isLast_iff htried.most, last]
    exact Bool.false_ne_true
  | retries phase uncut =>
    rw [phase] at h
    obtain ⟨earlier, hasked, htried, last, huncut⟩ := h
    exact ⟨_, hasked.quiet (by rw [hafter]) ⟨by rw [hafter], by rw [hafter]⟩, htried.concat last,
      huncut.concat (hcut.trans uncut)⟩
  | @settles reply verdict files phase judged =>
    rw [phase] at h
    obtain ⟨earlier, hasked, htried, hends⟩ := h
    have hlength := htried.length
    refine ⟨strides, x, earlier, reply, rfl, hasked, hlength ▸ htried, hlength ▸ hends, ?_, ?_, ?_,
      verdict, ?_, ?_⟩
    · rw [hafter]
    · rw [hcut, Worker.isCutShort, phase]
    · rw [hafter]
    · rw [hafter, ← hurl]
      exact judged
    · rw [hurl, hlength]

theorem Worker.Past.most (h : w.Past plan around url strides) :
    (∃ record method, w.phase = .recording record method) ∨
      w.retries ≤ plan.policy.maxRetries.toNat := by
  unfold Worker.Past at h
  split at h
  · obtain ⟨earlier, -, htried, -⟩ := h
    exact Or.inr htried.most
  · obtain ⟨earlier, -, htried, -⟩ := h
    exact Or.inr htried.most
  · obtain ⟨earlier, -, htried, -⟩ := h
    exact Or.inr htried.most
  · obtain ⟨earlier, -, htried, -⟩ := h
    exact Or.inr htried.most
  · obtain ⟨earlier, -, htried, -⟩ := h
    exact Or.inr htried.most
  · next record method phase => exact Or.inl ⟨record, method, phase⟩

/-- A deed that a worker goes on from takes no more steps than its next phase can have. -/
theorem span_deed (h : w.Past plan around url strides) (hl : strides.length ≤ w.span plan.policy)
    {heed : Bool} {s s' : Shared} (hd : w.Deed plan around heed s s' (.ok w')) :
    strides.length + 1 ≤ w'.span plan.policy := by
  unfold Worker.Past at h
  unfold Worker.span at hl ⊢
  cases hd with
  | starts phase =>
    rw [phase] at hl
    simp only at hl ⊢
    omega
  | requests phase =>
    rw [phase] at hl
    simp only at hl ⊢
    omega
  | receives phase last =>
    rw [phase] at h hl
    obtain ⟨earlier, -, htried, -⟩ := h
    have hmost := htried.most
    simp only at hl ⊢
    omega
  | backsOff phase last uncut =>
    rw [phase] at hl
    simp only at hl ⊢
    omega
  | quits phase last cut =>
    rw [phase] at h hl
    obtain ⟨earlier, -, htried, -⟩ := h
    have hmost := htried.most
    simp only at hl ⊢
    omega
  | wakes phase cut =>
    rw [phase] at h hl
    obtain ⟨earlier, -, htried, hlast, -⟩ := h
    -- the retry that the worker gives up was still its own: it counts for the step to settle
    have hmost := (htried.concat hlast).most
    simp only at hl ⊢
    omega
  | retries phase uncut =>
    rw [phase] at hl
    simp only at hl ⊢
    omega
  | settles phase judged =>
    rw [phase] at hl
    simp only at hl ⊢
    omega

/-- Every worker has its past behind it. -/
theorem past_of_life (h : Worker.Life plan around ticket url strides result) :
    ∀ w, result = .ok w → w.Past plan around url strides ∧ strides.length ≤ w.span plan.policy := by
  induction h with
  | start =>
    intro w hw
    cases hw
    exact ⟨⟨[], asked_nil around url, tried_nil plan.policy, fun _ hx => absurd hx List.not_mem_nil⟩,
      Nat.le_refl _⟩
  | @step strides w heed s s' result life made ih =>
    obtain ⟨hpast, hlength⟩ := ih w rfl
    obtain ⟨hfits, hurl⟩ := (life_deeds life).2 w rfl
    have hdeed := step_deed hfits made
    rintro w' rfl
    refine ⟨hpast.deed hurl rfl rfl hdeed, ?_⟩
    rw [List.length_append, List.length_singleton]
    exact span_deed hpast hlength hdeed

end Archiver
