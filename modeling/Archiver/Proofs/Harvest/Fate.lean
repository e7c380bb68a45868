import Archiver.Proofs.Fetch.Waits
import Archiver.Proofs.Harvest.WorkerLife

namespace Archiver

/-- The outcome and the error that a last answer comes to, if the archive takes in every article. -/
def outcomeOf (plan : Plan) (url : CanonicalUrl) : Reply → Outcome × Option String
  | .page _ body =>
    if (extractPage plan.leastContent url body.toList).success then (.success, none)
    else (.failure, some "extraction exhausted")
  | reply => (if reply.isGone then .skipped else .failure, some reply.describe)

/-- What a record says but for its time. -/
def ProgressRecord.result (r : ProgressRecord) : CanonicalUrl × Outcome × UInt32 × Option String :=
  (r.url, r.outcome, r.retries, r.error)

/-- True of so many tries whose answers all let another one follow. -/
def Tries (policy : RetryPolicy) (replies : Nat → Reply) (n : Nat) : Prop :=
  n ≤ policy.maxRetries.toNat ∧ ∀ i < n, ¬ policy.Ends i (replies i)

/-- A record follows from the answers to the tries for its URL: it is what the first answer comes to
that lets no other try follow. -/
def ProgressRecord.Follows (plan : Plan) (replies : Nat → Reply) (r : ProgressRecord) : Prop :=
  ∃ k, Tries plan.policy replies k ∧ plan.policy.Ends k (replies k) ∧
    r.retries = UInt32.ofNat k ∧ (r.outcome, r.error) = outcomeOf plan r.url (replies k)

variable {plan : Plan} {around : Surroundings} {policy : RetryPolicy} {replies : Nat → Reply}
  {w w' : Worker} {heed : Bool} {s s' : Shared} {r r' : ProgressRecord}

theorem last_unique {k l : Nat} (hk : Tries policy replies k) (hke : policy.Ends k (replies k))
    (hl : Tries policy replies l) (hle : policy.Ends l (replies l)) : k = l := by
  rcases Nat.lt_trichotomy k l with hlt | rfl | hlt
  · exact absurd hke (hl.2 k hlt)
  · rfl
  · exact absurd hle (hk.2 l hlt)

theorem follows_unique (h : r.Follows plan replies) (h' : r'.Follows plan replies)
    (hurl : r.url = r'.url) : r.result = r'.result := by
  obtain ⟨k, htries, hends, hretries, hout⟩ := h
  obtain ⟨l, htries', hends', hretries', hout'⟩ := h'
  obtain rfl := last_unique htries hends htries' hends'
  have hsame : (r.outcome, r.error) = (r'.outcome, r'.error) := by rw [hout, hout', hurl]
  obtain ⟨houtcome, herror⟩ := Prod.mk.inj hsame
  rw [ProgressRecord.result, ProgressRecord.result, hurl, houtcome, herror, hretries, hretries']

/-- True of a worker with an article that was accepted and that the archive does not take in. -/
def Worker.losesArticle (plan : Plan) (start : Timestamp) (w : Worker) (s : Shared) : Bool :=
  match w.phase with
  | .settling (.page _ body) =>
    let e := extractPage plan.leastContent w.url body.toList
    e.success && !(s.files.archive plan.archiveRoot e (start.afterMillis s.now)).isOk
  | _ => false

theorem judge_outcome {captured : Timestamp} {url : CanonicalUrl} {reply : Reply}
    {files files' : Files} {verdict : Verdict}
    (hkept : ∀ status body, reply = .page status body →
      (extractPage plan.leastContent url body.toList).success = true →
      (files.archive plan.archiveRoot (extractPage plan.leastContent url body.toList)
        captured).isOk = true)
    (h : judge plan captured url reply files = (verdict, files')) :
    (verdict.outcome, verdict.error) = outcomeOf plan url reply := by
  cases reply with
  | refused status =>
    rw [judge_other rfl] at h
    cases h
    rfl
  | unreachable detail =>
    rw [judge_other rfl] at h
    cases h
    rfl
  | page status body =>
    unfold judge at h
    simp only at h
    split at h
    · next hstage =>
      have hsuccess : (extractPage plan.leastContent url body.toList).success = false := by
        rw [Extraction.success, hstage]
        rfl
      cases h
      rw [outcomeOf, hsuccess]
      rfl
    · next stage hstage =>
      have hsuccess : (extractPage plan.leastContent url body.toList).success = true := by
        rw [Extraction.success, hstage]
        rfl
      have hok := hkept status body rfl hsuccess
      split at h
      · next harchive =>
        rw [harchive] at hok
        cases hok
      · cases h
        rw [outcomeOf, hsuccess]
        rfl

/-- How far a worker is with the tries for its URL, phase by phase. -/
def Worker.OnCourse (plan : Plan) (replies : Nat → Reply) (w : Worker) : Prop :=
  match w.phase with
  | .ready | .pacing _ => Tries plan.policy replies w.retries
  | .fetching _ response =>
    Tries plan.policy replies w.retries ∧ response.reply = replies w.retries
  | .backingOff _ _ => Tries plan.policy replies (w.retries + 1)
  | .settling reply => Tries plan.policy replies w.retries ∧ reply = replies w.retries ∧
      plan.policy.Ends w.retries reply
  | .recording record _ => record.Follows plan replies

/-- The requests that a worker has made. -/
def Worker.made (w : Worker) : Nat :=
  match w.phase with
  | .ready | .pacing _ => w.retries
  | _ => w.retries + 1

theorem not_cut (hc : s.cancelled = false) : w.isCutShort plan heed s = false := by
  unfold Worker.isCutShort
  rw [hc]
  split <;> simp

/-- A worker that no stop disturbs stays on course, if its request gets the answer of its try and the
archive takes in its article. -/
theorem Worker.Deed.onCourse (h : w.OnCourse plan replies)
    (hd : w.Deed plan around heed s s' (.ok w')) (hc : s.cancelled = false)
    (hreply : ∀ due, w.phase = .pacing due →
      (around.site s.requests w.url.text).reply = replies w.retries)
    (hkept : w.losesArticle plan around.start s = false) : w'.OnCourse plan replies := by
  unfold Worker.OnCourse at h
  cases hd with
  | starts phase =>
    rw [phase] at h
    exact h
  | requests phase =>
    have hanswer := hreply _ phase
    rw [phase] at h
    exact ⟨h, hanswer⟩
  | receives phase last =>
    rw [phase] at h
    obtain ⟨htries, hanswer⟩ := h
    exact ⟨htries, hanswer, (isLast_iff htries.1).mp last⟩
  | backsOff phase last uncut =>
    rw [phase] at h
    obtain ⟨htries, hanswer⟩ := h
    have hmore : w.retries < plan.policy.maxRetries.toNat := by
      simpa [RetryPolicy.allows] using (isLast_eq_false last).2.2
    have hgoes : ¬ plan.policy.Ends w.retries (replies w.retries) := by
      rw [← hanswer, ← isLast_iff htries.1, last]
      exact Bool.false_ne_true
    refine ⟨hmore, fun i hi => ?_⟩
    rcases Nat.lt_succ_iff_lt_or_eq.mp hi with hlt | rfl
    · exact htries.2 i hlt
    · exact hgoes
  | quits phase last cut =>
    rw [not_cut hc] at cut
    cases cut
  | wakes phase cut =>
    rw [not_cut hc] at cut
    cases cut
  | retries phase uncut =>
    rw [phase] at h
    exact h
  | @settles reply verdict files phase judged =>
    rw [phase] at h
    obtain ⟨htries, hanswer, hends⟩ := h
    refine ⟨w.retries, htries, hanswer ▸ hends, rfl, ?_⟩
    rw [← hanswer]
    refine judge_outcome ?_ judged
    rintro status body rfl hsuccess
    simpa [Worker.losesArticle, phase, hsuccess] using hkept

theorem Worker.Deed.made (hd : w.Deed plan around heed s s' (.ok w')) :
    (s'.requests = s.requests ∧ w'.made = w.made) ∨
      (s'.requests = ⟨w.url.text, s.now⟩ :: s.requests ∧ w'.made = w.made + 1) := by
  have hmade : w.made = match w.phase with
      | .ready | .pacing _ => w.retries
      | _ => w.retries + 1 := rfl
  cases hd with
  | requests phase =>
    rw [phase] at hmade
    exact Or.inr ⟨rfl, congrArg (· + 1) hmade.symm⟩
  | starts phase => rw [phase] at hmade; exact Or.inl ⟨rfl, hmade.symm⟩
  | receives phase last => rw [phase] at hmade; exact Or.inl ⟨rfl, hmade.symm⟩
  | backsOff phase last uncut => rw [phase] at hmade; exact Or.inl ⟨rfl, hmade.symm⟩
  | quits phase last cut => rw [phase] at hmade; exact Or.inl ⟨rfl, hmade.symm⟩
  | wakes phase cut => rw [phase] at hmade; exact Or.inl ⟨rfl, hmade.symm⟩
  | retries phase uncut => rw [phase] at hmade; exact Or.inl ⟨rfl, hmade.symm⟩
  | settles phase judged => rw [phase] at hmade; exact Or.inl ⟨rfl, hmade.symm⟩

/-- A worker that no stop disturbs, whose answers all come and whose waits are all there, ends by
appending its record. -/
theorem deed_recorded {e : WorkerEnd} (hw : w.Fits around)
    (hd : w.Deed plan around heed s s' (.error e))
    (hm : ¬ plan.policy.multiplier < 0.0)
    (hs : ∀ earlier text, (around.site earlier text).losesWorker = false) :
    ∃ record method, w.phase = .recording record method := by
  cases hd with
  | @appends record method phase => exact ⟨record, method, phase⟩
  | @breaks due response phase cause =>
    rcases cause with hlost | hwait
    · obtain ⟨earlier, hsite⟩ := hw.heard response (by rw [Worker.response?, phase])
      rw [← hsite, hs] at hlost
      cases hlost
    · have hsome := wait_isSome hm w.retries
      rw [hwait] at hsome
      cases hsome

end Archiver
