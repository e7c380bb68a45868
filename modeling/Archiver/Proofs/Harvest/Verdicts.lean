import Archiver.Harvest.Worker

namespace Archiver

/-- True if an answer is a page whose article some stage accepts and the archive takes in. -/
def Archives (plan : Plan) (captured : Timestamp) (url : CanonicalUrl) (reply : Reply)
    (files files' : Files) : Prop :=
  ∃ status body, reply = .page status body ∧
    (extractPage plan.leastContent url body.toList).success = true ∧
    files.archive plan.archiveRoot (extractPage plan.leastContent url body.toList) captured = .ok files'

/-- True if an answer is a page whose article some stage accepts and the archive does not take in; what
was made for it on the way is left. -/
def FindsNoPlace (plan : Plan) (captured : Timestamp) (url : CanonicalUrl) (reply : Reply)
    (files files' : Files) : Prop :=
  ∃ status body cause, reply = .page status body ∧
    (extractPage plan.leastContent url body.toList).success = true ∧
    files.archive plan.archiveRoot (extractPage plan.leastContent url body.toList) captured =
      .error cause ∧ files' = cause.left

variable {plan : Plan} {captured : Timestamp} {url : CanonicalUrl} {reply : Reply}
  {files files' : Files} {verdict : Verdict}

/-- An answer that is no page leaves the files as they are; it is skipped if the page is gone. -/
theorem judge_other (hpage : reply.isPage = false) : judge plan captured url reply files =
    (⟨if reply.isGone then .skipped else .failure, some reply.describe, none⟩, files) := by
  cases reply with
  | page status body => cases hpage
  | refused status => rfl
  | unreachable detail => rfl

/-- A page is a success if its article is archived, and else a failure with an error. -/
theorem judge_page {status : Nat} {body : String}
    (h : judge plan captured url (.page status body) files = (verdict, files')) :
    (verdict.outcome = .success ∧ verdict.error = none ∧
      Archives plan captured url (.page status body) files files') ∨
    (verdict.outcome = .failure ∧ verdict.error ≠ none ∧
      (files' = files ∨ FindsNoPlace plan captured url (.page status body) files files') ∧
      ∀ after, ¬ Archives plan captured url (.page status body) files after) := by
  unfold judge at h
  simp only at h
  split at h
  · next hstage =>
    cases h
    refine Or.inr ⟨rfl, Option.some_ne_none _, Or.inl rfl, ?_⟩
    rintro after ⟨_, _, hsame, hstages, -⟩
    cases hsame
    rw [Extraction.success, hstage] at hstages
    cases hstages
  · next stage hstage =>
    have hsuccess : (extractPage plan.leastContent url body.toList).success = true := by
      rw [Extraction.success, hstage]
      rfl
    split at h
    · next cause harchive =>
      cases h
      refine Or.inr ⟨rfl, Option.some_ne_none _,
        Or.inr ⟨status, body, cause, rfl, hsuccess, harchive, rfl⟩, ?_⟩
      rintro after ⟨_, _, hsame, -, hafter⟩
      cases hsame
      rw [harchive] at hafter
      cases hafter
    · next harchive =>
      cases h
      exact Or.inl ⟨rfl, rfl, status, body, rfl, hsuccess, harchive⟩

theorem isPage_iff : reply.isPage = true ↔ ∃ status body, reply = .page status body := by
  cases reply <;> simp [Reply.isPage]

theorem not_archives (hpage : reply.isPage = false) (after : Files) :
    ¬ Archives plan captured url reply files after := by
  rintro ⟨status, body, rfl, -⟩
  cases hpage

/-- A success is an answer that is archived, and everything else leaves the files as they are, unless
an article finds no place. -/
theorem judge_success (h : judge plan captured url reply files = (verdict, files')) :
    (verdict.outcome = .success ↔ ∃ after, Archives plan captured url reply files after) ∧
    (verdict.outcome = .success → Archives plan captured url reply files files') ∧
    (verdict.outcome ≠ .success →
      files' = files ∨ FindsNoPlace plan captured url reply files files') ∧
    (verdict.error = none ↔ verdict.outcome = .success) := by
  cases hpage : reply.isPage with
  | true =>
    obtain ⟨status, body, rfl⟩ := isPage_iff.mp hpage
    rcases judge_page h with ⟨ho, he, harchives⟩ | ⟨ho, he, hfiles, hnot⟩
    · exact ⟨iff_of_true ho ⟨files', harchives⟩, fun _ => harchives, fun hne => absurd ho hne,
        iff_of_true he ho⟩
    · have hno : verdict.outcome ≠ .success := by
        rw [ho]
        decide
      exact ⟨iff_of_false hno (fun ⟨after, ha⟩ => hnot after ha), fun hs => absurd hs hno,
        fun _ => hfiles, iff_of_false he hno⟩
  | false =>
    rw [judge_other hpage] at h
    cases h
    have hno : (if reply.isGone then Outcome.skipped else Outcome.failure) ≠ .success := by
      split <;> decide
    exact ⟨iff_of_false hno (fun ⟨after, ha⟩ => not_archives hpage after ha),
      fun hs => absurd hs hno, fun _ => Or.inl rfl, iff_of_false (Option.some_ne_none _) hno⟩

/-- An answer is skipped just when it says that the page is gone. -/
theorem judge_skipped (h : judge plan captured url reply files = (verdict, files')) :
    verdict.outcome = .skipped ↔ reply.isGone = true := by
  cases hpage : reply.isPage with
  | true =>
    obtain ⟨status, body, rfl⟩ := isPage_iff.mp hpage
    have hgone : (Reply.page status body).isGone = false := rfl
    rcases judge_page h with ⟨ho, -⟩ | ⟨ho, -⟩
    · simp [ho, hgone]
    · simp [ho, hgone]
  | false =>
    rw [judge_other hpage] at h
    cases h
    cases hgone : reply.isGone <;> simp

/-- An answer that is neither a page nor says that it is gone is a failure with its description. -/
theorem judge_failure (hpage : reply.isPage = false) (hgone : reply.isGone = false)
    (h : judge plan captured url reply files = (verdict, files')) :
    verdict.outcome = .failure ∧ verdict.error = some reply.describe := by
  rw [judge_other hpage, hgone] at h
  cases h
  exact ⟨rfl, rfl⟩

end Archiver
