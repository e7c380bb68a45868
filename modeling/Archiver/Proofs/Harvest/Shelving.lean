import Archiver.Proofs.Archive.Shelf
import Archiver.Proofs.Harvest.BatchBooks

namespace Archiver

/-- The article of a record: it has the record's URL, and was captured at the time of the record. -/
def Article.IsOf (a : Article) (record : ProgressRecord) : Prop :=
  a.url = record.url ∧ a.captured = record.timestamp

/-- An article that was taken from a page with which the site answered for its URL. -/
def Article.IsFrom (a : Article) (plan : Plan) (around : Surroundings) : Prop :=
  ∃ earlier status body, (around.site earlier a.url.text).reply = .page status body ∧
    a.extraction = extractPage plan.leastContent a.url body.toList

/-- A record that the run has written, or that a worker has still to append. -/
def Run.Has (r : Run) (records : List ProgressRecord) (record : ProgressRecord) : Prop :=
  record ∈ records ∨ ∃ w ∈ r.workers, w.record? = some record

/-- The URLs whose workers have no record yet. -/
def aheadUrls (workers : List Worker) : List CanonicalUrl :=
  (workers.filter Worker.isAhead).map (·.url)

/-- The articles of a run stand in the archive in the order in which they were put there, but for
those that found no place, and each record of a success has its own. -/
structure Run.Shelves (plan : Plan) (around : Surroundings) (queue : List FrontierEntry)
    (files : Files) (before : ProgressStore) (r : Run) (records : List ProgressRecord)
    (articles lost : List Article) : Prop where
  written : r.shared.store.log.written =
    before.log.written ++ records.flatMap ProgressRecord.lineBytes
  takes : files.Takes plan.archiveRoot articles lost r.shared.files
  origins : ∀ a ∈ articles, a.IsFrom plan around
  entered : ∀ record, r.Has records record → record.outcome = .success →
    ∃ a ∈ articles, a.IsOf record
  known : ¬ r.Broken → ∀ a ∈ articles, ∃ record, r.Has records record ∧
    record.outcome = .success ∧ a.IsOf record
  distinct : ((articles ++ lost).map Article.url ++ aheadUrls r.workers).Nodup
  given : ∀ url ∈ (articles ++ lost).map Article.url ++ r.workers.map (·.url),
    url ∈ (queue.take r.handed).map (·.url)

variable {plan : Plan} {around : Surroundings} {r r' : Run}
  {frontier queue : List FrontierEntry} {files : Files} {before : ProgressStore}
  {records : List ProgressRecord} {articles lost : List Article}

theorem shelves_start (diff cancelled : Bool) (frontier : List FrontierEntry) (files : Files)
    (store : ProgressStore) :
    (Run.start plan diff cancelled frontier files store).Shelves plan around
      (queueOf diff store.snapshot frontier) files store [] [] [] where
  written := by simp [Run.start]
  takes := .nil
  origins := fun a ha => absurd ha List.not_mem_nil
  entered := by
    rintro record (h | ⟨w, hw, _⟩)
    · exact absurd h List.not_mem_nil
    · exact absurd hw List.not_mem_nil
  known := fun _ a ha => absurd ha List.not_mem_nil
  distinct := List.nodup_nil
  given := fun url hurl => absurd hurl List.not_mem_nil

/-- Where the same records are there and the files are left alone, the shelves are kept. -/
theorem Run.Shelves.frame (h : r.Shelves plan around queue files before records articles lost)
    {records' : List ProgressRecord}
    (hwritten : r'.shared.store.log.written =
      before.log.written ++ records'.flatMap ProgressRecord.lineBytes)
    (hfiles : r'.shared.files = r.shared.files)
    (hhas : ∀ record, r'.Has records' record ↔ r.Has records record)
    (hbroken : r.Broken → r'.Broken)
    (hdistinct : ((articles ++ lost).map Article.url ++ aheadUrls r'.workers).Nodup)
    (hgiven : ∀ url ∈ (articles ++ lost).map Article.url ++ r'.workers.map (·.url),
      url ∈ (queue.take r'.handed).map (·.url)) :
    r'.Shelves plan around queue files before records' articles lost where
  written := hwritten
  takes := hfiles ▸ h.takes
  origins := h.origins
  entered := fun record hr => h.entered record ((hhas record).mp hr)
  known := by
    intro hb a ha
    obtain ⟨record, hr, hrest⟩ := h.known (fun hbefore => hb (hbroken hbefore)) a ha
    exact ⟨record, (hhas record).mpr hr, hrest⟩
  distinct := hdistinct
  given := hgiven

theorem Run.Shelves.quiet (h : r.Shelves plan around queue files before records articles lost)
    (hq : r.Quiet r') : r'.Shelves plan around queue files before records articles lost := by
  refine h.frame (hq.written.trans h.written) hq.files ?_ hq.broken (hq.workers ▸ h.distinct) ?_
  · intro record
    rw [Run.Has, Run.Has, hq.workers]
  · rw [hq.workers, hq.handed]
    exact h.given

theorem aheadUrls_perm {ws vs : List Worker} (h : ws.Perm vs) : (aheadUrls ws).Perm (aheadUrls vs) :=
  (h.filter _).map _

theorem aheadUrls_append (ws vs : List Worker) :
    aheadUrls (ws ++ vs) = aheadUrls ws ++ aheadUrls vs := by
  rw [aheadUrls, List.filter_append, List.map_append]
  rfl

theorem aheadUrls_ahead {w : Worker} (h : w.isAhead = true) : aheadUrls [w] = [w.url] := by
  simp [aheadUrls, h]

theorem aheadUrls_recording {w : Worker} (h : w.isAhead = false) : aheadUrls [w] = [] := by
  simp [aheadUrls, h]

theorem aheadUrls_subset (ws : List Worker) : aheadUrls ws ⊆ ws.map (·.url) :=
  (List.filter_sublist.map _).subset

/-- The next URL of a batch is none of those handed out before. -/
theorem Run.Shelves.handOut (h : r.Shelves plan around queue files before records articles lost)
    (hsound : r.Sound around frontier queue before) (hn : (queue.map (·.url)).Nodup)
    {entry : FrontierEntry} {rest : List FrontierEntry} {later : List (List FrontierEntry)}
    (hphase : r.phase = .admitting (entry :: rest) later) :
    (r.handOut entry rest later).Shelves plan around queue files before records articles lost := by
  obtain ⟨hlt, htake, -⟩ := hsound.next hphase
  have hmap : (queue.take (r.handed + 1)).map (·.url) =
      (queue.take r.handed).map (·.url) ++ [entry.url] := by
    rw [htake, List.map_append, List.map_singleton]
  have hfresh : entry.url ∉ (queue.take r.handed).map (·.url) := by
    have hnodup : ((queue.take (r.handed + 1)).map (·.url)).Nodup :=
      hn.sublist ((List.take_sublist _ _).map _)
    rw [hmap, List.nodup_append] at hnodup
    intro hmem
    exact hnodup.2.2 _ hmem _ (List.mem_singleton_self _) rfl
  have hhas : ∀ record, (r.handOut entry rest later).Has records record ↔
      r.Has records record := by
    intro record
    simp [Run.Has, Run.handOut, List.mem_append, or_and_right, exists_or, Worker.record?, Worker.start]
  refine h.frame h.written rfl hhas id ?_ ?_
  · rw [Run.handOut, aheadUrls_append, ← List.append_assoc, List.nodup_append]
    refine ⟨h.distinct, List.nodup_singleton _, ?_⟩
    intro url hurl other hother hsame
    rw [List.mem_singleton.mp hother] at hsame
    apply hfresh
    rw [← show url = entry.url from hsame]
    refine h.given url ?_
    rcases List.mem_append.mp hurl with hurl | hurl
    · exact List.mem_append_left _ hurl
    · exact List.mem_append_right _ (aheadUrls_subset _ hurl)
  · intro url hurl
    rw [Run.handOut, hmap]
    have hcut : url ∈ ((articles ++ lost).map Article.url ++ r.workers.map (·.url)) ++ [entry.url] := by
      simpa only [Run.handOut, Worker.start, List.map_append, List.map_singleton, List.append_assoc]
        using hurl
    refine (List.mem_append.mp hcut).elim (fun hurl => ?_) (List.mem_append_right _)
    exact List.mem_append_left _ (h.given url hurl)

variable {w w' : Worker} {others : List Worker} {shared : Shared}

theorem has_perm (hp : r.workers.Perm (w :: others)) (record : ProgressRecord) :
    r.Has records record ↔
      record ∈ records ∨ w.record? = some record ∨ ∃ v ∈ others, v.record? = some record := by
  have hmem : (∃ v ∈ r.workers, v.record? = some record) ↔
      ∃ v ∈ w :: others, v.record? = some record := by
    constructor
    · rintro ⟨v, hv, hr⟩
      exact ⟨v, hp.mem_iff.mp hv, hr⟩
    · rintro ⟨v, hv, hr⟩
      exact ⟨v, hp.mem_iff.mpr hv, hr⟩
  rw [Run.Has, hmem]
  simp

theorem has_goOn (record : ProgressRecord) :
    (r.goOn shared others w').Has records record ↔
      record ∈ records ∨ w'.record? = some record ∨ ∃ v ∈ others, v.record? = some record := by
  simp only [Run.Has, Run.goOn, List.mem_append, List.mem_singleton, or_and_right, exists_or,
    exists_eq_left]
  rw [or_comm (a := ∃ v, v ∈ others ∧ v.record? = some record)]

/-- A worker without a record that goes on leaves all on the shelves as it is. -/
theorem Run.Shelves.goes (h : r.Shelves plan around queue files before records articles lost)
    (hp : r.workers.Perm (w :: others)) (hurl : w'.url = w.url)
    (hahead : w.isAhead = true ∧ w'.isAhead = true) (hstore : shared.store = r.shared.store)
    (hfiles : shared.files = r.shared.files) :
    (r.goOn shared others w').Shelves plan around queue files before records articles lost := by
  have hhas : ∀ record, (r.goOn shared others w').Has records record ↔ r.Has records record := by
    intro record
    rw [has_goOn, has_perm hp, record_ahead hahead.1, record_ahead hahead.2]
  refine h.frame ?_ hfiles hhas id ?_ ?_
  · rw [Run.goOn, hstore]
    exact h.written
  · have hurls : (aheadUrls (others ++ [w'])).Perm (aheadUrls r.workers) := by
      rw [aheadUrls_append, aheadUrls_ahead hahead.2, hurl, ← aheadUrls_ahead hahead.1,
        ← aheadUrls_append]
      exact aheadUrls_perm ((List.perm_append_singleton _ _).trans hp.symm)
    exact (hurls.append_left _).nodup_iff.mpr h.distinct
  · intro url hu
    exact h.given url (((urls_goOn hp hurl).append_left _).mem_iff.mp hu)

theorem extractPage_url (least : Nat) (url : CanonicalUrl) (markup : List Char) :
    (extractPage least url markup).url = url :=
  extract_url least Stage.chain url (parseDocument markup)

theorem aheadUrls_cons (hp : r.workers.Perm (w :: others)) (hahead : w.isAhead = true) :
    (aheadUrls r.workers).Perm (w.url :: aheadUrls others) := by
  rw [← List.singleton_append, ← aheadUrls_ahead hahead, ← aheadUrls_append]
  exact aheadUrls_perm hp

theorem aheadUrls_recorded {record : ProgressRecord} (hrecord : w'.record? = some record) :
    aheadUrls (others ++ [w']) = aheadUrls others := by
  have hnot : w'.isAhead = false := by
    cases ha : w'.isAhead with
    | false => rfl
    | true =>
      rw [record_ahead ha] at hrecord
      cases hrecord
  rw [aheadUrls_append, aheadUrls_recording hnot, List.append_nil]

theorem nodup_ended (h : r.Shelves plan around queue files before records articles lost)
    (hp : r.workers.Perm (w :: others)) (hahead : w.isAhead = true) :
    (((articles ++ lost).map Article.url ++ [w.url]) ++ aheadUrls others).Nodup := by
  rw [List.append_assoc, List.singleton_append]
  exact ((aheadUrls_cons hp hahead).append_left _).nodup_iff.mp h.distinct

theorem given_ended (h : r.Shelves plan around queue files before records articles lost)
    (hp : r.workers.Perm (w :: others)) (hurl : w'.url = w.url) {url : CanonicalUrl}
    (hu : url ∈ ((articles ++ lost).map Article.url ++ [w.url]) ++ (others ++ [w']).map (·.url)) :
    url ∈ (queue.take r.handed).map (·.url) := by
  refine h.given url ?_
  rw [List.append_assoc] at hu
  refine (List.mem_append.mp hu).elim (List.mem_append_left _) fun hu => List.mem_append_right _ ?_
  rcases List.mem_append.mp hu with hu | hu
  · rw [List.mem_singleton.mp hu]
    exact List.mem_map_of_mem (hp.mem_iff.mpr List.mem_cons_self)
  · exact (urls_goOn hp hurl).mem_iff.mp hu

/-- A worker that has its record from an article puts the article on the shelf. -/
theorem Run.Shelves.shelve (h : r.Shelves plan around queue files before records articles lost)
    (hp : r.workers.Perm (w :: others)) (hurl : w'.url = w.url) (hahead : w.isAhead = true)
    {record : ProgressRecord} (hrecord : w'.record? = some record)
    (hsuccess : record.outcome = .success) {a : Article} (hof : a.IsOf record)
    (haurl : a.url = w.url) (hfrom : a.IsFrom plan around)
    (harchive : r.shared.files.archive plan.archiveRoot a.extraction a.captured = .ok shared.files)
    (hstore : shared.store = r.shared.store) :
    (r.goOn shared others w').Shelves plan around queue files before records (articles ++ [a])
      lost := by
  have hmoved : (((articles ++ [a]) ++ lost).map Article.url).Perm
      ((articles ++ lost).map Article.url ++ [w.url]) := by
    rw [← haurl, ← List.map_singleton, ← List.map_append]
    refine List.Perm.map _ ?_
    rw [List.append_assoc, List.append_assoc]
    exact List.perm_append_comm.append_left _
  refine ⟨?_, .snoc h.takes harchive, ?_, ?_, ?_, ?_, ?_⟩
  · simpa only [Run.goOn, hstore] using h.written
  · intro b hb
    rcases List.mem_append.mp hb with hb | hb
    · exact h.origins b hb
    · rw [List.mem_singleton.mp hb]
      exact hfrom
  · intro other hr hs
    rcases (has_goOn other).mp hr with hr | hr | hr
    · obtain ⟨b, hb, hbof⟩ := h.entered other (Or.inl hr) hs
      exact ⟨b, List.mem_append_left _ hb, hbof⟩
    · rw [hrecord] at hr
      cases hr
      exact ⟨a, List.mem_append_right _ (List.mem_singleton_self a), hof⟩
    · obtain ⟨b, hb, hbof⟩ := h.entered other ((has_perm hp other).mpr (Or.inr (Or.inr hr))) hs
      exact ⟨b, List.mem_append_left _ hb, hbof⟩
  · intro hbroken b hb
    rcases List.mem_append.mp hb with hb | hb
    · obtain ⟨other, hr, hs, hbof⟩ := h.known hbroken b hb
      refine ⟨other, (has_goOn other).mpr ?_, hs, hbof⟩
      rcases (has_perm hp other).mp hr with hr | hr | hr
      · exact Or.inl hr
      · rw [record_ahead hahead] at hr
        cases hr
      · exact Or.inr (Or.inr hr)
    · rw [List.mem_singleton.mp hb]
      exact ⟨record, (has_goOn record).mpr (Or.inr (Or.inl hrecord)), hsuccess, hof⟩
  · rw [Run.goOn, aheadUrls_recorded hrecord, (hmoved.append_right _).nodup_iff]
    exact nodup_ended h hp hahead
  · intro url hu
    rw [Run.goOn, (hmoved.append_right _).mem_iff] at hu
    exact given_ended h hp hurl hu

/-- A worker whose record is no success puts nothing on the shelf; an article of its own may be lost. -/
theorem Run.Shelves.pass (h : r.Shelves plan around queue files before records articles lost)
    (hp : r.workers.Perm (w :: others)) (hurl : w'.url = w.url) (hahead : w.isAhead = true)
    {record : ProgressRecord} (hrecord : w'.record? = some record)
    (hfailure : record.outcome ≠ .success) (hstore : shared.store = r.shared.store)
    {more : List Article} (hmore : (more.map Article.url).Sublist [w.url])
    (htakes : files.Takes plan.archiveRoot articles (lost ++ more) shared.files) :
    (r.goOn shared others w').Shelves plan around queue files before records articles
      (lost ++ more) := by
  have hsub : ((articles ++ (lost ++ more)).map Article.url).Sublist
      ((articles ++ lost).map Article.url ++ [w.url]) := by
    rw [← List.append_assoc, List.map_append]
    exact hmore.append_left _
  refine ⟨?_, htakes, h.origins, ?_, ?_, ?_, ?_⟩
  · simpa only [Run.goOn, hstore] using h.written
  · intro other hr hs
    rcases (has_goOn other).mp hr with hr | hr | hr
    · exact h.entered other (Or.inl hr) hs
    · rw [hrecord] at hr
      cases hr
      exact absurd hs hfailure
    · exact h.entered other ((has_perm hp other).mpr (Or.inr (Or.inr hr))) hs
  · intro hb a ha
    obtain ⟨other, hr, hs, hof⟩ := h.known hb a ha
    refine ⟨other, (has_goOn other).mpr ?_, hs, hof⟩
    rcases (has_perm hp other).mp hr with hr | hr | hr
    · exact Or.inl hr
    · rw [record_ahead hahead] at hr
      cases hr
    · exact Or.inr (Or.inr hr)
  · rw [Run.goOn, aheadUrls_recorded hrecord]
    exact (nodup_ended h hp hahead).sublist (hsub.append_right _)
  · intro url hu
    exact given_ended h hp hurl ((hsub.append_right _).subset hu)

theorem isFrom_of {a : Article} {url : CanonicalUrl} {earlier : List Request} {status : Nat}
    {body : String} (hurl : a.url = url)
    (hanswer : (around.site earlier url.text).reply = .page status body)
    (he : a.extraction = extractPage plan.leastContent url body.toList) : a.IsFrom plan around := by
  subst hurl
  exact ⟨earlier, status, body, hanswer, he⟩

/-- A worker that judges its last answer puts an article on the shelf if it records a success. -/
theorem Run.Shelves.settles (h : r.Shelves plan around queue files before records articles lost)
    (hp : r.workers.Perm (w :: others)) (hw : w.Fits around) (hurl : w'.url = w.url) {reply : Reply}
    {verdict : Verdict} {after : Files} {captured : Timestamp} (hphase : w.phase = .settling reply)
    (hj : judge plan captured w.url reply r.shared.files = (verdict, after)) {retries : UInt32}
    (hrecording : w'.phase =
      .recording ⟨w.url, verdict.outcome, captured, retries, verdict.error⟩ verdict.method) :
    ∃ articles lost, (r.goOn { r.shared with files := after } others w').Shelves plan around queue
      files before records articles lost := by
  have hrecord : w'.record? = some ⟨w.url, verdict.outcome, captured, retries, verdict.error⟩ := by
    rw [Worker.record?, hrecording]
  have hahead : w.isAhead = true := isAhead_of hphase (by simp)
  obtain ⟨-, harchives, hkept, -⟩ := judge_success hj
  by_cases hsuccess : verdict.outcome = .success
  · obtain ⟨status, body, rfl, -, harchive⟩ := harchives hsuccess
    obtain ⟨earlier, hanswer⟩ := hw.answered (.page status body) (by rw [Worker.reply?, hphase])
    generalize he : extractPage plan.leastContent w.url body.toList = e at harchive
    have heurl : e.url = w.url := he ▸ extractPage_url _ _ _
    have hfrom : Article.IsFrom ⟨e, captured⟩ plan around := isFrom_of heurl hanswer he.symm
    have hof : Article.IsOf ⟨e, captured⟩
        ⟨w.url, verdict.outcome, captured, retries, verdict.error⟩ := ⟨heurl, rfl⟩
    exact ⟨_, lost, h.shelve hp hurl hahead hrecord hsuccess hof heurl hfrom harchive rfl⟩
  · rcases hkept hsuccess with rfl | ⟨status, body, cause, rfl, -, harchive, rfl⟩
    · have hsame : files.Takes plan.archiveRoot articles (lost ++ []) r.shared.files := by
        rw [List.append_nil]
        exact h.takes
      have hnone : (([] : List Article).map Article.url).Sublist [w.url] := List.nil_sublist _
      exact ⟨articles, _, h.pass hp hurl hahead hrecord hsuccess rfl hnone hsame⟩
    · generalize he : extractPage plan.leastContent w.url body.toList = e at harchive
      have heurl : e.url = w.url := he ▸ extractPage_url _ _ _
      have hlost : files.Takes plan.archiveRoot articles (lost ++ [⟨e, captured⟩]) cause.left :=
        .lose h.takes harchive
      have hmore : ([⟨e, captured⟩].map Article.url).Sublist [w.url] := by
        rw [List.map_singleton, Article.url, heurl]
      have hstore : ({ r.shared with files := cause.left } : Shared).store = r.shared.store := rfl
      exact ⟨articles, _, h.pass hp hurl hahead hrecord hsuccess hstore hmore hlost⟩

theorem distinct_finish (h : r.Shelves plan around queue files before records articles lost)
    (hp : r.workers.Perm (w :: others)) :
    ((articles ++ lost).map Article.url ++ aheadUrls others).Nodup := by
  have hperm : (aheadUrls r.workers).Perm (aheadUrls [w] ++ aheadUrls others) := by
    rw [← aheadUrls_append]
    exact aheadUrls_perm hp
  have hnodup := (hperm.append_left _).nodup_iff.mp h.distinct
  exact hnodup.sublist ((List.sublist_append_right _ _).append_left _)

theorem given_finish (h : r.Shelves plan around queue files before records articles lost)
    (hp : r.workers.Perm (w :: others)) :
    ∀ url ∈ (articles ++ lost).map Article.url ++ others.map (·.url),
      url ∈ (queue.take r.handed).map (·.url) := by
  intro url hu
  rcases List.mem_append.mp hu with hu | hu
  · exact h.given url (List.mem_append_left _ hu)
  · have hmem : url ∈ r.workers.map (·.url) :=
      (hp.map _).mem_iff.mpr (List.mem_cons_of_mem w.url hu)
    exact h.given url (List.mem_append_right _ hmem)

/-- A worker's record that reaches the log stands for its article there. -/
theorem Run.Shelves.enter (h : r.Shelves plan around queue files before records articles lost)
    (hp : r.workers.Perm (w :: others)) {record : ProgressRecord}
    (hrecord : w.record? = some record)
    (hwritten : shared.store.log.written = r.shared.store.log.written ++ record.lineBytes)
    (hfiles : shared.files = r.shared.files) (e : WorkerEnd) :
    (r.finish shared others w e).Shelves plan around queue files before (records ++ [record])
      articles lost := by
  have hhas : ∀ other, (r.finish shared others w e).Has (records ++ [record]) other ↔
      r.Has records other := by
    intro other
    rw [has_perm hp, hrecord]
    simp only [Run.Has, Run.finish, List.mem_append, List.mem_singleton, or_assoc,
      Option.some.injEq, eq_comm (a := other)]
  have hgiven := given_finish h hp
  refine h.frame ?_ hfiles hhas broken_finish (distinct_finish h hp) hgiven
  rw [Run.finish, hwritten, h.written]
  simp

/-- A worker that ends without a record in the log leaves a broken run. -/
theorem Run.Shelves.leave (h : r.Shelves plan around queue files before records articles lost)
    (hp : r.workers.Perm (w :: others))
    (hwritten : shared.store.log.written = r.shared.store.log.written)
    (hfiles : shared.files = r.shared.files) {e : WorkerEnd}
    (he : ∀ outcome, e ≠ .recorded outcome) :
    (r.finish shared others w e).Shelves plan around queue files before records articles lost := by
  have hgiven := given_finish h hp
  refine ⟨?_, ?_, h.origins, ?_, ?_, distinct_finish h hp, hgiven⟩
  · simpa only [Run.finish, hwritten] using h.written
  · simpa only [Run.finish, hfiles] using h.takes
  · intro record hr
    refine h.entered record ((has_perm hp record).mpr ?_)
    exact hr.imp_right Or.inr
  · intro hb
    exact absurd (broken_of_end he) hb

/-- Every step of a worker keeps the shelves. -/
theorem Run.Shelves.work (h : r.Shelves plan around queue files before records articles lost)
    (hsound : r.Sound around frontier queue before) {ticket : Nat} {heed : Bool}
    (hs : r.work plan around ticket heed = some r') :
    ∃ records articles lost, r'.Shelves plan around queue files before records articles lost := by
  obtain ⟨w, others, shared, hp, ⟨w', hstep, rfl⟩ | ⟨e, hstep, rfl⟩⟩ := work_cases hsound.tickets hs
  · have hfits := hsound.fits w (hp.mem_iff.mpr List.mem_cons_self)
    cases (step_deed hfits hstep).turn with
    | goes url ticket ahead store files heeds =>
      exact ⟨records, articles, lost, h.goes hp url ahead store files⟩
    | settles phase judged url ticket recording =>
      exact ⟨records, h.settles hp hfits url phase judged recording⟩
  · have hfits := hsound.fits w (hp.mem_iff.mpr List.mem_cons_self)
    have hturn := (step_deed hfits hstep).turn
    cases hturn with
    | @appends record method phase =>
      have hrecord : w.record? = some record := by rw [Worker.record?, phase]
      rcases shared_append_cases r.shared plan around.logFault record method with
        ⟨-, hwritten, -⟩ | ⟨he, hwritten | hwritten⟩
      · exact ⟨_, articles, lost, h.enter hp hrecord hwritten rfl _⟩
      · exact ⟨_, articles, lost, h.enter hp hrecord hwritten rfl _⟩
      · refine ⟨records, articles, lost, h.leave hp hwritten rfl ?_⟩
        intro outcome ho
        rw [Except.error.inj he] at ho
        cases ho
    | breaks ahead => exact ⟨records, articles, lost, h.leave hp rfl rfl (by simp)⟩

end Archiver
