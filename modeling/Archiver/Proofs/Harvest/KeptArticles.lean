import Archiver.Proofs.Harvest.Shelving

namespace Archiver

variable {plan : Plan} {around : Surroundings} {frontier queue : List FrontierEntry}
  {files : Files} {before : ProgressStore} {r r' : Run} {records : List ProgressRecord}
  {articles lost : List Article}

/-- Every move of a run keeps the shelves. -/
theorem Run.Shelves.step (h : r.Shelves plan around queue files before records articles lost)
    (hsound : r.Sound around frontier queue before) (hn : (queue.map (·.url)).Nodup) {move : Move}
    (hs : r.step plan around move = some r') :
    ∃ records articles lost, r'.Shelves plan around queue files before records articles lost := by
  rcases step_cases hs with hq | ⟨entry, rest, later, hphase, rfl⟩ | ⟨ticket, heed, hwork⟩
  · exact ⟨records, articles, lost, h.quiet hq⟩
  · exact ⟨records, articles, lost, h.handOut hsound hn hphase⟩
  · exact h.work hsound hwork

theorem shelves_of_reaches {diff cancelled : Bool} (hp : 0 < plan.batchSize)
    (hn : ((queueOf diff before.snapshot frontier).map (·.url)).Nodup)
    (h : (Run.start plan diff cancelled frontier files before).Reaches plan around r) :
    ∃ records articles lost, r.Shelves plan around (queueOf diff before.snapshot frontier) files
      before records articles lost := by
  have hstart : (Run.start plan diff cancelled frontier files before).Sound around frontier
      (queueOf diff before.snapshot frontier) before := sound_start hp _ _ _ _ _
  refine (h.invariant (P := fun r => r.Sound around frontier (queueOf diff before.snapshot frontier)
    before ∧ ∃ records articles lost, r.Shelves plan around (queueOf diff before.snapshot frontier)
      files before records articles lost) ⟨hstart, [], [], [], shelves_start _ _ _ _ _⟩ ?_).2
  rintro a b move ⟨hsound, records, articles, lost, hshelves⟩ hs
  exact ⟨hsound.step hs, hshelves.step hsound hn hs⟩

/-- True if the archive has a file with the URL and the text of every recorded success. -/
def Run.KeepsAll (r : Run) (root : String) (records : List ProgressRecord)
    (articles : List Article) : Prop :=
  ∀ record ∈ records, record.outcome = .success →
    ∃ a ∈ articles, a.IsOf record ∧ r.shared.files.Holds root a

/-- True if the log has a record of an article's success. -/
def Article.IsRecorded (a : Article) (records : List ProgressRecord) : Prop :=
  ∃ record ∈ records, record.outcome = .success ∧ a.IsOf record

/-- What a run has brought into log and archive. Each recorded success has an article, which was
taken from a page of its URL. The archive still has all of them just when no other article was put
to the place of one after it. -/
structure Run.Archived (plan : Plan) (around : Surroundings) (before : ProgressStore) (r : Run)
    (records : List ProgressRecord) (articles : List Article) : Prop where
  written : r.shared.store.log.written =
    before.log.written ++ records.flatMap ProgressRecord.lineBytes
  origins : ∀ a ∈ articles, a.IsFrom plan around
  distinct : (articles.map Article.url).Nodup
  entered : ∀ record ∈ records, record.outcome = .success → ∃ a ∈ articles, a.IsOf record
  kept : r.KeepsAll plan.archiveRoot records articles ↔ ∀ a ∈ articles, a.IsRecorded records →
    lastAt plan.archiveRoot (a.place plan.archiveRoot) articles = some a

theorem keepsAll_iff {root : String} (hf : files.IsEmptyBelow root)
    (ht : files.Takes root articles lost r.shared.files)
    (hn : ((articles ++ lost).map Article.url).Nodup) (hl : ∀ a ∈ articles ++ lost, a.url.IsLine)
    (he : ∀ record ∈ records, record.outcome = .success → ∃ a ∈ articles, a.IsOf record) :
    r.KeepsAll root records articles ↔ ∀ a ∈ articles, a.IsRecorded records →
      lastAt root (a.place root) articles = some a := by
  constructor
  · rintro h a ha ⟨record, hr, hs, hof⟩
    obtain ⟨b, hb, hbof, hholds⟩ := h record hr hs
    have hab : b = a := List.inj_on_of_nodup_map hn (List.mem_append_left _ hb)
      (List.mem_append_left _ ha) (hbof.1.trans hof.1.symm)
    exact (holds_iff hf ht hn hl ha).mp (hab ▸ hholds)
  · intro h record hr hs
    obtain ⟨a, ha, hof⟩ := he record hr hs
    exact ⟨a, ha, hof, (holds_iff hf ht hn hl ha).mpr (h a ha ⟨record, hr, hs, hof⟩)⟩

theorem Run.Shelves.archived (h : r.Shelves plan around queue files before records articles lost)
    (hf : files.IsEmptyBelow plan.archiveRoot) (hl : ∀ entry ∈ queue, entry.url.IsLine) :
    r.Archived plan around before records articles := by
  have hn : ((articles ++ lost).map Article.url).Nodup := h.distinct.of_append_left
  have he : ∀ record ∈ records, record.outcome = .success → ∃ a ∈ articles, a.IsOf record :=
    fun record hr hs => h.entered record (Or.inl hr) hs
  have hline : ∀ a ∈ articles ++ lost, a.url.IsLine := by
    intro a ha
    obtain ⟨entry, hentry, hurl⟩ :=
      List.mem_map.mp (h.given a.url (List.mem_append_left _ (List.mem_map_of_mem ha)))
    exact hurl ▸ hl entry (List.mem_of_mem_take hentry)
  have hdistinct : (articles.map Article.url).Nodup := by
    rw [List.map_append] at hn
    exact hn.of_append_left
  exact ⟨h.written, h.origins, hdistinct, he, keepsAll_iff hf h.takes hn hline he⟩

/-- Where nobody is in work in a run that is not broken, every article is recorded. -/
theorem Run.Shelves.isRecorded (h : r.Shelves plan around queue files before records articles lost)
    (hidle : r.Idle) {a : Article} (ha : a ∈ articles) : a.IsRecorded records := by
  obtain ⟨record, hr, hs, hof⟩ := h.known hidle.not_broken a ha
  rcases hr with hr | ⟨w, hw, _⟩
  · exact ⟨record, hr, hs, hof⟩
  · rw [hidle.workers] at hw
    exact absurd hw List.not_mem_nil

/-- From an empty archive on, a run over distinct URLs keeps the article of every success if and
only if no two articles have the same place. -/
theorem keepsAll_iff_places {config : Config} {diff cancelled : Bool}
    (hn : (frontier.map (·.url)).Nodup) (hl : ∀ entry ∈ frontier, entry.url.IsLine)
    (hf : files.IsEmptyBelow config.output.archiveDir)
    (h : (Run.start (.of config) diff cancelled frontier files before).Reaches (.of config) around r) :
    ∃ records articles, r.Archived (.of config) around before records articles ∧
      ∀ outcome, r.phase = .ended (.ok outcome) →
        (r.KeepsAll config.output.archiveDir records articles ↔
          (articles.map (·.place config.output.archiveDir)).Nodup) := by
  have hsize : 0 < (Plan.of config).batchSize := Nat.le_max_right _ _
  have hsub := queueOf_sublist diff before.snapshot frontier
  obtain ⟨records, articles, lost, hshelves⟩ := shelves_of_reaches hsize (hn.sublist (hsub.map _)) h
  have harchived := hshelves.archived hf fun entry he => hl entry (hsub.subset he)
  refine ⟨records, articles, harchived, ?_⟩
  intro outcome hended
  -- nobody is in work when a run has ended, so every article on the shelf has its record
  have hidle : r.Idle := by
    have hplace := (sound_of_reaches hsize h).place
    rw [Run.Place, hended] at hplace
    exact hplace.1
  have hkept := harchived.kept
  rw [← forall_lastAt_iff harchived.distinct.of_map]
  refine hkept.trans ⟨fun hlast a ha => hlast a ha (hshelves.isRecorded hidle ha), ?_⟩
  intro hlast a ha _
  exact hlast a ha

def twinConfig : Config :=
  { (default : Config) with
    harvest := { (default : HarvestSettings) with leastContent := 1 }
    output := { (default : OutputSettings) with archiveDir := "archive" } }

/-- Two articles whose URLs end in the same segment. -/
def twinFrontier : List FrontierEntry :=
  [⟨⟨"https://a.test/1/x"⟩, "list", none⟩, ⟨⟨"https://a.test/2/x"⟩, "list", none⟩]

/-- A site on which no page has a title. -/
def twinAround : Surroundings :=
  ⟨fun _ _ => ⟨.page 200 "x", 0, false, false⟩, .notNeeded, none, ⟨0, 0⟩, fun _ => none⟩

def twinRun : Run :=
  harvest (.of twinConfig) twinAround false false twinFrontier .empty (.open [] [])

def twinRecords : List ProgressRecord :=
  twinFrontier.map fun entry => ⟨entry.url, .success, ⟨0, 0⟩, 0, none⟩

def Stored.startsWith (stored : Stored) (front : List UInt8) : Bool :=
  match stored with
  | .directory => false
  | .file bytes => front.isPrefixOf bytes

/-- The run records two successes, and no file that it leaves begins as that of the first URL. -/
theorem twinRun_ends : twinRun.hasCompleted = true ∧
    twinRun.shared.store.log.written = twinRecords.flatMap ProgressRecord.lineBytes ∧
    ∀ entry ∈ twinRun.shared.files.entries, entry.2.startsWith (encodeUtf8
      (rule ++ "source_url: ".toList ++ ("https://a.test/1/x".toList ++ ['\n']))) = false := by
  decide +kernel

theorem isEmptyBelow_empty (root : String) : Files.empty.IsEmptyBelow root := by
  intro q _
  unfold Files.bytes? Files.find?
  split
  · next h => split at h <;> cases h
  · rfl

theorem keepsAll_iff_places_twins :
    twinRun.phase = .ended (.ok .completed) ∧ ∃ records articles,
      twinRun.Archived (.of twinConfig) twinAround (.open [] []) records articles ∧
        (twinRun.KeepsAll "archive" records articles ↔
          (articles.map (·.place "archive")).Nodup) := by
  have hended : twinRun.phase = .ended (.ok .completed) := phase_of_hasCompleted twinRun_ends.1
  have hreaches : (Run.start (.of twinConfig) false false twinFrontier .empty (.open [] [])).Reaches
      (.of twinConfig) twinAround twinRun := harvest_reaches _ _ _ _ _ _ _
  obtain ⟨records, articles, harchived, hkept⟩ :=
    keepsAll_iff_places (by decide) (by decide) (isEmptyBelow_empty _) hreaches
  exact ⟨hended, records, articles, harchived, hkept _ hended⟩

theorem mem_of_bytes {f : Files} {q : Path} {b : List UInt8} (h : f.bytes? q = some b) :
    (q, .file b) ∈ f.entries := by
  unfold Files.bytes? Files.find? at h
  split at h
  · next hfind =>
    cases h
    split at hfind
    · cases hfind
    · obtain ⟨front, rest, he, -⟩ := List.lookup_eq_some_iff.mp hfind
      rw [he]
      simp
  · cases h

/-- A file with the document of an article begins with the line that names its source. -/
theorem IsArticleFile.starts {bytes : List UInt8} {url : CanonicalUrl} {markdown : List Char}
    (h : IsArticleFile bytes url markdown) :
    (encodeUtf8 (rule ++ "source_url: ".toList ++ (url.text.toList ++ ['\n']))).isPrefixOf bytes =
      true := by
  obtain ⟨e, captured, rfl, -, rfl⟩ := h
  obtain ⟨rest, hrest⟩ := renderDocument_eq e captured
  rw [hrest, List.isPrefixOf_iff_prefix]
  refine ⟨encodeUtf8 rest, ?_⟩
  rw [← encodeUtf8_append]
  simp

/-- Of two articles whose URLs end in the same segment and whose pages have no title, the second
takes the place of the first on the same day: a run over them from an empty archive records both as
successes, and no file has the URL of the first. -/
theorem twins_lose_article :
    (twinFrontier.map (·.url)).Nodup ∧ Files.empty.IsEmptyBelow "archive" ∧
      twinRun.phase = .ended (.ok .completed) ∧
      twinRun.shared.store.log.written = twinRecords.flatMap ProgressRecord.lineBytes ∧
      ∃ record ∈ twinRecords, record.outcome = .success ∧ ∀ q bytes markdown,
        twinRun.shared.files.bytes? q = some bytes → ¬ IsArticleFile bytes record.url markdown := by
  obtain ⟨hcompleted, hwritten, hnone⟩ := twinRun_ends
  refine ⟨by decide, isEmptyBelow_empty _, phase_of_hasCompleted hcompleted, hwritten,
    ⟨⟨"https://a.test/1/x"⟩, .success, ⟨0, 0⟩, 0, none⟩, by simp [twinRecords, twinFrontier], rfl, ?_⟩
  intro q bytes markdown hbytes hfile
  have hstarts := hnone _ (mem_of_bytes hbytes)
  rw [Stored.startsWith, hfile.starts] at hstarts
  cases hstarts

end Archiver
