import Archiver.Proofs.Discovery.Order
import Archiver.Proofs.Discovery.Sources

namespace Archiver

/-- A source is the first of some sources, in their order, to list an article. -/
def Discoverer.FirstLists (d : Discoverer) (sources : List Source) (source : Source)
    (c : CanonicalUrl) : Prop :=
  ∃ before after, sources = before ++ source :: after ∧ d.Lists source c ∧
    ∀ earlier ∈ before, ¬ d.Lists earlier c

/-- A search reads some sources: it enters what they list, each article under the name of the first
to list it. -/
structure Search.Reads (d : Discoverer) (sources : List Source) (s s' : Search) : Prop where
  mem_entries : ∀ e, e ∈ s'.found.entries ↔ e ∈ s.found.entries ∨ s.found.contains e.url = false ∧
    ∃ source, d.FirstLists sources source e.url ∧ e = FrontierEntry.of e.url source.name
  distinct : s.found.Distinct → s'.found.Distinct
  mem_asked : ∀ url, url ∈ s'.client.asked ↔
    url ∈ s.client.asked ∨ ∃ source ∈ sources, d.Asks source url

section First

variable {d : Discoverer} {source dropped : Source} {sources : List Source} {c : CanonicalUrl}

theorem not_firstLists_nil : ¬ d.FirstLists [] source c := by
  rintro ⟨before, after, h, -⟩
  exact List.append_ne_nil_of_right_ne_nil _ (List.cons_ne_nil _ _) h.symm

theorem firstLists_cons (head : Source) : d.FirstLists (head :: sources) source c ↔
    source = head ∧ d.Lists head c ∨ ¬ d.Lists head c ∧ d.FirstLists sources source c := by
  constructor
  · rintro ⟨before, after, hcut, hlists, hfirst⟩
    cases before with
    | nil =>
      obtain ⟨rfl, -⟩ := List.cons.inj hcut
      exact Or.inl ⟨rfl, hlists⟩
    | cons p before =>
      obtain ⟨rfl, rfl⟩ := List.cons.inj hcut
      exact Or.inr ⟨hfirst _ List.mem_cons_self, before, after, rfl, hlists,
        fun q hq => hfirst q (List.mem_cons_of_mem _ hq)⟩
  · rintro (⟨rfl, hlists⟩ | ⟨hnot, before, after, rfl, hlists, hfirst⟩)
    · exact ⟨[], sources, rfl, hlists, fun _ h => nomatch h⟩
    · refine ⟨head :: before, after, rfl, hlists, fun q hq => ?_⟩
      rcases List.mem_cons.mp hq with rfl | hq
      · exact hnot
      · exact hfirst q hq

/-- What some source lists, one of them lists first. -/
theorem exists_firstLists_iff :
    (∃ source, d.FirstLists sources source c) ↔ ∃ source ∈ sources, d.Lists source c := by
  constructor
  · rintro ⟨source, before, after, rfl, hlists, -⟩
    exact ⟨source, by simp, hlists⟩
  · rintro ⟨source, hmem, hlists⟩
    induction sources with
    | nil => cases hmem
    | cons head rest ih =>
      by_cases hhead : d.Lists head c
      · exact ⟨head, (firstLists_cons head).mpr (Or.inl ⟨rfl, hhead⟩)⟩
      · have hrest : source ∈ rest :=
          (List.mem_cons.mp hmem).resolve_left fun h => hhead (h ▸ hlists)
        obtain ⟨first, hfirst⟩ := ih hrest
        exact ⟨first, (firstLists_cons head).mpr (Or.inr ⟨hhead, hfirst⟩)⟩

/-- A source that lists nothing takes no article from the others. -/
theorem firstLists_drop (before after : List Source) (hnone : ∀ c, ¬ d.Lists dropped c) :
    d.FirstLists (before ++ dropped :: after) source c ↔
      d.FirstLists (before ++ after) source c := by
  induction before with
  | nil =>
    rw [List.nil_append, List.nil_append, firstLists_cons]
    simp [hnone]
  | cons head before ih =>
    rw [List.cons_append, List.cons_append, firstLists_cons, firstLists_cons, ih]

end First

section Reading

variable {d : Discoverer} {sources : List Source}

/-- One source more in front: what it gains it takes from those behind it. -/
theorem reads_cons {source : Source} {s s' s'' : Search}
    (h : s.Gains source.name (d.Asks source) (d.Lists source) s')
    (hrest : s'.Reads d sources s'') : s.Reads d (source :: sources) s'' where
  mem_entries e := by
    have hknown := contains_of_gains h e.url
    rw [hrest.mem_entries, h.mem_entries, ← Bool.not_eq_true, ← Bool.not_eq_true, hknown]
    simp only [firstLists_cons]
    by_cases hlists : d.Lists source e.url
    · simp [hlists]
    · simp [hlists]
  distinct hd := hrest.distinct (h.distinct hd)
  mem_asked url := by
    rw [hrest.mem_asked, h.mem_asked, or_assoc]
    simp

/-- Reading sources one after another; if each of them fails, none of them opens. -/
theorem readSources_reads (hs : d.site.Steady) (sources : List Source) (s : Search) :
    s.Reads d sources (d.readSources sources s).1 ∧
      (d.readSources sources s).2 ≤ sources.length ∧
      ((d.readSources sources s).2 = sources.length → ∀ source ∈ sources, ¬ d.Opens source) := by
  induction sources generalizing s with
  | nil =>
    refine ⟨⟨fun e => ?_, id, fun url => ?_⟩, le_rfl, fun _ _ h => nomatch h⟩
    · simp [not_firstLists_nil, Discoverer.readSources]
    · simp [Discoverer.readSources]
  | cons source rest ih =>
    obtain ⟨hgains, hclosed⟩ := readSource_gains hs source s
    rw [Discoverer.readSources]
    rcases hresult : d.readSource source s with ⟨s₁, result⟩
    rw [hresult] at hgains hclosed
    obtain ⟨hreads, hbound, hall⟩ := ih s₁
    cases result with
    | ok =>
      refine ⟨reads_cons hgains hreads, Nat.le_succ_of_le hbound, fun hcount => ?_⟩
      simp only [List.length_cons] at hcount
      omega
    | error cause =>
      refine ⟨reads_cons hgains hreads, Nat.succ_le_succ hbound, fun hcount p hp => ?_⟩
      rcases List.mem_cons.mp hp with rfl | hp
      · exact hclosed cause rfl
      · exact hall (Nat.succ.inj hcount) p hp

theorem build_eq_ok {c : Client}
    (hcount : (d.readSources sources ⟨c, .empty⟩).2 ≠ sources.length)
    (hfound : (d.readSources sources ⟨c, .empty⟩).1.found.entries ≠ []) :
    (d.build sources c).2 =
      .ok (sortFrontier (d.readSources sources ⟨c, .empty⟩).1.found.entries) := by
  unfold Discoverer.build
  simp [DiscoveredSet.size, hcount, hfound, DiscoveredSet.sorted]

/-- What discovery enters from nothing, and when it comes back with it. -/
theorem build_entries (hs : d.site.Steady) (sources : List Source) (c : Client) :
    ∃ found : DiscoveredSet, found.Distinct ∧
      (∀ e, e ∈ found.entries ↔
        ∃ source, d.FirstLists sources source e.url ∧ e = FrontierEntry.of e.url source.name) ∧
      (d.build sources c).2 =
        if found.entries = [] then .error .nothingFound else .ok (sortFrontier found.entries) := by
  obtain ⟨hreads, -, hall⟩ := readSources_reads hs sources ⟨c, .empty⟩
  have hmem : ∀ e, e ∈ (d.readSources sources ⟨c, .empty⟩).1.found.entries ↔
      ∃ source, d.FirstLists sources source e.url ∧ e = FrontierEntry.of e.url source.name := by
    intro e
    rw [hreads.mem_entries]
    simp [DiscoveredSet.empty, DiscoveredSet.contains]
  refine ⟨_, hreads.distinct List.nodup_nil, hmem, ?_⟩
  have hempty : (d.readSources sources ⟨c, .empty⟩).2 = sources.length →
      (d.readSources sources ⟨c, .empty⟩).1.found.entries = [] := fun hcount => by
    refine List.eq_nil_iff_forall_not_mem.mpr fun e he => ?_
    obtain ⟨source, ⟨before, after, rfl, hlists, -⟩, -⟩ := (hmem e).mp he
    exact hall hcount source (by simp) (opens_of_lists hlists)
  by_cases hnil : (d.readSources sources ⟨c, .empty⟩).1.found.entries = []
  · rw [if_pos hnil]
    unfold Discoverer.build
    simp [DiscoveredSet.size, hnil]
  · rw [if_neg hnil]
    exact build_eq_ok (fun h => hnil (hempty h)) hnil

/-- The outcome hangs on nothing but which source lists an article first. -/
theorem build_congr (hs : d.site.Steady) {sources sources' : List Source}
    (h : ∀ source c, d.FirstLists sources source c ↔ d.FirstLists sources' source c)
    (c c' : Client) : (d.build sources c).2 = (d.build sources' c').2 := by
  obtain ⟨found, hd, hmem, hbuild⟩ := build_entries hs sources c
  obtain ⟨found', hd', hmem', hbuild'⟩ := build_entries hs sources' c'
  have hperm : found.entries.Perm found'.entries := by
    refine (List.perm_ext_iff_of_nodup (List.Nodup.of_map _ hd) (List.Nodup.of_map _ hd')).mpr
      fun e => ?_
    rw [hmem, hmem']
    exact exists_congr fun source => and_congr_left fun _ => h source e.url
  have hnil : found.entries = [] ↔ found'.entries = [] :=
    ⟨fun h => List.perm_nil.mp (h ▸ hperm.symm), fun h => List.perm_nil.mp (h ▸ hperm)⟩
  rw [hbuild, hbuild', sortFrontier_eq hd hperm]
  simp only [hnil]

/-- On a steady site discovery gives each article that some source lists, once, in the order of a
frontier and under the name of the first source to list it; it fails just when no source lists any;
and a source that does not open might as well not be there. -/
theorem build_frontier (hs : d.site.Steady) (sources : List Source) (c : Client) :
    ((d.build sources c).2 = .error .nothingFound ↔
      ∀ source ∈ sources, ∀ url, ¬ d.Lists source url) ∧
    (∀ entries, (d.build sources c).2 = .ok entries →
      (entries.map (·.url)).Nodup ∧ entries.Pairwise FrontierEntry.Precedes ∧
      (∀ url, url ∈ entries.map (·.url) ↔ ∃ source ∈ sources, d.Lists source url) ∧
      ∀ e ∈ entries, ∃ source, d.FirstLists sources source e.url ∧
        e = FrontierEntry.of e.url source.name) ∧
    (∀ url, url ∈ (d.build sources c).1.asked ↔
      url ∈ c.asked ∨ ∃ source ∈ sources, d.Asks source url) ∧
    ∀ before source after, sources = before ++ source :: after → ¬ d.Opens source →
      ∀ c', (d.build sources c).2 = (d.build (before ++ after) c').2 := by
  obtain ⟨found, hd, hmem, hbuild⟩ := build_entries hs sources c
  have hurl : ∀ url, url ∈ found.entries.map (·.url) ↔ ∃ source ∈ sources, d.Lists source url := by
    intro url
    rw [← exists_firstLists_iff, List.mem_map]
    constructor
    · rintro ⟨e, he, rfl⟩
      obtain ⟨source, hfirst, -⟩ := (hmem e).mp he
      exact ⟨source, hfirst⟩
    · rintro ⟨source, hfirst⟩
      exact ⟨.of url source.name, (hmem _).mpr ⟨source, hfirst, rfl⟩, rfl⟩
  refine ⟨?_, fun entries hok => ?_, ?_, ?_⟩
  · rw [hbuild]
    constructor
    · intro herror source hsource url hlists
      have hin := (hurl url).mpr ⟨source, hsource, hlists⟩
      split at herror
      · next hnil => simp [hnil] at hin
      · cases herror
    · intro hnone
      have hnil : found.entries.map (·.url) = [] :=
        List.eq_nil_iff_forall_not_mem.mpr fun url hin => by
          obtain ⟨source, hsource, hlists⟩ := (hurl url).mp hin
          exact hnone source hsource url hlists
      exact if_pos (List.map_eq_nil_iff.mp hnil)
  · rw [hbuild] at hok
    split at hok
    · cases hok
    cases hok
    have hsorted := sortFrontier_perm found.entries
    refine ⟨(hsorted.map _).nodup_iff.mpr hd, sortFrontier_precedes hd, fun url => ?_,
      fun e he => ?_⟩
    · rw [(hsorted.map _).mem_iff, hurl]
    · exact (hmem e).mp (hsorted.mem_iff.mp he)
  · exact (readSources_reads hs sources ⟨c, .empty⟩).1.mem_asked
  · rintro before source after rfl hclosed c'
    exact build_congr hs (fun _ _ => firstLists_drop before after fun _ h =>
      hclosed (opens_of_lists h)) c c'

end Reading

/-- A site of four pages: a listing, one nested in it, and two of links. All else is gone. -/
def newsSite : Site := fun _ url =>
  let reply : Reply :=
    if url == "https://[::1]/all.xml" then
      .page 200 "<loc>https://[::1]/n/7</loc><loc>https://[::1]/old.xml</loc>"
    else if url == "https://[::1]/old.xml" then .page 200 "<loc>https://[::1]/n/5/?s=1</loc>"
    else if url == "https://[::1]/c" then .page 200 "<a href=n/5>5</a><a class=next href=c2>2</a>"
    else if url == "https://[::1]/c2" then .page 200 "<a href=n/9>9</a><a class=next href=c>1</a>"
    else .refused 404
  ⟨reply, 3, false, false⟩

def newsDiscoverer : Discoverer :=
  { site := newsSite, shape := .of ["[::1]".toList] ["/n".toList]
    nextSelector := (Selectors.parse? "a.next".toList).getD .nil, maxPages := 5
    policy := ⟨0, 1.0, 2⟩ }

def goneSource : Source := ⟨.category, "gone", "https://[::1]/gone"⟩

def newsSources : List Source :=
  [⟨.listing, "listing", "https://[::1]/all.xml"⟩, ⟨.category, "page", "https://[::1]/c"⟩]

def newsFound : List FrontierEntry :=
  [⟨⟨"https://[::1]/n/7"⟩, "listing", some 7⟩, ⟨⟨"https://[::1]/n/5"⟩, "listing", some 5⟩,
    ⟨⟨"https://[::1]/n/9"⟩, "page", some 9⟩]

def newsEntries : List FrontierEntry :=
  [⟨⟨"https://[::1]/n/9"⟩, "page", some 9⟩, ⟨⟨"https://[::1]/n/7"⟩, "listing", some 7⟩,
    ⟨⟨"https://[::1]/n/5"⟩, "listing", some 5⟩]

theorem build_frontier_news :
    newsSite.Steady ∧ ¬ newsDiscoverer.Opens goneSource ∧
    (newsDiscoverer.build (goneSource :: newsSources) (.start 0)).2 = .ok newsEntries ∧
    (∃ source, newsDiscoverer.FirstLists (goneSource :: newsSources) source
      ⟨"https://[::1]/n/5"⟩ ∧ source.name = "listing") ∧
    (newsDiscoverer.build newsSources (.start 0)).2 = .ok newsEntries := by
  have hs : newsDiscoverer.site.Steady := fun _ _ _ => rfl
  have hfound : (newsDiscoverer.readSources (goneSource :: newsSources)
      ⟨.start 0, .empty⟩).1.found.entries = newsFound := by decide +kernel
  have hcount : (newsDiscoverer.readSources (goneSource :: newsSources)
      ⟨.start 0, .empty⟩).2 = 1 := by decide +kernel
  have hsorted : sortFrontier newsFound = newsEntries :=
    (sortFrontier_eq (by decide) (by decide)).trans (List.mergeSort_of_pairwise (by decide))
  have hbuild : (newsDiscoverer.build (goneSource :: newsSources) (.start 0)).2 =
      .ok newsEntries := by
    rw [← hsorted, ← hfound]
    exact build_eq_ok (by rw [hcount]; decide) (by rw [hfound]; decide)
  have hclosed : ¬ newsDiscoverer.Opens goneSource := by
    rintro ⟨start, hstart, hpage⟩
    have hgone : (Url.parse goneSource.url.toList).toOption.map
        (fun u => (newsDiscoverer.page? (String.ofList u.text)).isSome) = some false := by
      decide +kernel
    rw [hstart] at hgone
    exact absurd hpage (by simpa [Except.toOption] using hgone)
  obtain ⟨-, hok, -, hdrop⟩ := build_frontier hs (goneSource :: newsSources) (.start 0)
  refine ⟨hs, hclosed, hbuild, ?_, ?_⟩
  · obtain ⟨source, hfirst, hentry⟩ := (hok _ hbuild).2.2.2
      ⟨⟨"https://[::1]/n/5"⟩, "listing", some 5⟩ (by decide)
    exact ⟨source, hfirst, (congrArg FrontierEntry.source hentry).symm⟩
  · rw [← hbuild]
    exact (hdrop [] goneSource newsSources rfl hclosed (.start 0)).symm

end Archiver
