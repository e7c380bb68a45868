import Archiver.Proofs.Discovery.Found
import Archiver.Proofs.Discovery.FrontierLaw
import Archiver.Proofs.Storage.Room
import Archiver.Progress.UrlList

namespace Archiver

variable {urls : List CanonicalUrl}

theorem urlLines_eq (urls : List CanonicalUrl) : urlLines urls = (urlListText urls, urls.length) := by
  induction urls with
  | nil => rfl
  | cons u rest ih =>
    rw [urlLines, List.foldr_cons, ← urlLines, ih]
    simp [urlListText]

theorem writeUrls_eq_ok_iff {f g : Files} {path : Path} {n : Nat} :
    f.writeUrls path urls = .ok (g, n) ↔
      f.replace path (encodeUtf8 (urlListText urls)) = .ok g ∧ n = urls.length := by
  unfold Files.writeUrls
  rw [urlLines_eq]
  simp only
  cases f.replace path (encodeUtf8 (urlListText urls)) <;> simp [eq_comm]

/-- Leaving out what came before is leaving out what is in hand, and repetitions after that. -/
theorem keepFirst_eq (seen urls : List CanonicalUrl) :
    keepFirst seen urls = (urls.filter fun u => !seen.contains u).eraseDups := by
  induction urls generalizing seen with
  | nil => rfl
  | cons u rest ih =>
    rw [keepFirst]
    by_cases hseen : seen.contains u = true
    · rw [if_pos hseen, List.filter_cons_of_neg (by rw [hseen]; decide), ih]
    · rw [if_neg hseen, List.filter_cons_of_pos (by rw [Bool.not_eq_true] at hseen; rw [hseen]; rfl),
        List.eraseDups_cons, ih, List.filter_filter]
      congr 3
      funext v
      rw [List.contains_cons, Bool.not_or]

theorem eraseDups_of_nodup (h : urls.Nodup) : urls.eraseDups = urls := by
  induction urls with
  | nil => rfl
  | cons u rest ih =>
    obtain ⟨hnew, hrest⟩ := List.nodup_cons.mp h
    have hall : rest.filter (fun v => !v == u) = rest := by
      rw [List.filter_eq_self]
      intro v hv
      have hne : v ≠ u := fun he => hnew (he ▸ hv)
      simpa using hne
    rw [List.eraseDups_cons, hall, ih hrest]

/-- The lines of a list of canonical URLs are its URLs. -/
theorem lines_urlListText (h : ∀ u ∈ urls, u.IsCanonical) :
    lines (urlListText urls) = urls.map fun u => u.text.toList := by
  induction urls with
  | nil => rfl
  | cons u rest ih =>
    have hvisible := (h u List.mem_cons_self).visible
    have hnewline : '\n' ∉ u.text.toList := fun hmem => absurd (hvisible _ hmem).1 (by decide)
    have hreturn : dropLineReturn u.text.toList = u.text.toList := by
      unfold dropLineReturn
      split
      · next r hr =>
        have hmem : '\r' ∈ u.text.toList := List.mem_reverse.mp (hr ▸ List.mem_cons_self)
        exact absurd (hvisible _ hmem).1 (by decide)
      · rfl
    have htext : urlListText (u :: rest) = u.text.toList ++ '\n' :: urlListText rest := by
      simp [urlListText]
    rw [htext, lines_append_newline, splitAll_line hnewline,
      ih fun v hv => h v (List.mem_cons_of_mem u hv)]
    simp [hreturn]

/-- The text of a list of canonical URLs is read as the list without its repetitions. -/
theorem readUrlList_urlListText (h : ∀ u ∈ urls, u.IsCanonical) :
    readUrlList (urlListText urls) = urls.eraseDups := by
  have hread : (urls.map fun u => u.text.toList).filterMap (fun line =>
      (CanonicalUrl.normalize (trim line)).toOption) = urls := by
    rw [List.filterMap_map]
    refine (List.filterMap_congr fun u hu => ?_).trans List.filterMap_some
    have hcanonical := h u hu
    simp only [Function.comp_apply]
    rw [trim_of_visible hcanonical.visible, hcanonical.fixed]
    rfl
  rw [readUrlList, lines_urlListText h, hread, keepFirst_eq]
  simp

theorem loadUrlList_of_replace {f g : Files} {path : Path} (h : ∀ u ∈ urls, u.IsCanonical)
    (hg : f.replace path (encodeUtf8 (urlListText urls)) = .ok g) :
    g.loadUrlList path = .ok urls.eraseDups := by
  rw [Files.loadUrlList, bytes_replace hg, if_pos rfl, Option.bind_some, decodeUtf8?_encodeUtf8]
  simp only [readUrlList_urlListText h]

theorem urls_entriesOfList (urls : List CanonicalUrl) : (entriesOfList urls).map (·.url) = urls := by
  rw [entriesOfList, List.map_map]
  exact List.map_id urls

theorem articleIds_entriesOfList {entries : List FrontierEntry} (h : AreFound entries) :
    (entriesOfList (entries.map (·.url))).map (·.articleId) = entries.map (·.articleId) := by
  simp only [entriesOfList, List.map_map]
  exact List.map_congr_left fun e he => (h.numbered e he).symm

/-- A list of canonical URLs can be written just where there is room for a file; the number of its
URLs comes back, and the file is read as the list without what is repeated. So the frontier of a
discovery, written and read again, has its URLs and article ids in its order. -/
theorem url_list_round_trip (f : Files) (path : Path) :
    (∀ urls : List CanonicalUrl, (∀ u ∈ urls, u.IsCanonical) →
      ((∃ g n, f.writeUrls path urls = .ok (g, n)) ↔ f.HasRoom path) ∧
      ∀ g n, f.writeUrls path urls = .ok (g, n) → n = urls.length ∧
        g.loadUrlList path = .ok urls.eraseDups ∧
        (urls.Nodup → g.loadUrlList path = .ok urls)) ∧
    ∀ (d : Discoverer) (sources : List Source) (c : Client) (entries : List FrontierEntry),
      (d.build sources c).2 = .ok entries → (∀ e ∈ entries, e.url.IsCanonical) ∧
      ∀ g n, f.writeUrls path (entries.map (·.url)) = .ok (g, n) →
        ∃ urls, g.loadUrlList path = .ok urls ∧
          (entriesOfList urls).map (·.url) = entries.map (·.url) ∧
          (entriesOfList urls).map (·.articleId) = entries.map (·.articleId) := by
  refine ⟨fun urls hurls => ⟨?_, fun g n hwrite => ?_⟩, fun d sources c entries hbuild => ?_⟩
  · rw [← replace_iff_hasRoom (encodeUtf8 (urlListText urls))]
    simp only [writeUrls_eq_ok_iff, exists_and_left, exists_eq, and_true]
  · obtain ⟨hg, hn⟩ := writeUrls_eq_ok_iff.mp hwrite
    have hload := loadUrlList_of_replace hurls hg
    exact ⟨hn, hload, fun hnodup => eraseDups_of_nodup hnodup ▸ hload⟩
  · have hfound := found_of_build hbuild
    refine ⟨hfound.canonical, fun g n hwrite => ?_⟩
    have hload := loadUrlList_of_replace (List.forall_mem_map.mpr hfound.canonical)
      (writeUrls_eq_ok_iff.mp hwrite).1
    rw [eraseDups_of_nodup hfound.distinct] at hload
    exact ⟨_, hload, urls_entriesOfList _, articleIds_entriesOfList hfound⟩

/-- A list in which an address comes twice, and a discovered frontier, in a directory yet to be made. -/
theorem url_list_round_trip_news :
    let path : Path := ["index", "url_list.txt"]
    let twice : List CanonicalUrl :=
      [⟨"https://[::1]/n/7"⟩, ⟨"https://a.test/%C3%A9"⟩, ⟨"https://[::1]/n/7"⟩]
    Files.empty.HasRoom path ∧
    (∃ g, Files.empty.writeUrls path twice = .ok (g, 3) ∧
      g.loadUrlList path = .ok [⟨"https://[::1]/n/7"⟩, ⟨"https://a.test/%C3%A9"⟩]) ∧
    (newsDiscoverer.build newsSources (.start 0)).2 = .ok newsEntries ∧
    ∃ g urls, Files.empty.writeUrls path (newsEntries.map (·.url)) = .ok (g, 3) ∧
      g.loadUrlList path = .ok urls ∧
      (entriesOfList urls).map (·.url) = newsEntries.map (·.url) ∧
      (entriesOfList urls).map (·.articleId) = [some 9, some 7, some 5] := by
  intro path twice
  have hplaced : (Files.empty.replace path []).isOk = true := by decide +kernel
  have hroom : Files.empty.HasRoom path := (replace_iff_hasRoom []).mp (exists_ok_of_isOk hplaced)
  have htwice : ∀ u ∈ twice, u.IsCanonical := by
    simp only [twice, List.forall_mem_cons]
    exact ⟨⟨"https://[::1]/n/7".toList, by decide +kernel⟩,
      ⟨"https://a.test/é".toList, by decide +kernel⟩,
      ⟨"https://[::1]/n/7".toList, by decide +kernel⟩, by simp⟩
  have hfound : (newsDiscoverer.readSources newsSources ⟨.start 0, .empty⟩).1.found.entries =
      newsFound := by decide +kernel
  have hcount : (newsDiscoverer.readSources newsSources ⟨.start 0, .empty⟩).2 = 0 := by
    decide +kernel
  have hsorted : sortFrontier newsFound = newsEntries :=
    (sortFrontier_eq (by decide) (by decide)).trans (List.mergeSort_of_pairwise (by decide))
  have hbuild : (newsDiscoverer.build newsSources (.start 0)).2 = .ok newsEntries := by
    rw [← hsorted, ← hfound]
    exact build_eq_ok (by rw [hcount]; decide) (by rw [hfound]; decide)
  obtain ⟨hlists, hfrontiers⟩ := url_list_round_trip Files.empty path
  obtain ⟨g, n, hwritten⟩ := (hlists twice htwice).1.mpr hroom
  obtain ⟨rfl, hload, -⟩ := (hlists twice htwice).2 g n hwritten
  obtain ⟨hcanonical, hreload⟩ := hfrontiers _ _ _ _ hbuild
  have hurls : ∀ u ∈ newsEntries.map (·.url), u.IsCanonical := List.forall_mem_map.mpr hcanonical
  obtain ⟨g', n', hwritten'⟩ := (hlists _ hurls).1.mpr hroom
  obtain ⟨rfl, -⟩ := (hlists _ hurls).2 g' n' hwritten'
  obtain ⟨urls, hload', hsame, hids⟩ := hreload g' _ hwritten'
  exact ⟨hroom, ⟨g, hwritten, hload⟩, hbuild, g', urls, hwritten', hload', hsame, hids⟩

end Archiver
