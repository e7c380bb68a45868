import Archiver.Discovery.Walk
import Archiver.Proofs.Discovery.Gains
import Archiver.Proofs.Discovery.Order
import Archiver.Proofs.Url.CanonicalForm

namespace Archiver

/-- A property of sets that no entering of a canonical address breaks. -/
def KeptByInsert (P : DiscoveredSet → Prop) : Prop :=
  ∀ f url name, P f → CanonicalUrl.IsCanonical url → P (f.insert url name)

section Kept

variable {P : DiscoveredSet → Prop} {d : Discoverer} {s : Search}

theorem accept_keeps (hP : KeptByInsert P) (name : String) {url : CanonicalUrl}
    (hurl : url.IsCanonical) (h : P s.found) : P (d.accept name s url).found := by
  unfold Discoverer.accept
  split
  · exact hP _ _ _ h hurl
  · exact h

theorem foldl_keeps {α : Type} {step : Search → α → Search} {items : List α}
    (hstep : ∀ s, ∀ a ∈ items, P s.found → P (step s a).found) (h : P s.found) :
    P (items.foldl step s).found := by
  induction items generalizing s with
  | nil => exact h
  | cons a rest ih =>
    exact ih (fun s b hb => hstep s b (List.mem_cons_of_mem a hb)) (hstep s a List.mem_cons_self h)

theorem acceptLocations_keeps (hP : KeptByInsert P) (name : String) (locations : List (List Char))
    (h : P s.found) : P (d.acceptLocations name s locations).found := by
  refine foldl_keeps (fun s location _ h => ?_) h
  unfold Discoverer.acceptLocation
  split
  · exact h
  · next url hurl => exact accept_keeps hP name ⟨location, hurl⟩ h

theorem followNested_keeps (hP : KeptByInsert P) (name : String) (location : List Char)
    (h : P s.found) : P (d.followNested name s location).found := by
  unfold Discoverer.followNested
  have hload : P (d.load s (String.ofList location)).1.found := h
  split
  · next s' cause hs => rwa [hs] at hload
  · next s' document hs =>
    rw [hs] at hload
    exact acceptLocations_keeps hP name _ hload

theorem readListing_keeps (hP : KeptByInsert P) (source : Source) (h : P s.found) :
    P (d.readListing source s).1.found := by
  unfold Discoverer.readListing
  have hload : P (d.load s source.url).1.found := h
  split
  · next s' cause hs => rwa [hs] at hload
  · next s' document hs =>
    rw [hs] at hload
    exact foldl_keeps (fun s location _ => followNested_keeps hP source.name location)
      (acceptLocations_keeps hP source.name _ hload)

theorem canonical_of_link {href : List Char} {base : Url} {c : CanonicalUrl}
    (h : normalizeLink href base = some c) : c.IsCanonical := by
  unfold normalizeLink at h
  simp only at h
  split_ifs at h
  split at h
  · cases h
  · next u _ =>
    cases hc : CanonicalUrl.normalize u.text with
    | error cause => rw [hc] at h; cases h
    | ok c' => rw [hc] at h; cases h; exact ⟨u.text, hc⟩

theorem canonical_of_mem_links {markup : List Char} {base : Url} {selector : Selectors}
    {c : CanonicalUrl} (h : c ∈ (readCategoryPage markup base selector).links) :
    c.IsCanonical := by
  obtain ⟨p, -, hp⟩ := List.mem_filterMap.mp h
  obtain ⟨href, -, hlink⟩ := Option.bind_eq_some_iff.mp hp
  exact canonical_of_link hlink

theorem walk_keeps (hP : KeptByInsert P) (name : String) (left : Nat) (visited : List (List Char))
    (url : Url) (h : P s.found) : P (d.walk name left visited url s).1.found := by
  induction left generalizing visited url s with
  | zero => exact h
  | succ left ih =>
    rw [Discoverer.walk]
    split
    · exact h
    have hload : P (d.load s (String.ofList url.text)).1.found := h
    split
    · next s' cause hs => rwa [hs] at hload
    · next s' body hs =>
      rw [hs] at hload
      have hlinks : P ((readCategoryPage body.toList url d.nextSelector).links.foldl
          (d.accept name) s').found :=
        foldl_keeps (fun s c hc => accept_keeps hP name (canonical_of_mem_links hc)) hload
      simp only
      split
      · exact hlinks
      · exact ih _ _ hlinks

theorem readSource_keeps (hP : KeptByInsert P) (source : Source) (h : P s.found) :
    P (d.readSource source s).1.found := by
  unfold Discoverer.readSource
  split
  · exact readListing_keeps hP source h
  · unfold Discoverer.readCategory
    split
    · exact h
    · exact walk_keeps hP _ _ _ _ h

theorem readSources_keeps (hP : KeptByInsert P) (sources : List Source) (h : P s.found) :
    P (d.readSources sources s).1.found := by
  induction sources generalizing s with
  | nil => exact h
  | cons source rest ih =>
    have hsource := readSource_keeps (d := d) hP source h
    rw [Discoverer.readSources]
    split
    · next s' _ hs => rw [hs] at hsource; exact ih hsource
    · next s' _ hs => rw [hs] at hsource; exact ih hsource

end Kept

/-- Entries as discovery makes them: each address is canonical, has its own article id beside it and
comes once. -/
structure AreFound (entries : List FrontierEntry) : Prop where
  distinct : (entries.map (·.url)).Nodup
  canonical : ∀ e ∈ entries, e.url.IsCanonical
  numbered : ∀ e ∈ entries, e.articleId = e.url.articleId

theorem found_insert : KeptByInsert fun f => AreFound f.entries := by
  intro f url name h hurl
  refine ⟨distinct_insert name h.distinct, fun e he => ?_, fun e he => ?_⟩
  · rcases (mem_insert name e).mp he with hold | ⟨-, rfl, -⟩
    · exact h.canonical e hold
    · exact hurl
  · rcases (mem_insert name e).mp he with hold | ⟨-, -, hnew⟩
    · exact h.numbered e hold
    · rw [hnew]
      rfl

/-- Whatever the site answers, a frontier that discovery builds is made of found entries. -/
theorem found_of_build {d : Discoverer} {sources : List Source} {c : Client}
    {entries : List FrontierEntry} (h : (d.build sources c).2 = .ok entries) : AreFound entries := by
  have hkept : AreFound (d.readSources sources ⟨c, .empty⟩).1.found.entries :=
    readSources_keeps found_insert sources ⟨by simp [DiscoveredSet.empty], by simp [DiscoveredSet.empty],
      by simp [DiscoveredSet.empty]⟩
  unfold Discoverer.build at h
  simp only at h
  split at h
  · cases h
  · cases h
    have hperm := sortFrontier_perm (d.readSources sources ⟨c, .empty⟩).1.found.entries
    exact ⟨(hperm.map _).nodup_iff.mpr hkept.distinct, fun e he => hkept.canonical e (hperm.mem_iff.mp he),
      fun e he => hkept.numbered e (hperm.mem_iff.mp he)⟩

end Archiver
