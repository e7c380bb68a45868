import Archiver.Proofs.Discovery.Gains
import Archiver.Proofs.Discovery.Order

namespace Archiver

/-- The entries of addresses, each with the source that names it. -/
def foundEntries (finds : List (CanonicalUrl × String)) : List FrontierEntry :=
  finds.map fun find => FrontierEntry.of find.1 find.2

/-- Enters addresses one after the other, each under the source that names it. -/
def DiscoveredSet.insertAll (s : DiscoveredSet) (finds : List (CanonicalUrl × String)) :
    DiscoveredSet :=
  finds.foldl (fun s find => s.insert find.1 find.2) s

/-- Of two addresses with an article id the first has the higher one, or both have one id and the
texts of the addresses ascend. -/
def IdsDescend (a b : FrontierEntry) : Prop :=
  ∃ i j, a.url.articleId = some i ∧ b.url.articleId = some j ∧
    (j < i ∨ i = j ∧ a.url.text ≤ b.url.text)

/-- The two parts of a frontier: by descending ids where there are ids, by ascending addresses where
there are none. -/
structure AreFrontierParts (numbered unnumbered : List FrontierEntry) : Prop where
  ids : ∀ e ∈ numbered, e.url.articleId.isSome = true
  descending : numbered.Pairwise IdsDescend
  noIds : ∀ e ∈ unnumbered, e.url.articleId = none
  ascending : unnumbered.Pairwise fun a b => a.url.text ≤ b.url.text

section Parts

variable {a b : FrontierEntry} {entries : List FrontierEntry}

theorem numbered_of_mem_foundEntries {finds : List (CanonicalUrl × String)}
    (h : a ∈ foundEntries finds) :
    a.articleId = a.url.articleId := by
  obtain ⟨find, -, rfl⟩ := List.mem_map.mp h
  rfl

/-- Of two entries of distinct addresses just one precedes the other. -/
theorem precedes_iff_not (hne : a.url ≠ b.url) : a.Precedes b ↔ ¬ b.Precedes a := by
  refine ⟨fun hab hba => precedes_asymm hab hba, fun hnot => ?_⟩
  rcases Bool.or_eq_true _ _ ▸ notAfter_total a b with hab | hba
  · exact precedes_of_notAfter hab hne
  · exact absurd (precedes_of_notAfter hba hne.symm) hnot

/-- No entry with an id stands behind one without, so entries that are in order fall into two
parts. -/
theorem parts_of_ordered (hids : ∀ e ∈ entries, e.articleId = e.url.articleId)
    (hordered : entries.Pairwise fun a b => a.notAfter b = true) :
    ∃ numbered unnumbered, entries = numbered ++ unnumbered ∧
      AreFrontierParts numbered unnumbered := by
  induction entries with
  | nil => exact ⟨[], [], rfl, by simp, .nil, by simp, .nil⟩
  | cons e rest ih =>
    obtain ⟨hfirst, hrest⟩ := List.pairwise_cons.mp hordered
    have hid := hids e List.mem_cons_self
    obtain ⟨numbered, unnumbered, rfl, hparts⟩ :=
      ih (fun e he => hids e (List.mem_cons_of_mem _ he)) hrest
    have hbehind : ∀ b ∈ numbered ++ unnumbered, b.articleId = b.url.articleId := fun b hb =>
      hids b (List.mem_cons_of_mem _ hb)
    cases hurl : e.url.articleId with
    | none =>
      -- an entry without an id lets none with an id stand behind it
      have hnone : numbered = [] := List.eq_nil_iff_forall_not_mem.mpr fun b hb => by
        have hmem := List.mem_append_left unnumbered hb
        obtain ⟨j, hj⟩ := Option.isSome_iff_exists.mp (hparts.ids b hb)
        have hnot := not_notAfter_none_id (hid.trans hurl) ((hbehind b hmem).trans hj)
        rw [hfirst b hmem] at hnot
        cases hnot
      subst hnone
      refine ⟨[], e :: unnumbered, rfl, by simp, .nil, ?_, ?_⟩
      · exact List.forall_mem_cons.mpr ⟨hurl, hparts.noIds⟩
      · refine List.pairwise_cons.mpr ⟨fun b hb => ?_, hparts.ascending⟩
        have hb' := (hbehind b hb).trans (hparts.noIds b hb)
        exact (notAfter_of_none (hid.trans hurl) hb').mp (hfirst b hb)
    | some i =>
      refine ⟨e :: numbered, unnumbered, rfl, ?_, ?_, hparts.noIds, hparts.ascending⟩
      · exact List.forall_mem_cons.mpr ⟨hurl ▸ rfl, hparts.ids⟩
      · refine List.pairwise_cons.mpr ⟨fun b hb => ?_, hparts.descending⟩
        have hmem := List.mem_append_left unnumbered hb
        obtain ⟨j, hj⟩ := Option.isSome_iff_exists.mp (hparts.ids b hb)
        have hb' := (hbehind b hmem).trans hj
        exact ⟨i, j, hurl, hj, (notAfter_of_ids (hid.trans hurl) hb').mp (hfirst b hmem)⟩

/-- A frontier of distinct addresses lists them in an order that the addresses alone decide. -/
theorem urls_sortFrontier_eq {entries' : List FrontierEntry}
    (hids : ∀ e ∈ entries, e.articleId = e.url.articleId)
    (hids' : ∀ e ∈ entries', e.articleId = e.url.articleId)
    (hn : (entries.map (·.url)).Nodup) (hp : (entries.map (·.url)).Perm (entries'.map (·.url))) :
    (sortFrontier entries).map (·.url) = (sortFrontier entries').map (·.url) := by
  have hordered : ∀ {entries : List FrontierEntry}, (entries.map (·.url)).Nodup →
      (∀ e ∈ entries, e.articleId = e.url.articleId) →
      ((sortFrontier entries).map (·.url)).Pairwise fun u v =>
        (FrontierEntry.of u "").Precedes (FrontierEntry.of v "") := by
    intro entries hn hids
    have hmem : ∀ e ∈ sortFrontier entries, e.articleId = e.url.articleId := fun e he =>
      hids e ((sortFrontier_perm entries).mem_iff.mp he)
    refine List.pairwise_map.mpr ((sortFrontier_precedes hn).imp_of_mem fun ha hb hab => ?_)
    have ha' := (hmem _ ha).symm
    have hb' := (hmem _ hb).symm
    cases hab with
    | higherId hi hj hlt => exact .higherId (ha'.trans hi) (hb'.trans hj) hlt
    | sameId hi hj hlt => exact .sameId (ha'.trans hi) (hb'.trans hj) hlt
    | onlyId hi hj => exact .onlyId (ha'.trans hi) (hb'.trans hj)
    | noId hi hj hlt => exact .noId (ha'.trans hi) (hb'.trans hj) hlt
  have hperm := (((sortFrontier_perm entries).map (·.url)).trans hp).trans
    ((sortFrontier_perm entries').map (·.url)).symm
  refine hperm.eq_of_pairwise ?_ (hordered hn hids) (hordered (hp.nodup_iff.mp hn) hids')
  exact fun _ _ _ _ hab hba => (precedes_asymm hab hba).elim

end Parts

section Entering

variable {s : DiscoveredSet} {url : CanonicalUrl} {finds finds' : List (CanonicalUrl × String)}

theorem contains_insert (name : String) (c : CanonicalUrl) :
    (s.insert url name).contains c = true ↔ s.contains c = true ∨ c = url := by
  simp only [contains_iff, mem_insert]
  constructor
  · rintro ⟨e, he | ⟨-, he, -⟩, rfl⟩
    · exact Or.inl ⟨e, he, rfl⟩
    · exact Or.inr he
  · intro h
    by_cases hold : s.contains c = true
    · obtain ⟨e, he, hurl⟩ := contains_iff.mp hold
      exact ⟨e, Or.inl he, hurl⟩
    · have hnew : s.contains c = false := by simpa using hold
      refine ⟨.of c name, Or.inr ⟨hnew, h.resolve_left fun hin => ?_, rfl⟩, rfl⟩
      exact hold (contains_iff.mpr hin)

/-- Each new address is entered under the first source that names it. -/
theorem mem_insertAll (e : FrontierEntry) : e ∈ (s.insertAll finds).entries ↔ e ∈ s.entries ∨
    s.contains e.url = false ∧ ∃ name, finds.lookup e.url = some name ∧
      e = FrontierEntry.of e.url name := by
  induction finds generalizing s with
  | nil => simp [DiscoveredSet.insertAll]
  | cons find rest ih =>
    obtain ⟨url, source⟩ := find
    have hrest := ih (s := s.insert url source)
    rw [← Bool.not_eq_true, contains_insert, mem_insert] at hrest
    rw [DiscoveredSet.insertAll, List.foldl_cons, ← DiscoveredSet.insertAll, hrest, List.lookup_cons,
      ← Bool.not_eq_true]
    by_cases hurl : e.url = url
    · subst hurl
      simp
    · simp [hurl, beq_false_of_ne hurl]

theorem distinct_insertAll (h : s.Distinct) : (s.insertAll finds).Distinct := by
  induction finds generalizing s with
  | nil => exact h
  | cons find rest ih => exact ih (distinct_insert find.2 h)

/-- From nothing, what is entered is what the first sources name. -/
theorem mem_insertAll_empty (e : FrontierEntry) : e ∈ (DiscoveredSet.empty.insertAll finds).entries ↔
    ∃ name, finds.lookup e.url = some name ∧ e = FrontierEntry.of e.url name := by
  simp [mem_insertAll, DiscoveredSet.empty, DiscoveredSet.contains]

theorem distinct_insertAll_empty (finds : List (CanonicalUrl × String)) :
    (DiscoveredSet.empty.insertAll finds).Distinct :=
  distinct_insertAll List.nodup_nil

theorem numbered_of_mem_insertAll {e : FrontierEntry}
    (h : e ∈ (DiscoveredSet.empty.insertAll finds).entries) : e.articleId = e.url.articleId := by
  obtain ⟨name, -, he⟩ := (mem_insertAll_empty e).mp h
  rw [he]
  rfl

theorem mem_urls_insertAll (url : CanonicalUrl) :
    url ∈ (DiscoveredSet.empty.insertAll finds).entries.map (·.url) ↔ url ∈ finds.map Prod.fst := by
  have hlookup : (∃ name, finds.lookup url = some name) ↔ url ∈ finds.map Prod.fst := by
    rw [← Option.isSome_iff_exists, List.lookup_isSome_iff]
    simp
  rw [← hlookup, List.mem_map]
  constructor
  · rintro ⟨e, he, rfl⟩
    obtain ⟨name, hname, -⟩ := (mem_insertAll_empty e).mp he
    exact ⟨name, hname⟩
  · rintro ⟨name, hname⟩
    exact ⟨.of url name, (mem_insertAll_empty _).mpr ⟨name, hname, rfl⟩, rfl⟩

/-- The first sources decide what is entered, whatever the order. -/
theorem entries_insertAll_perm (h : ∀ url, finds'.lookup url = finds.lookup url) :
    (DiscoveredSet.empty.insertAll finds').entries.Perm
      (DiscoveredSet.empty.insertAll finds).entries := by
  refine (List.perm_ext_iff_of_nodup (List.Nodup.of_map _ (distinct_insertAll_empty finds'))
    (List.Nodup.of_map _ (distinct_insertAll_empty finds))).mpr fun e => ?_
  rw [mem_insertAll_empty, mem_insertAll_empty, h]

/-- Where each address has one source, the sources are found in any order. -/
theorem lookup_eq_of_perm (hp : finds'.Perm finds)
    (hone : ∀ f ∈ finds, ∀ g ∈ finds, f.1 = g.1 → f = g) (url : CanonicalUrl) :
    finds'.lookup url = finds.lookup url := by
  have hiff : ∀ {l : List (CanonicalUrl × String)}, l.Perm finds →
      ∀ name, l.lookup url = some name ↔ (url, name) ∈ finds := by
    intro l hl name
    constructor
    · intro h
      obtain ⟨front, back, rfl, -⟩ := List.lookup_eq_some_iff.mp h
      exact hl.mem_iff.mp (by simp)
    · intro h
      have hsome : (l.lookup url).isSome = true :=
        List.lookup_isSome_iff.mpr ⟨_, hl.mem_iff.mpr h, by simp⟩
      obtain ⟨name', hname'⟩ := Option.isSome_iff_exists.mp hsome
      obtain ⟨front, back, rfl, -⟩ := List.lookup_eq_some_iff.mp hname'
      have hmem : (url, name') ∈ finds := hl.mem_iff.mp (by simp)
      exact hname'.trans (congrArg some (congrArg Prod.snd (hone _ hmem _ h rfl)))
  exact Option.ext fun name => (hiff hp name).trans (hiff (List.Perm.refl _) name).symm

end Entering

/-- Sorting keeps the entries and puts those with an id in front by descending ids, then the others by
ascending addresses; of two distinct addresses one comes first whatever else there is; and neither the
order in which the entries of distinct addresses come, nor the order in which a set gives its entries
out, nor the order in which they were entered shows in the frontier, the name of the source apart where
an address has several. -/
theorem sortFrontier_law (finds : List (CanonicalUrl × String)) :
    (sortFrontier (foundEntries finds)).Perm (foundEntries finds) ∧
    (∃ numbered unnumbered, sortFrontier (foundEntries finds) = numbered ++ unnumbered ∧
      AreFrontierParts numbered unnumbered) ∧
    (∀ a ∈ foundEntries finds, ∀ b ∈ foundEntries finds, a.url ≠ b.url →
      (a.Precedes b ↔ ¬ b.Precedes a)) ∧
    ((finds.map Prod.fst).Nodup → ∀ entries, entries.Perm (foundEntries finds) →
      sortFrontier entries = sortFrontier (foundEntries finds)) ∧
    (∀ entries, entries.Perm (DiscoveredSet.empty.insertAll finds).entries →
      sortFrontier entries = (DiscoveredSet.empty.insertAll finds).sorted) ∧
    (∀ finds', finds'.Perm finds → (∀ f ∈ finds, ∀ g ∈ finds, f.1 = g.1 → f = g) →
      (DiscoveredSet.empty.insertAll finds').sorted =
        (DiscoveredSet.empty.insertAll finds).sorted) ∧
    ∀ finds', (∀ url, url ∈ finds'.map Prod.fst ↔ url ∈ finds.map Prod.fst) →
      (DiscoveredSet.empty.insertAll finds').sorted.map (·.url) =
        (DiscoveredSet.empty.insertAll finds).sorted.map (·.url) := by
  have hperm := sortFrontier_perm (foundEntries finds)
  have hset : ∀ {entries}, entries.Perm (DiscoveredSet.empty.insertAll finds).entries →
      sortFrontier entries = (DiscoveredSet.empty.insertAll finds).sorted := fun hp =>
    (sortFrontier_eq (distinct_insertAll_empty finds) hp.symm).symm
  refine ⟨hperm, ?_, fun a _ b _ hne => precedes_iff_not hne, fun hn entries hp => ?_,
    fun entries hp => hset hp, fun finds' hp hone => ?_, fun finds' hsame => ?_⟩
  · exact parts_of_ordered (fun e he => numbered_of_mem_foundEntries (hperm.mem_iff.mp he))
      (List.pairwise_mergeSort notAfter_trans notAfter_total _)
  · have hurls : (foundEntries finds).map (·.url) = finds.map Prod.fst := by
      rw [foundEntries, List.map_map]
      rfl
    exact (sortFrontier_eq (hurls ▸ hn) hp.symm).symm
  · exact hset (entries_insertAll_perm (lookup_eq_of_perm hp hone))
  · refine urls_sortFrontier_eq (fun e he => numbered_of_mem_insertAll he)
      (fun e he => numbered_of_mem_insertAll he) (distinct_insertAll_empty finds') ?_
    refine (List.perm_ext_iff_of_nodup (distinct_insertAll_empty finds')
      (distinct_insertAll_empty finds)).mpr fun url => ?_
    rw [mem_urls_insertAll, mem_urls_insertAll, hsame]

/-- Addresses with an id of their own, with the same id twice, with digits too many for an id and with
a name. -/
def mixedFinds : List (CanonicalUrl × String) :=
  [(⟨"https://[::1]/n/news"⟩, "a"), (⟨"https://[::1]/n/7"⟩, "b"), (⟨"https://[::1]/n/12"⟩, "a"),
    (⟨"https://[::1]/n/18446744073709551616"⟩, "b"), (⟨"https://[::1]/n/007"⟩, "a")]

def mixedFrontier : List FrontierEntry :=
  [⟨⟨"https://[::1]/n/12"⟩, "a", some 12⟩, ⟨⟨"https://[::1]/n/007"⟩, "a", some 7⟩,
    ⟨⟨"https://[::1]/n/7"⟩, "b", some 7⟩, ⟨⟨"https://[::1]/n/18446744073709551616"⟩, "b", none⟩,
    ⟨⟨"https://[::1]/n/news"⟩, "a", none⟩]

/-- They come in one order, however they are listed and entered. -/
theorem sortFrontier_law_mixed :
    (mixedFinds.map Prod.fst).Nodup ∧ mixedFrontier.Perm (foundEntries mixedFinds) ∧
    sortFrontier (foundEntries mixedFinds) = mixedFrontier ∧
    (DiscoveredSet.empty.insertAll mixedFinds.reverse).sorted =
      (DiscoveredSet.empty.insertAll mixedFinds).sorted := by
  have hn : (mixedFinds.map Prod.fst).Nodup := by decide
  have hp : mixedFrontier.Perm (foundEntries mixedFinds) := by decide +kernel
  have hsorted : sortFrontier mixedFrontier = mixedFrontier :=
    List.mergeSort_of_pairwise (by decide)
  obtain ⟨-, -, -, horder, -, hentered, -⟩ := sortFrontier_law mixedFinds
  refine ⟨hn, hp, (horder hn _ hp).symm.trans hsorted, ?_⟩
  exact hentered _ (List.reverse_perm _) (by decide)

end Archiver
