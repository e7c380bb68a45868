import Mathlib.Data.List.Dedup
import Mathlib.Data.List.Induction
import Mathlib.Data.List.Perm.Basic
import Archiver.Progress.Snapshot

namespace Archiver

theorem later_iff {a b : Timestamp} :
    a.later b = true ↔ b.seconds < a.seconds ∨ (a.seconds = b.seconds ∧ b.nanos < a.nanos) := by
  simp [Timestamp.later]

theorem not_later_trans {a b c : Timestamp} (hab : a.later b = false) (hbc : b.later c = false) :
    a.later c = false := by
  rw [← Bool.not_eq_true, later_iff] at *
  omega

theorem later_asymm {a b : Timestamp} (h : a.later b = true) : b.later a = false := by
  rw [← Bool.not_eq_true]
  rw [later_iff] at *
  omega

theorem later_self (a : Timestamp) : a.later a = false := by
  rw [← Bool.not_eq_true, later_iff]
  omega

theorem later_of_ne {a b : Timestamp} (h : a.later b = false) (hne : a ≠ b) : b.later a = true := by
  cases a
  cases b
  rw [← Bool.not_eq_true, later_iff] at h
  rw [later_iff]
  simp only [ne_eq, Timestamp.mk.injEq] at *
  omega

/-- The latest of its URL among records in the order of a log: none before it is later, and all after
it are earlier. -/
def IsLatest (records : List ProgressRecord) (r : ProgressRecord) : Prop :=
  ∃ before after, records = before ++ r :: after ∧
    (∀ x ∈ before, x.url = r.url → x.timestamp.later r.timestamp = false) ∧
    (∀ x ∈ after, x.url = r.url → r.timestamp.later x.timestamp = true)

variable {records : List ProgressRecord} {r x : ProgressRecord} {url : CanonicalUrl}

theorem IsLatest.mem (h : IsLatest records r) : r ∈ records := by
  obtain ⟨before, after, rfl, -, -⟩ := h
  exact List.mem_append_right _ List.mem_cons_self

theorem IsLatest.not_later (h : IsLatest records r) (hx : x ∈ records) (hurl : x.url = r.url) :
    x.timestamp.later r.timestamp = false := by
  obtain ⟨before, after, rfl, hbefore, hafter⟩ := h
  rcases List.mem_append.mp hx with hx | hx
  · exact hbefore x hx hurl
  rcases List.mem_cons.mp hx with rfl | hx
  · exact later_self _
  · exact later_asymm (hafter x hx hurl)

/-- A record that is appended is the latest unless an older one is later. -/
theorem isLatest_concat : IsLatest (records ++ [x]) r ↔
    (IsLatest records r ∧ (x.url = r.url → r.timestamp.later x.timestamp = true)) ∨
      (r = x ∧ ∀ y ∈ records, y.url = x.url → y.timestamp.later x.timestamp = false) := by
  constructor
  · rintro ⟨before, after, hsplit, hbefore, hafter⟩
    rcases List.eq_nil_or_concat after with rfl | ⟨front, last, rfl⟩
    · obtain ⟨rfl, hlast⟩ := List.append_inj' hsplit rfl
      obtain rfl : x = r := List.singleton_inj.mp hlast
      exact Or.inr ⟨rfl, hbefore⟩
    · rw [List.concat_eq_append, ← List.cons_append, ← List.append_assoc] at hsplit
      obtain ⟨rfl, hlast⟩ := List.append_inj' hsplit rfl
      obtain rfl : x = last := List.singleton_inj.mp hlast
      refine Or.inl ⟨⟨before, front, rfl, hbefore, ?_⟩, hafter x (by simp)⟩
      intro y hy
      exact hafter y (by simp [hy])
  · rintro (⟨⟨before, after, rfl, hbefore, hafter⟩, hx⟩ | ⟨rfl, hbefore⟩)
    · refine ⟨before, after ++ [x], by simp, hbefore, ?_⟩
      intro y hy
      rcases List.mem_append.mp hy with hy | hy
      · exact hafter y hy
      · rw [List.mem_singleton.mp hy]
        exact hx
    · exact ⟨records, [], rfl, hbefore, fun y hy => absurd hy List.not_mem_nil⟩

/-- Where no two records of a URL have one time, the order of the log does not matter. -/
theorem isLatest_iff (hd : records.Pairwise fun a b => a.url = b.url → a.timestamp ≠ b.timestamp) :
    IsLatest records r ↔
      r ∈ records ∧ ∀ x ∈ records, x.url = r.url → x.timestamp.later r.timestamp = false := by
  constructor
  · exact fun h => ⟨h.mem, fun x hx hurl => h.not_later hx hurl⟩
  · rintro ⟨hr, hmost⟩
    obtain ⟨before, after, rfl⟩ := List.append_of_mem hr
    refine ⟨before, after, rfl, fun x hx => hmost x (List.mem_append_left _ hx), ?_⟩
    intro x hx hurl
    have hlater := hmost x (List.mem_append_right _ (List.mem_cons_of_mem _ hx)) hurl
    have hafter := (List.pairwise_append.mp hd).2.1
    have hne := (List.pairwise_cons.mp hafter).1 x hx hurl.symm
    exact later_of_ne hlater hne.symm

/-- Taking records of which no two of a URL have one time in another order changes no latest one. -/
theorem isLatest_perm {records' : List ProgressRecord} (hp : records.Perm records')
    (hd : records.Pairwise fun a b => a.url = b.url → a.timestamp ≠ b.timestamp) :
    IsLatest records r ↔ IsLatest records' r := by
  have hd' : records'.Pairwise fun a b => a.url = b.url → a.timestamp ≠ b.timestamp :=
    hp.pairwise hd fun h hurl => (h hurl.symm).symm
  rw [isLatest_iff hd, isLatest_iff hd']
  simp only [hp.mem_iff]

/-- A URL has at most one latest record. -/
theorem IsLatest.unique {r' : ProgressRecord} (h : IsLatest records r) (h' : IsLatest records r')
    (hurl : r.url = r'.url) : r = r' := by
  induction records using List.reverseRecOn with
  | nil => exact absurd h.mem List.not_mem_nil
  | append_singleton records x ih =>
    rcases isLatest_concat.mp h with ⟨hr, hx⟩ | ⟨rfl, hall⟩ <;>
      rcases isLatest_concat.mp h' with ⟨hr', hx'⟩ | ⟨rfl, hall'⟩
    · exact ih hr hr'
    · have hnot := hall' r hr.mem hurl
      rw [hx hurl.symm] at hnot
      cases hnot
    · have hnot := hall r' hr'.mem hurl.symm
      rw [hx' hurl] at hnot
      cases hnot
    · rfl

/-- Where records of distinct URLs follow that are no earlier than those before, each is the latest of
its URL, and of other URLs the latest stays. -/
theorem isLatest_append {old new : List ProgressRecord} (hn : (new.map (·.url)).Nodup)
    (ht : ∀ x ∈ old, ∀ y ∈ new, x.timestamp.later y.timestamp = false) :
    IsLatest (old ++ new) r ↔ r ∈ new ∨ IsLatest old r ∧ r.url ∉ new.map (·.url) := by
  induction new using List.reverseRecOn with
  | nil => simp
  | append_singleton new x ih =>
    rw [List.map_append, List.map_singleton, List.nodup_append] at hn
    have hx : ∀ y ∈ new, y.url ≠ x.url := fun y hy =>
      hn.2.2 _ (List.mem_map_of_mem hy) _ (List.mem_singleton_self _)
    have hold : ∀ y ∈ old, y.timestamp.later x.timestamp = false := fun y hy =>
      ht y hy x (List.mem_append_right _ (List.mem_singleton_self x))
    rw [← List.append_assoc, isLatest_concat,
      ih hn.1 fun y hy z hz => ht y hy z (List.mem_append_left _ hz)]
    simp only [List.map_append, List.map_singleton, List.mem_append, List.mem_singleton, not_or]
    constructor
    · rintro (⟨hr | ⟨hr, hnew⟩, hlater⟩ | ⟨rfl, -⟩)
      · exact Or.inl (Or.inl hr)
      · refine Or.inr ⟨hr, hnew, fun hurl => ?_⟩
        rw [hold r hr.mem] at hlater
        cases hlater hurl.symm
      · exact Or.inl (Or.inr rfl)
    · rintro ((hr | rfl) | ⟨hr, hnew, hne⟩)
      · exact Or.inl ⟨Or.inl hr, fun hurl => absurd hurl.symm (hx r hr)⟩
      · refine Or.inr ⟨rfl, fun y hy hurl => ?_⟩
        exact hy.elim (hold y) fun hy => absurd hurl (hx y hy)
      · exact Or.inl ⟨Or.inr ⟨hr, hnew⟩, fun hurl => absurd hurl.symm hne⟩

/-- The record that a list of records keeps of a URL. -/
def latestOf (records : List ProgressRecord) (url : CanonicalUrl) : Option ProgressRecord :=
  records.find? fun r => r.url == url

theorem latestOf_url (h : latestOf records url = some r) : r.url = url := by
  simpa using List.find?_some h

/-- A record takes the place of the one before it, unless that one is later. -/
theorem latestOf_remember (records : List ProgressRecord) (r : ProgressRecord) (url : CanonicalUrl) :
    latestOf (remember records r) url =
      if r.url = url then
        some (match latestOf records url with
          | some old => if old.timestamp.later r.timestamp then old else r
          | none => r)
      else latestOf records url := by
  unfold latestOf
  induction records with
  | nil => by_cases hu : r.url = url <;> simp [remember, hu]
  | cons old rest ih =>
    by_cases ho : old.url = r.url
    · by_cases hl : old.timestamp.later r.timestamp = true <;> by_cases hu : r.url = url <;>
        simp [remember, ho, hl, hu]
    · rw [remember, if_neg ho, List.find?_cons, List.find?_cons, ih]
      by_cases hold : old.url = url
      · have hu : r.url ≠ url := fun h => ho (hold.trans h.symm)
        simp only [hold, beq_self_eq_true, if_neg hu]
      · rw [beq_false_of_ne hold]

/-- Taking records one after the other keeps the latest of each URL that has one. -/
theorem latestOf_foldl_cases (records : List ProgressRecord) (url : CanonicalUrl) :
    (latestOf (records.foldl remember []) url = none ∧ ∀ y ∈ records, y.url ≠ url) ∨
      ∃ r, latestOf (records.foldl remember []) url = some r ∧ IsLatest records r := by
  induction records using List.reverseRecOn with
  | nil => exact Or.inl ⟨rfl, fun y hy => absurd hy List.not_mem_nil⟩
  | append_singleton records x ih =>
    rw [List.foldl_append, List.foldl_cons, List.foldl_nil, latestOf_remember]
    by_cases hx : x.url = url
    · rw [if_pos hx]
      right
      rcases ih with ⟨hnone, hno⟩ | ⟨old, hold, hlatest⟩
      · rw [hnone]
        exact ⟨x, rfl, isLatest_concat.mpr (Or.inr ⟨rfl, fun y hy h => absurd (h.trans hx) (hno y hy)⟩)⟩
      · have hurl : old.url = x.url := (latestOf_url hold).trans hx.symm
        rw [hold]
        cases hlater : old.timestamp.later x.timestamp with
        | true => exact ⟨old, by simp [hlater], isLatest_concat.mpr (Or.inl ⟨hlatest, fun _ => hlater⟩)⟩
        | false =>
          refine ⟨x, by simp [hlater], isLatest_concat.mpr (Or.inr ⟨rfl, ?_⟩)⟩
          intro y hy h
          exact not_later_trans (hlatest.not_later hy (h.trans hurl.symm)) hlater
    · rw [if_neg hx]
      refine ih.imp ?_ ?_
      · rintro ⟨hnone, hno⟩
        exact ⟨hnone, List.forall_mem_append.mpr ⟨hno, List.forall_mem_singleton.mpr hx⟩⟩
      · rintro ⟨r, hr, hlatest⟩
        have hne : x.url ≠ r.url := fun h => hx (h.trans (latestOf_url hr))
        exact ⟨r, hr, isLatest_concat.mpr (Or.inl ⟨hlatest, fun h => absurd h hne⟩)⟩

theorem latestOf_foldl : latestOf (records.foldl remember []) url = some r ↔
    r.url = url ∧ IsLatest records r := by
  rcases latestOf_foldl_cases records url with ⟨hnone, hno⟩ | ⟨old, hold, hlatest⟩
  · rw [hnone]
    refine iff_of_false (Option.some_ne_none r).symm ?_
    rintro ⟨hurl, hr⟩
    exact hno r hr.mem hurl
  · rw [hold]
    constructor
    · intro h
      cases h
      exact ⟨latestOf_url hold, hlatest⟩
    · rintro ⟨hurl, hr⟩
      rw [hlatest.unique hr ((latestOf_url hold).trans hurl.symm)]

theorem latestOf_foldl_eq_none : latestOf (records.foldl remember []) url = none ↔
    url ∉ records.map (·.url) := by
  rcases latestOf_foldl_cases records url with ⟨hnone, hno⟩ | ⟨old, hold, hlatest⟩
  · refine iff_of_true hnone ?_
    rintro hmem
    obtain ⟨y, hy, hurl⟩ := List.mem_map.mp hmem
    exact hno y hy hurl
  · rw [hold]
    refine iff_of_false (Option.some_ne_none old) fun hnot => hnot ?_
    exact latestOf_url hold ▸ List.mem_map_of_mem hlatest.mem

theorem urls_remember (records : List ProgressRecord) (r : ProgressRecord) :
    (remember records r).map (·.url) =
      if r.url ∈ records.map (·.url) then records.map (·.url)
      else records.map (·.url) ++ [r.url] := by
  induction records with
  | nil => simp [remember]
  | cons old rest ih =>
    rw [remember]
    split
    · next h => cases hl : old.timestamp.later r.timestamp <;> simp [h]
    · next h =>
      simp only [List.map_cons, ih, List.mem_cons, Ne.symm h, false_or]
      split <;> simp

/-- A list that has taken records holds one of each URL. -/
theorem nodup_urls_foldl (records : List ProgressRecord) :
    ((records.foldl remember []).map (·.url)).Nodup := by
  induction records using List.reverseRecOn with
  | nil => exact List.nodup_nil
  | append_singleton records x ih =>
    rw [List.foldl_append, List.foldl_cons, List.foldl_nil, urls_remember]
    split
    · exact ih
    · next h => exact List.nodup_append.mpr ⟨ih, List.nodup_singleton _, by
        rintro a ha b hb rfl
        exact h (List.mem_singleton.mp hb ▸ ha)⟩

theorem mem_urls_foldl (records : List ProgressRecord) (url : CanonicalUrl) :
    url ∈ (records.foldl remember []).map (·.url) ↔ url ∈ records.map (·.url) := by
  have hfound : latestOf (records.foldl remember []) url = none ↔
      url ∉ (records.foldl remember []).map (·.url) := by
    simp [latestOf, List.find?_eq_none]
  rw [← not_iff_not, ← hfound, latestOf_foldl_eq_none]

theorem mem_iff_latestOf (hn : (records.map (·.url)).Nodup) :
    r ∈ records ↔ latestOf records r.url = some r := by
  constructor
  · intro hr
    cases hfound : latestOf records r.url with
    | none => exact absurd (List.find?_eq_none.mp hfound r hr) (by simp)
    | some old =>
      have hold : old ∈ records := List.mem_of_find?_eq_some hfound
      rw [List.inj_on_of_nodup_map hn hold hr (latestOf_url hfound)]
  · exact List.mem_of_find?_eq_some

theorem length_eq_outcomes (records : List ProgressRecord) :
    records.length = records.countP (·.outcome == .success) +
      records.countP (·.outcome == .failure) + records.countP (·.outcome == .skipped) := by
  induction records with
  | nil => rfl
  | cons record records ih =>
    simp only [List.length_cons, List.countP_cons, ih]
    cases record.outcome <;> simp <;> omega

/-- What a snapshot says of the records that it has taken. -/
structure Snapshot.Tells (s : Snapshot) (records : List ProgressRecord) : Prop where
  latest : ∀ url r, s.latest? url = some r ↔ r.url = url ∧ IsLatest records r
  unknown : ∀ url, s.latest? url = none ↔ url ∉ records.map (·.url)
  done : ∀ url, s.isDone url = true ↔ ∃ r, s.latest? url = some r ∧ r.outcome = .success
  size : s.size = (records.map (·.url)).dedup.length
  total : s.counts.total = s.size
  unfinished : ∀ r, r ∈ s.unfinished ↔ s.latest? r.url = some r ∧ s.isDone r.url = false
  ascending : s.unfinished.Pairwise fun a b => a.url.text < b.url.text

theorem isSuccess_iff : r.isSuccess = true ↔ r.outcome = .success := by
  rw [ProgressRecord.isSuccess]
  cases r.outcome <;> decide

theorem isDone_of_latest {s : Snapshot} (h : s.latest? url = some r) :
    s.isDone url = r.isSuccess := by
  rw [Snapshot.isDone, h, Option.any_some]

theorem mem_unfinished {s : Snapshot} (hn : (s.records.map (·.url)).Nodup) :
    r ∈ s.unfinished ↔ s.latest? r.url = some r ∧ s.isDone r.url = false := by
  rw [Snapshot.unfinished, List.mem_mergeSort, List.mem_filter, mem_iff_latestOf hn]
  refine and_congr_right fun hr => ?_
  rw [isDone_of_latest hr, Bool.not_eq_true']

/-- The unfinished URLs are ascending, and none comes twice. -/
theorem unfinished_ascending {s : Snapshot} (hn : (s.records.map (·.url)).Nodup) :
    s.unfinished.Pairwise fun a b => a.url.text < b.url.text := by
  have hperm := List.mergeSort_perm (s.records.filter fun r => !r.isSuccess)
    fun a b => a.url.text ≤ b.url.text
  have hle : s.unfinished.Pairwise fun a b => decide (a.url.text ≤ b.url.text) = true := by
    refine List.pairwise_mergeSort ?_ ?_ _
    · intro a b c hab hbc
      simp only [decide_eq_true_eq] at *
      exact String.le_trans hab hbc
    · intro a b
      simpa using String.le_total a.url.text b.url.text
  have hdistinct : (s.unfinished.map (·.url)).Nodup :=
    (hperm.map _).nodup_iff.mpr (hn.sublist (List.filter_sublist.map _))
  have hne := List.pairwise_map.mp hdistinct
  refine (hle.and hne).imp ?_
  rintro a b ⟨hab, hurl⟩
  have htext : a.url.text ≠ b.url.text := fun h => hurl (congrArg CanonicalUrl.mk h)
  exact Std.lt_of_le_of_ne (of_decide_eq_true hab) htext

theorem tells_foldl (records : List ProgressRecord) (discarded : Nat) :
    (Snapshot.mk (records.foldl remember []) discarded).Tells records := by
  have hn := nodup_urls_foldl records
  constructor
  case latest => exact fun url r => latestOf_foldl
  case unknown => exact fun url => latestOf_foldl_eq_none
  case done =>
    intro url
    rw [Snapshot.isDone, Option.any_eq_true]
    simp only [isSuccess_iff]
  case size =>
    have hsame : ((records.foldl remember []).map (·.url)).Perm (records.map (·.url)).dedup := by
      rw [List.perm_ext_iff_of_nodup hn (List.nodup_dedup _)]
      intro url
      rw [List.mem_dedup, mem_urls_foldl]
    rw [Snapshot.size, ← hsame.length_eq, List.length_map]
  case total => exact (length_eq_outcomes _).symm
  case unfinished => exact fun r => mem_unfinished hn
  case ascending => exact unfinished_ascending hn

end Archiver
