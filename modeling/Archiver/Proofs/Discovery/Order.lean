import Mathlib.Data.List.Nodup
import Mathlib.Data.String.Basic
import Archiver.Discovery.Frontier

namespace Archiver

variable {a b : FrontierEntry} {entries entries' : List FrontierEntry}

/-- The order of a frontier: articles with an id stand in front of those without, the highest id
foremost, and otherwise the address decides. -/
inductive FrontierEntry.Precedes (a b : FrontierEntry) : Prop
  | higherId {i j : Nat} (ha : a.articleId = some i) (hb : b.articleId = some j) (hlt : j < i)
  | sameId {i : Nat} (ha : a.articleId = some i) (hb : b.articleId = some i)
      (hlt : a.url.text < b.url.text)
  | onlyId {i : Nat} (ha : a.articleId = some i) (hb : b.articleId = none)
  | noId (ha : a.articleId = none) (hb : b.articleId = none) (hlt : a.url.text < b.url.text)

theorem not_text_lt_iff : (!decide (b.url.text < a.url.text)) = true ↔ a.url.text ≤ b.url.text := by
  rw [Bool.not_eq_true', decide_eq_false_iff_not, not_lt]

theorem notAfter_of_ids {i j : Nat} (ha : a.articleId = some i) (hb : b.articleId = some j) :
    a.notAfter b = true ↔ j < i ∨ i = j ∧ a.url.text ≤ b.url.text := by
  simp only [FrontierEntry.notAfter, ha, hb, Bool.or_eq_true, Bool.and_eq_true, beq_iff_eq,
    decide_eq_true_eq, gt_iff_lt, not_text_lt_iff]

theorem notAfter_of_none (ha : a.articleId = none) (hb : b.articleId = none) :
    a.notAfter b = true ↔ a.url.text ≤ b.url.text := by
  simp only [FrontierEntry.notAfter, ha, hb, not_text_lt_iff]

theorem notAfter_id_none {i : Nat} (ha : a.articleId = some i) (hb : b.articleId = none) :
    a.notAfter b = true := by
  rw [FrontierEntry.notAfter, ha, hb]

theorem not_notAfter_none_id {j : Nat} (ha : a.articleId = none) (hb : b.articleId = some j) :
    a.notAfter b = false := by
  rw [FrontierEntry.notAfter, ha, hb]

theorem notAfter_total (a b : FrontierEntry) : (a.notAfter b || b.notAfter a) = true := by
  rw [Bool.or_eq_true]
  cases ha : a.articleId with
  | none =>
    cases hb : b.articleId with
    | none => rw [notAfter_of_none ha hb, notAfter_of_none hb ha]; exact le_total _ _
    | some j => exact Or.inr (notAfter_id_none hb ha)
  | some i =>
    cases hb : b.articleId with
    | none => exact Or.inl (notAfter_id_none ha hb)
    | some j =>
      rw [notAfter_of_ids ha hb, notAfter_of_ids hb ha]
      rcases Nat.lt_trichotomy i j with hlt | rfl | hlt
      · exact Or.inr (Or.inl hlt)
      · exact (le_total a.url.text b.url.text).imp (fun h => Or.inr ⟨rfl, h⟩) fun h => Or.inr ⟨rfl, h⟩
      · exact Or.inl (Or.inl hlt)

theorem notAfter_trans (a b c : FrontierEntry) (hab : a.notAfter b = true)
    (hbc : b.notAfter c = true) : a.notAfter c = true := by
  cases ha : a.articleId with
  | none =>
    cases hb : b.articleId with
    | some j => rw [not_notAfter_none_id ha hb] at hab; cases hab
    | none =>
      cases hc : c.articleId with
      | some k => rw [not_notAfter_none_id hb hc] at hbc; cases hbc
      | none =>
        rw [notAfter_of_none ha hb] at hab
        rw [notAfter_of_none hb hc] at hbc
        exact (notAfter_of_none ha hc).mpr (hab.trans hbc)
  | some i =>
    cases hc : c.articleId with
    | none => exact notAfter_id_none ha hc
    | some k =>
      cases hb : b.articleId with
      | none => rw [not_notAfter_none_id hb hc] at hbc; cases hbc
      | some j =>
        rw [notAfter_of_ids ha hb] at hab
        rw [notAfter_of_ids hb hc] at hbc
        rw [notAfter_of_ids ha hc]
        rcases hab with hab | ⟨rfl, hab⟩
        · rcases hbc with hbc | ⟨rfl, -⟩
          · exact Or.inl (hbc.trans hab)
          · exact Or.inl hab
        · rcases hbc with hbc | ⟨rfl, hbc⟩
          · exact Or.inl hbc
          · exact Or.inr ⟨rfl, hab.trans hbc⟩

theorem precedes_of_notAfter (hab : a.notAfter b = true) (hne : a.url ≠ b.url) : a.Precedes b := by
  have hlt : a.url.text ≤ b.url.text → a.url.text < b.url.text := fun hle =>
    lt_of_le_of_ne hle fun heq => hne (congrArg CanonicalUrl.mk heq)
  cases ha : a.articleId with
  | none =>
    cases hb : b.articleId with
    | none => exact .noId ha hb (hlt ((notAfter_of_none ha hb).mp hab))
    | some j => rw [not_notAfter_none_id ha hb] at hab; cases hab
  | some i =>
    cases hb : b.articleId with
    | none => exact .onlyId ha hb
    | some j =>
      rcases (notAfter_of_ids ha hb).mp hab with hid | ⟨rfl, hle⟩
      · exact .higherId ha hb hid
      · exact .sameId ha hb (hlt hle)

theorem precedes_asymm (hab : a.Precedes b) (hba : b.Precedes a) : False := by
  have hids : ∀ {i j : Nat} {e : FrontierEntry}, e.articleId = some i → e.articleId = some j →
      i = j := fun hi hj => Option.some.inj (hi.symm.trans hj)
  cases hab with
  | higherId ha hb hlt =>
    cases hba with
    | higherId hb' ha' hlt' => have := hids ha ha'; have := hids hb hb'; omega
    | sameId hb' ha' => have := hids ha ha'; have := hids hb hb'; omega
    | onlyId _ ha' => cases ha.symm.trans ha'
    | noId _ ha' => cases ha.symm.trans ha'
  | sameId ha hb hlt =>
    cases hba with
    | higherId hb' ha' hlt' => have := hids ha ha'; have := hids hb hb'; omega
    | sameId _ _ hlt' => exact lt_asymm hlt hlt'
    | onlyId _ ha' => cases ha.symm.trans ha'
    | noId _ ha' => cases ha.symm.trans ha'
  | onlyId ha hb =>
    cases hba with
    | higherId hb' | sameId hb' | onlyId hb' => cases hb.symm.trans hb'
    | noId _ ha' => cases ha.symm.trans ha'
  | noId ha hb hlt =>
    cases hba with
    | higherId hb' | sameId hb' | onlyId hb' => cases hb.symm.trans hb'
    | noId _ _ hlt' => exact lt_asymm hlt hlt'

theorem sortFrontier_perm (entries : List FrontierEntry) : (sortFrontier entries).Perm entries :=
  List.mergeSort_perm _ _

/-- Entries of distinct addresses are put in the order of a frontier. -/
theorem sortFrontier_precedes (hn : (entries.map (·.url)).Nodup) :
    (sortFrontier entries).Pairwise FrontierEntry.Precedes := by
  have hsorted : (sortFrontier entries).Pairwise fun a b => a.notAfter b = true :=
    List.pairwise_mergeSort notAfter_trans notAfter_total entries
  have hdistinct : ((sortFrontier entries).map (·.url)).Nodup :=
    ((sortFrontier_perm entries).map _).nodup_iff.mpr hn
  exact (hsorted.and (List.pairwise_map.mp hdistinct)).imp fun h => precedes_of_notAfter h.1 h.2

/-- Entries of distinct addresses have one order only. -/
theorem sortFrontier_eq (hn : (entries.map (·.url)).Nodup) (hp : entries.Perm entries') :
    sortFrontier entries = sortFrontier entries' := by
  have hperm := ((sortFrontier_perm entries).trans hp).trans (sortFrontier_perm entries').symm
  have hn' : (entries'.map (·.url)).Nodup := (hp.map _).nodup_iff.mp hn
  refine hperm.eq_of_pairwise ?_ (sortFrontier_precedes hn) (sortFrontier_precedes hn')
  intro a b _ _ hab hba
  exact (precedes_asymm hab hba).elim

end Archiver
