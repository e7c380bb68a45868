import Archiver.Proofs.Text.Utf8
import Archiver.Proofs.Url.Input
import Archiver.Url.Percent

namespace Archiver

/-- A percent escape is left as it stands. -/
structure KeepsEscapes (keep : Char → Bool) : Prop where
  percent : keep '%' = true
  digit : ∀ n < 16, keep (upperHexDigit n) = true

theorem keepsEscapes_path : KeepsEscapes staysInPath := ⟨by decide, by decide⟩

theorem keepsEscapes_userinfo : KeepsEscapes staysInUserinfo := ⟨by decide, by decide⟩

section Encoding

variable {keep : Char → Bool} {s : List Char} {c : Char}

theorem percentEncode_cons (keep : Char → Bool) (c : Char) (s : List Char) :
    percentEncode keep (c :: s) =
      (if keep c then [c] else (encodeChar c).flatMap percentByte) ++ percentEncode keep s := by
  simp [percentEncode]

theorem percentEncode_of_kept (h : ∀ c ∈ s, keep c = true) : percentEncode keep s = s := by
  induction s with
  | nil => rfl
  | cons c s ih =>
    rw [percentEncode_cons, if_pos (h c (by simp)), ih fun d hd => h d (by simp [hd])]
    rfl

theorem mem_percentEncode (h : c ∈ percentEncode keep s) :
    c ∈ s ∧ keep c = true ∨ c = '%' ∨ ∃ n < 16, c = upperHexDigit n := by
  obtain ⟨d, hd, hc⟩ := List.mem_flatMap.mp h
  split at hc
  · next hkeep =>
    rw [List.mem_singleton.mp hc]
    exact Or.inl ⟨hd, hkeep⟩
  · obtain ⟨b, -, hb⟩ := List.mem_flatMap.mp hc
    have hbyte := b.toNat_lt
    simp only [percentByte, List.mem_cons, List.not_mem_nil, or_false] at hb
    rcases hb with rfl | rfl | rfl
    · exact Or.inr (Or.inl rfl)
    · exact Or.inr (Or.inr ⟨_, by omega, rfl⟩)
    · exact Or.inr (Or.inr ⟨_, by omega, rfl⟩)

theorem kept_of_mem_percentEncode (hk : KeepsEscapes keep) (h : c ∈ percentEncode keep s) :
    keep c = true := by
  rcases mem_percentEncode h with ⟨-, hc⟩ | rfl | ⟨n, hn, rfl⟩
  · exact hc
  · exact hk.percent
  · exact hk.digit n hn

theorem percentEncode_eq_nil : percentEncode keep s = [] ↔ s = [] := by
  constructor
  · intro h
    cases s with
    | nil => rfl
    | cons c s =>
      rw [percentEncode_cons, List.append_eq_nil_iff] at h
      obtain ⟨h, -⟩ := h
      split at h
      · cases h
      · obtain ⟨b, bytes, hb⟩ := List.exists_cons_of_ne_nil (encodeChar_ne_nil c)
        rw [hb] at h
        cases h
  · rintro rfl
    rfl

/-- An escaped text begins as the text does, or with the escape of a byte. -/
theorem percentEncode_eq_cons {t : List Char} (h : percentEncode keep s = c :: t) :
    (∃ s', s = c :: s' ∧ percentEncode keep s' = t) ∨
    c = '%' ∧ ∃ d ∈ s, keep d = false ∧ ∃ b ∈ encodeChar d, ∃ t',
      t = upperHexDigit (b.toNat / 16) :: upperHexDigit (b.toNat % 16) :: t' := by
  cases s with
  | nil => cases h
  | cons d s =>
    rw [percentEncode_cons] at h
    split at h
    · cases h
      exact Or.inl ⟨s, rfl, rfl⟩
    · next hkeep =>
      obtain ⟨b, bytes, hb⟩ := List.exists_cons_of_ne_nil (encodeChar_ne_nil d)
      rw [hb, List.flatMap_cons, percentByte] at h
      cases h
      exact Or.inr ⟨rfl, d, List.mem_cons_self, Bool.not_eq_true _ ▸ hkeep, b, hb ▸
        List.mem_cons_self, _, rfl⟩

end Encoding

theorem visible_of_staysInPath {c : Char} (h : staysInPath c = true) : IsVisible c := by
  simp only [staysInPath, staysInFragment, isPlainAscii, Bool.and_eq_true, decide_eq_true_eq,
    bne_iff_ne] at h
  obtain ⟨⟨⟨⟨⟨⟨⟨⟨⟨⟨hlow, hhigh⟩, hspace⟩, -⟩, -⟩, -⟩, -⟩, -⟩, -⟩, -⟩, -⟩ := h
  refine ⟨UInt32.lt_of_le_of_ne hlow fun he => hspace ?_, hhigh⟩
  exact Char.ext he.symm

/-- Without a percent sign there is nothing to decode. -/
theorem percentDecode_of_not_mem {s : List Char} (h : '%' ∉ s) : percentDecode s = encodeUtf8 s := by
  induction s with
  | nil => rfl
  | cons c s ih =>
    have hc : c ≠ '%' := fun he => h (by simp [he])
    rw [encodeUtf8_cons, ← ih fun hs => h (by simp [hs])]
    rw [percentDecode]
    rintro a b rest rfl
    exact (hc rfl).elim

end Archiver
