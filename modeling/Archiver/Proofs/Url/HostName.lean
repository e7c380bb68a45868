import Mathlib.Data.List.Forall2
import Archiver.Proofs.Text.Lines
import Archiver.Proofs.Url.Punycode
import Archiver.Text.Lowercase
import Archiver.Url.Idna

namespace Archiver

theorem mapM_eq_some_iff {α β : Type} {f : α → Option β} {xs : List α} {ys : List β} :
    xs.mapM f = some ys ↔ List.Forall₂ (fun x y => f x = some y) xs ys := by
  induction xs generalizing ys with
  | nil => simp [eq_comm]
  | cons x xs ih =>
    rw [List.mapM_cons]
    cases hx : f x with
    | none => simp [List.forall₂_cons_left_iff, hx]
    | some y =>
      simp only [Option.bind_eq_bind, Option.bind_some, Option.bind_eq_some_iff,
        List.forall₂_cons_left_iff, ← ih, hx]
      grind

theorem exists_of_forall₂ {α β : Type} {R : α → β → Prop} {xs : List α} {ys : List β} {y : β}
    (h : List.Forall₂ R xs ys) (hy : y ∈ ys) : ∃ x ∈ xs, R x y := by
  induction h with
  | nil => cases hy
  | @cons x y' xs ys hxy _ ih =>
    rcases List.mem_cons.mp hy with rfl | hy
    · exact ⟨x, List.mem_cons_self, hxy⟩
    · obtain ⟨x', hx', hR⟩ := ih hy
      exact ⟨x', List.mem_cons_of_mem x hx', hR⟩

section Characters

variable {c : Char} {s : List Char}

/-- Stands in the ASCII form of a host name. -/
structure IsNameChar (c : Char) : Prop where
  ascii : isAscii c = true
  allowed : isRefusedInHost c = false

/-- An ASCII character that is no capital letter. -/
structure IsLowAscii (c : Char) : Prop where
  ascii : isAscii c = true
  lower : isAsciiUpper c = false

theorem nameChar_punycodeDigit {d : Nat} (h : d < 36) : IsNameChar (punycodeDigit d) := by
  have hall : ∀ d < 36, isAscii (punycodeDigit d) = true ∧
      isRefusedInHost (punycodeDigit d) = false := by decide
  exact ⟨(hall d h).1, (hall d h).2⟩

theorem nameChar_asciiLower (h : IsNameChar c) :
    IsNameChar (asciiLower c) ∧ IsLowAscii (asciiLower c) := by
  have hall : ∀ n < 128, isRefusedInHost (Char.ofNat n) = false →
      isRefusedInHost (asciiLower (Char.ofNat n)) = false ∧
        isAscii (asciiLower (Char.ofNat n)) = true ∧
        isAsciiUpper (asciiLower (Char.ofNat n)) = false := by decide
  have hc := hall c.toNat (isAscii_iff.mp h.ascii)
  rw [Char.ofNat_toNat] at hc
  obtain ⟨hallowed, hascii, hlower⟩ := hc h.allowed
  exact ⟨⟨hascii, hallowed⟩, ⟨hascii, hlower⟩⟩

theorem asciiLower_of_low (h : IsLowAscii c) : asciiLower c = c := by
  rw [asciiLower, h.lower]
  rfl

theorem lowerFrom_of_ascii (before : List Char) (h : ∀ c ∈ s, isAscii c = true) :
    lowerFrom before s = s.map asciiLower := by
  induction s generalizing before with
  | nil => rfl
  | cons c s ih =>
    have hc := h c List.mem_cons_self
    have hsigma : (c == 'Σ') = false := by
      rw [beq_eq_false_iff_ne]
      rintro rfl
      cases hc
    rw [lowerFrom, ih _ fun d hd => h d (List.mem_cons_of_mem c hd), hsigma, lowerChar, hc]
    rfl

theorem lowercase_of_ascii (h : ∀ c ∈ s, isAscii c = true) : lowercase s = s.map asciiLower :=
  lowerFrom_of_ascii [] h

theorem lowercase_of_low (h : ∀ c ∈ s, IsLowAscii c) : lowercase s = s := by
  rw [lowercase_of_ascii fun c hc => (h c hc).ascii]
  exact (List.map_congr_left fun c hc => asciiLower_of_low (h c hc)).trans (List.map_id s)

end Characters

section Labels

variable {label u s n : List Char}

theorem labelFits_of_unicodeLabel (h : unicodeLabel? label = some u) : labelFits u = true := by
  unfold unicodeLabel? at h
  split at h
  · split_ifs at h with hfits
    cases h
    exact hfits
  · split at h
    · cases h
    · split_ifs at h with hdecoded
      cases h
      exact (Bool.and_eq_true_iff.mp hdecoded).2

theorem nameChar_asciiLabel (h : labelFits u = true) : ∀ c ∈ asciiLabel u, IsNameChar c := by
  intro c hc
  have hallowed : ∀ d ∈ u, isRefusedInHost d = false := by
    simp only [labelFits, Bool.and_eq_true, List.all_eq_true, Bool.not_eq_true'] at h
    exact h.1.1.2
  have hfront : ∀ d ∈ ['x', 'n', '-', '-'], isAscii d = true ∧ isRefusedInHost d = false := by
    simp only [List.forall_mem_cons]
    exact ⟨by decide, by decide, by decide, by decide, List.forall_mem_nil _⟩
  unfold asciiLabel at hc
  split at hc
  · next hascii => exact ⟨List.all_eq_true.mp hascii c hc, hallowed c hc⟩
  · rcases List.mem_append.mp hc with hc | hc
    · exact ⟨(hfront c hc).1, (hfront c hc).2⟩
    · rcases mem_punycodeEncode hc with ⟨hu, hascii⟩ | rfl | ⟨d, hd, rfl⟩
      · exact ⟨hascii, hallowed c hu⟩
      · exact ⟨by decide, by decide⟩
      · exact nameChar_punycodeDigit hd

/-- A host name is read label by label. -/
theorem hostToAscii_eq_some (h : hostToAscii? s = some n) : ∃ mapped labels,
    s.mapM mapHostChar = some mapped ∧
      List.Forall₂ (fun label u => unicodeLabel? label = some u)
        (splitAll (· == '.') (composed mapped.flatten)) labels ∧
      n = ['.'].intercalate (labels.map asciiLabel) := by
  unfold hostToAscii? at h
  simp only [Option.bind_eq_bind, Option.bind_eq_some_iff] at h
  obtain ⟨mapped, hmapped, labels, hlabels, h⟩ := h
  split_ifs at h
  cases h
  exact ⟨mapped, labels, hmapped, mapM_eq_some_iff.mp hlabels, rfl⟩

/-- The ASCII form of a host name has no blank in it and nothing that would end a host. -/
theorem nameChar_of_hostToAscii (h : hostToAscii? s = some n) : ∀ c ∈ n, IsNameChar c := by
  intro c hc
  obtain ⟨mapped, labels, -, hlabels, rfl⟩ := hostToAscii_eq_some h
  rcases mem_of_mem_intercalate hc with rfl | ⟨piece, hpiece, hc⟩
  · exact ⟨by decide, by decide⟩
  · obtain ⟨u, hu, rfl⟩ := List.mem_map.mp hpiece
    obtain ⟨label, -, hlabel⟩ := exists_of_forall₂ hlabels hu
    exact nameChar_asciiLabel (labelFits_of_unicodeLabel hlabel) c hc

end Labels

section Reread

variable {label u s n : List Char}

theorem mapHostChar_of_low {c : Char} (h : IsLowAscii c) : mapHostChar c = some [c] := by
  rw [mapHostChar, if_pos h.ascii, asciiLower_of_low h]

theorem mapM_mapHostChar_of_low (h : ∀ c ∈ s, IsLowAscii c) :
    s.mapM mapHostChar = some (s.map fun c => [c]) := by
  rw [mapM_eq_some_iff, List.forall₂_map_right_iff, List.forall₂_same]
  exact fun c hc => mapHostChar_of_low (h c hc)

theorem flatten_mapHostChar_of_low (s : List Char) : (s.map fun c => [c]).flatten = s := by
  rw [← List.flatMap_def, List.flatMap_singleton']

theorem composed_of_ascii (h : ∀ c ∈ s, isAscii c = true) : composed s = s := by
  have hlow : (s.all fun c => c.val < 0x300) = true := by
    rw [List.all_eq_true]
    intro c hc
    have hval : c.val.toNat < 128 := isAscii_iff.mp (h c hc)
    rw [decide_eq_true_eq, UInt32.lt_iff_toNat_lt]
    exact hval.trans (by decide)
  rw [composed, if_pos hlow]

/-- The form behind a label is the label's own, if it is written in lower case. -/
theorem asciiLabel_of_unicodeLabel (hlow : ∀ c ∈ label, IsLowAscii c)
    (h : unicodeLabel? label = some u) : asciiLabel u = label := by
  unfold unicodeLabel? at h
  split at h
  · split_ifs at h
    cases h
    exact if_pos (List.all_eq_true.mpr fun c hc => (hlow c hc).ascii)
  · next form hform =>
    rw [after_eq_some_iff] at hform
    split at h
    · cases h
    next decoded hdecode =>
    split_ifs at h with hfits
    cases h
    simp only [Bool.and_eq_true, Bool.not_eq_true'] at hfits
    obtain ⟨⟨⟨⟨⟨-, -⟩, hforeign⟩, -⟩, -⟩, -⟩ := hfits
    have hown : form = punycodeEncode u := eq_punycodeEncode_of_decode hdecode fun c hc =>
      (hlow c (by rw [hform]; exact List.mem_append_right _ hc)).lower
    rw [asciiLabel, hforeign, if_neg Bool.false_ne_true, ← hown, hform]

/-- A host name in lower case ASCII is its own ASCII form, if it has one. -/
theorem hostToAscii_of_low (hlow : ∀ c ∈ s, IsLowAscii c) (h : hostToAscii? s = some n) :
    n = s := by
  obtain ⟨mapped, labels, hmapped, hlabels, rfl⟩ := hostToAscii_eq_some h
  rw [mapM_mapHostChar_of_low hlow] at hmapped
  cases hmapped
  rw [flatten_mapHostChar_of_low, composed_of_ascii fun c hc => (hlow c hc).ascii] at hlabels
  have hlow' : ∀ label ∈ splitAll (· == '.') s, ∀ c ∈ label, IsLowAscii c := fun label hl c hc =>
    hlow c (mem_of_mem_splitAll hl hc).1
  have hsame : splitAll (· == '.') s = labels.map asciiLabel := by
    rw [← List.forall₂_eq_eq_eq, List.forall₂_map_right_iff]
    exact ((List.forall₂_and_left _ _).mpr ⟨hlow', hlabels⟩).imp fun label u h =>
      (asciiLabel_of_unicodeLabel h.1 h.2).symm
  rw [← hsame, intercalate_splitAll]

theorem joinersFit_of_ascii (before : List Char) (h : ∀ c ∈ s, isAscii c = true) :
    joinersFit before s = true := by
  induction s generalizing before with
  | nil => rfl
  | cons c s ih =>
    have hval : c.val.toNat < 128 := isAscii_iff.mp (h c List.mem_cons_self)
    -- both joiners are beyond ASCII
    have hne : ∀ d : UInt32, 128 ≤ d.toNat → (c.val == d) = false := fun d hd => by
      rw [beq_eq_false_iff_ne]
      rintro rfl
      omega
    rw [joinersFit, hne _ (by decide), hne _ (by decide)]
    exact ih _ fun d hd => h d (List.mem_cons_of_mem c hd)

theorem labelFits_of_nameChars (h : ∀ c ∈ s, IsNameChar c) : labelFits s = true := by
  have hmark : s.head?.any isMark = false := by
    cases s with
    | nil => rfl
    | cons c s => simp [isMark, (h c List.mem_cons_self).ascii]
  have hallowed : (s.all fun c => !isRefusedInHost c) = true :=
    List.all_eq_true.mpr fun c hc => by rw [(h c hc).allowed]; rfl
  have hascii : s.all isAscii = true := List.all_eq_true.mpr fun c hc => (h c hc).ascii
  rw [labelFits, hmark, hallowed, joinersFit_of_ascii [] fun c hc => (h c hc).ascii, hascii]
  rfl

/-- A host name in lower case ASCII without an `x`, so that no label is an encoded one. -/
theorem hostToAscii_of_plain (hlow : ∀ c ∈ s, IsLowAscii c) (hname : ∀ c ∈ s, IsNameChar c)
    (hx : 'x' ∉ s) : hostToAscii? s = some s := by
  have hlabels : (splitAll (· == '.') s).mapM unicodeLabel? = some (splitAll (· == '.') s) := by
    rw [mapM_eq_some_iff, List.forall₂_same]
    intro label hlabel
    have hmem : ∀ c ∈ label, c ∈ s := fun c hc => (mem_of_mem_splitAll hlabel hc).1
    have hplain : after? "xn--".toList label = none := by
      rw [Option.eq_none_iff_forall_ne_some]
      intro rest h
      rw [after_eq_some_iff] at h
      exact hx (hmem 'x' (by rw [h]; exact List.mem_append_left _ (by decide)))
    rw [unicodeLabel?, hplain]
    exact if_pos (labelFits_of_nameChars fun c hc => hname c (hmem c hc))
  have hright : (splitAll (· == '.') s).any (·.any isRightward) = false := by
    rw [List.any_eq_false]
    intro label hlabel
    rw [Bool.not_eq_true, List.any_eq_false]
    intro c hc
    simp [isRightward, (hlow c (mem_of_mem_splitAll hlabel hc).1).ascii]
  have hown : (splitAll (· == '.') s).map asciiLabel = splitAll (· == '.') s := by
    refine (List.map_congr_left fun label hlabel => ?_).trans (List.map_id _)
    exact if_pos (List.all_eq_true.mpr fun c hc =>
      (hlow c (mem_of_mem_splitAll hlabel hc).1).ascii)
  unfold hostToAscii?
  rw [mapM_mapHostChar_of_low hlow]
  simp only [Option.bind_eq_bind, Option.bind_some, flatten_mapHostChar_of_low,
    composed_of_ascii fun c hc => (hlow c hc).ascii, hlabels, hright, hown, intercalate_splitAll,
    Bool.false_and, Bool.false_eq_true, if_false]

end Reread

end Archiver
