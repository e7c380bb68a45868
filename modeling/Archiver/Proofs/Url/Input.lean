import Archiver.Proofs.Text.Lines
import Archiver.Url.Parse

namespace Archiver

/-- A printed ASCII character: no control character, no space. -/
def IsVisible (c : Char) : Prop := 0x20 < c.val ∧ c.val < 0x7F

theorem dropWhile_append_stop {p : Char → Bool} {l : Char} (hl : p l = false) (s t : List Char) :
    (s ++ l :: t).dropWhile p = s.dropWhile p ++ l :: t := by
  rw [List.dropWhile_append]
  split
  · next h => simp [List.isEmpty_iff.mp h, hl]
  · rfl

theorem dropEnd_append_stop {p : Char → Bool} {l : Char} (hl : p l = false) (s t : List Char) :
    ((s ++ l :: t).reverse.dropWhile p).reverse = s ++ l :: (t.reverse.dropWhile p).reverse := by
  rw [List.reverse_append, List.reverse_cons, List.append_assoc, List.singleton_append,
    dropWhile_append_stop hl]
  simp

theorem trim_append_stop {l c : Char} (hl : isBlank l = false) (hc : isBlank c = false)
    (s t : List Char) : trim (s ++ l :: c :: t) = trimStart s ++ l :: c :: trimEnd t := by
  have hend := dropEnd_append_stop hc (s.dropWhile isBlank ++ [l]) t
  rw [List.append_assoc, List.append_assoc] at hend
  unfold trim trimStart
  rw [dropWhile_append_stop hl]
  exact hend

theorem trim_last {l : Char} (hl : isBlank l = false) (s : List Char) :
    trim (s ++ [l]) = trimStart s ++ [l] := by
  unfold trim trimStart
  rw [dropWhile_append_stop hl]
  exact dropEnd_append_stop hl _ []

theorem trim_stop {c l : Char} (hc : isBlank c = false) (hl : isBlank l = false)
    (s place : List Char) : trim (c :: (s ++ l :: place)) = c :: (s ++ l :: trimEnd place) := by
  have hend : trimEnd (s ++ l :: place) = s ++ l :: trimEnd place := dropEnd_append_stop hl s place
  rw [trim_cons hc, hend]

/-- Does not count at the ends of a URL. -/
def isOuter (c : Char) : Bool := c.val ≤ 0x20

/-- Counts inside a URL. -/
def isInner (c : Char) : Bool := c != '\t' && c != '\n' && c != '\r'

theorem cleanUrlInput_eq (s : List Char) : cleanUrlInput s =
    (((s.dropWhile isOuter).reverse.dropWhile isOuter).reverse).filter isInner := rfl

theorem not_isOuter {c : Char} (hc : 0x20 < c.val) : isOuter c = false := by
  simpa [isOuter] using hc

theorem isInner_of {c : Char} (hc : 0x20 < c.val) : isInner c = true := by
  have hne : ∀ d : Char, d.val ≤ 0x20 → (c != d) = true := fun d hd => by
    rw [bne_iff_ne]
    rintro rfl
    exact absurd hc (UInt32.not_lt.mpr hd)
  rw [isInner, hne _ (by decide), hne _ (by decide), hne _ (by decide)]
  rfl

/-- What follows the last inner character of a text is cleaned by itself. -/
theorem cleanUrlInput_append {l c : Char} (hl : 0x20 < l.val) (hc : 0x20 < c.val)
    (s t : List Char) : ∃ t', (t = [] → t' = []) ∧
      cleanUrlInput (s ++ l :: c :: t) = cleanUrlInput (s ++ [l]) ++ c :: t' := by
  have hshort : cleanUrlInput (s ++ [l]) = (s.dropWhile isOuter).filter isInner ++ [l] := by
    rw [cleanUrlInput_eq, dropWhile_append_stop (not_isOuter hl),
      dropEnd_append_stop (not_isOuter hl), List.filter_append,
      List.filter_cons_of_pos (isInner_of hl)]
    rfl
  have hlong := dropEnd_append_stop (not_isOuter hc) (s.dropWhile isOuter ++ [l]) t
  rw [List.append_assoc, List.append_assoc] at hlong
  refine ⟨((t.reverse.dropWhile isOuter).reverse).filter isInner, ?_, ?_⟩
  · rintro rfl
    rfl
  · rw [hshort, cleanUrlInput_eq, dropWhile_append_stop (not_isOuter hl)]
    refine (congrArg _ hlong).trans ?_
    simp [isInner_of hl, isInner_of hc]

/-- Between two characters that count a text only loses what does not count inside. -/
theorem cleanUrlInput_of_ends {c d : Char} (hc : 0x20 < c.val) (hd : 0x20 < d.val)
    (s : List Char) : cleanUrlInput (c :: (s ++ [d])) = (c :: (s ++ [d])).filter isInner := by
  rw [cleanUrlInput_eq, List.dropWhile_cons_of_neg (by simp [not_isOuter hc])]
  exact congrArg _ (dropEnd_append_stop (not_isOuter hd) (c :: s) [])

/-- Behind a character that is not dropped, a text is cleaned by itself. -/
theorem clean_stop {c l : Char} {s : List Char} (hc : 0x20 < c.val)
    (hs : ∀ d ∈ s, isInner d = true) (hl : 0x20 < l.val) (place : List Char) :
    cleanUrlInput (c :: (s ++ l :: place)) =
      c :: (s ++ l :: ((place.reverse.dropWhile isOuter).reverse).filter isInner) := by
  have hend := dropEnd_append_stop (not_isOuter hl) (c :: s) place
  rw [List.cons_append] at hend
  rw [cleanUrlInput_eq, List.dropWhile_cons_of_neg (by simp [not_isOuter hc]), hend,
    List.cons_append, List.filter_cons_of_pos (isInner_of hc), List.filter_append,
    List.filter_eq_self.mpr hs, List.filter_cons_of_pos (isInner_of hl)]

theorem mem_of_mem_cleanUrlInput {c : Char} {s : List Char} (h : c ∈ cleanUrlInput s) : c ∈ s := by
  have hinner := (List.mem_filter.mp h).1
  rw [List.mem_reverse] at hinner
  exact List.dropWhile_subset _ (List.mem_reverse.mp (List.dropWhile_subset _ hinner))

theorem mem_of_mem_trim {c : Char} {s : List Char} (h : c ∈ trim s) : c ∈ s := by
  rw [trim, trimEnd, List.mem_reverse] at h
  exact List.dropWhile_subset _ (List.mem_reverse.mp (List.dropWhile_subset _ h))

/-- A text of visible characters has nothing to be cleaned. -/
theorem cleanUrlInput_of_visible {s : List Char} (h : ∀ c ∈ s, IsVisible c) :
    cleanUrlInput s = s := by
  have hinner : ∀ t : List Char, (∀ c ∈ t, IsVisible c) →
      t.dropWhile isOuter = t := fun t ht => by
    cases t with
    | nil => rfl
    | cons c t => exact List.dropWhile_cons_of_neg (by simp [not_isOuter (ht c (by simp)).1])
  rw [cleanUrlInput_eq, hinner s h, hinner _ (fun c hc => h c (List.mem_reverse.mp hc)),
    List.reverse_reverse]
  exact List.filter_eq_self.mpr fun c hc => isInner_of (h c hc).1

theorem not_blank_of_visible {c : Char} (h : IsVisible c) : isBlank c = false := by
  obtain ⟨hlow, hhigh⟩ := h
  rw [UInt32.lt_iff_toNat_lt] at hlow hhigh
  simp only [isBlank, Bool.or_eq_false_iff, Bool.and_eq_false_iff, decide_eq_false_iff_not,
    beq_eq_false_iff_ne, UInt32.le_iff_toNat_le, ne_eq, ← UInt32.toNat_inj]
  simp at hlow hhigh ⊢
  omega

theorem trim_of_visible {s : List Char} (h : ∀ c ∈ s, IsVisible c) : trim s = s := by
  have hbare : ∀ t : List Char, (∀ c ∈ t, IsVisible c) → t.dropWhile isBlank = t := fun t ht => by
    cases t with
    | nil => rfl
    | cons c t =>
      exact List.dropWhile_cons_of_neg (by simp [not_blank_of_visible (ht c (by simp))])
  unfold trim trimStart trimEnd
  rw [hbare s h, hbare _ (fun c hc => h c (List.mem_reverse.mp hc)), List.reverse_reverse]

end Archiver
