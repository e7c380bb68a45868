import Mathlib.Data.List.Basic
import Archiver.Text.Blank

namespace Archiver

theorem splitAll_ne_nil (sep : Char → Bool) (s : List Char) : splitAll sep s ≠ [] := by
  induction s with
  | nil => simp [splitAll]
  | cons c s ih =>
    unfold splitAll
    split
    · simp
    · cases hs : splitAll sep s with
      | nil => exact absurd hs ih
      | cons run runs => simp [consFirst]

/-- A text with a separator in it splits on both sides of it. -/
theorem splitAll_append_sep {sep : Char → Bool} {c : Char} (hc : sep c = true) (s t : List Char) :
    splitAll sep (s ++ c :: t) = splitAll sep s ++ splitAll sep t := by
  induction s with
  | nil => simp [splitAll, hc]
  | cons d s ih =>
    simp only [List.cons_append, splitAll, ih]
    split
    · simp
    · cases hs : splitAll sep s with
      | nil => exact absurd hs (splitAll_ne_nil sep s)
      | cons run runs => simp [consFirst]

theorem beq_of_not_mem {c : Char} {s : List Char} (h : c ∉ s) : ∀ d ∈ s, (d == c) = false :=
  fun _ hd => beq_false_of_ne fun he => h (he ▸ hd)

theorem splitAll_of_not_mem {sep : Char → Bool} {s : List Char} (hs : ∀ c ∈ s, sep c = false) :
    splitAll sep s = [s] := by
  induction s with
  | nil => rfl
  | cons c s ih =>
    have hc := hs c (by simp)
    rw [splitAll, ih (fun d hd => hs d (by simp [hd]))]
    simp [hc, consFirst]

/-- The pieces hold what the text holds, less the separators. -/
theorem mem_of_mem_splitAll {sep : Char → Bool} {s piece : List Char} {c : Char}
    (hp : piece ∈ splitAll sep s) (hc : c ∈ piece) : c ∈ s ∧ sep c = false := by
  induction s generalizing piece with
  | nil =>
    rw [List.mem_singleton.mp hp] at hc
    cases hc
  | cons d s ih =>
    rw [splitAll] at hp
    split at hp
    · rcases List.mem_cons.mp hp with rfl | hp
      · cases hc
      · exact (ih hp hc).imp_left (List.mem_cons_of_mem d)
    · next hd =>
      obtain ⟨run, runs, hruns⟩ := List.exists_cons_of_ne_nil (splitAll_ne_nil sep s)
      rw [hruns] at hp ih
      rcases List.mem_cons.mp hp with rfl | hp
      · rcases List.mem_cons.mp hc with rfl | hc
        · exact ⟨List.mem_cons_self, Bool.not_eq_true _ ▸ hd⟩
        · exact (ih List.mem_cons_self hc).imp_left (List.mem_cons_of_mem d)
      · exact (ih (List.mem_cons_of_mem run hp) hc).imp_left (List.mem_cons_of_mem d)

theorem intercalate_splitAll (d : Char) (s : List Char) :
    [d].intercalate (splitAll (· == d) s) = s := by
  induction s with
  | nil => rfl
  | cons c s ih =>
    obtain ⟨run, runs, hruns⟩ := List.exists_cons_of_ne_nil (splitAll_ne_nil (· == d) s)
    rw [splitAll]
    rw [hruns] at ih ⊢
    split
    · next hc =>
      rw [List.intercalate_cons_cons, ih, beq_iff_eq.mp hc]
      rfl
    · cases runs with
      | nil =>
        rw [List.intercalate_singleton] at ih
        rw [consFirst, List.intercalate_singleton, ih]
      | cons next runs =>
        rw [List.intercalate_cons_cons] at ih
        rw [consFirst, List.intercalate_cons_cons, List.cons_append, List.cons_append, ih]

theorem mem_of_mem_intercalate {c d : Char} {pieces : List (List Char)}
    (h : c ∈ [d].intercalate pieces) : c = d ∨ ∃ piece ∈ pieces, c ∈ piece := by
  induction pieces with
  | nil => cases h
  | cons piece pieces ih =>
    cases pieces with
    | nil =>
      rw [List.intercalate_singleton] at h
      exact Or.inr ⟨piece, List.mem_cons_self, h⟩
    | cons next pieces =>
      rw [List.intercalate_cons_cons, List.append_assoc] at h
      rcases List.mem_append.mp h with h | h
      · exact Or.inr ⟨piece, List.mem_cons_self, h⟩
      · rcases List.mem_append.mp h with h | h
        · exact Or.inl (List.mem_singleton.mp h)
        · exact (ih h).imp_right fun ⟨p, hp, hc⟩ => ⟨p, List.mem_cons_of_mem _ hp, hc⟩

theorem after_eq_some_iff {head s rest : List Char} :
    after? head s = some rest ↔ s = head ++ rest := by
  induction head generalizing s with
  | nil => simp [after?]
  | cons h head ih =>
    cases s with
    | nil => simp [after?]
    | cons c s =>
      rw [after?]
      split
      · next hc => simp [ih, hc]
      · next hc =>
        simp only [List.cons_append, List.cons.injEq, false_iff, reduceCtorEq]
        exact fun h => hc h.1.symm

theorem closeLines_append (xs : List (List Char)) {ys : List (List Char)} (hy : ys ≠ []) :
    closeLines (xs ++ ys) = xs.map dropLineReturn ++ closeLines ys := by
  induction xs with
  | nil => rfl
  | cons x xs ih =>
    obtain ⟨z, zs, hz⟩ := List.exists_cons_of_ne_nil (by simp [hy] : xs ++ ys ≠ [])
    rw [List.cons_append, hz, closeLines, ← hz, ih, List.map_cons, List.cons_append]
    simp

/-- The lines of a text are those up to a line end, each without its return, and those after it. -/
theorem lines_append_newline (s t : List Char) :
    lines (s ++ '\n' :: t) = (splitAll (· == '\n') s).map dropLineReturn ++ lines t := by
  rw [lines, splitAll_append_sep (by decide), closeLines_append _ (splitAll_ne_nil _ t), lines]

theorem dropLineReturn_cases (line : List Char) :
    dropLineReturn line = line ∨ line = dropLineReturn line ++ ['\r'] := by
  unfold dropLineReturn
  split
  · next rest hrest =>
    refine .inr ?_
    rw [← List.reverse_reverse line, hrest, List.reverse_cons]
  · exact .inl rfl

/-- No line has a line end in it. -/
theorem newline_not_mem_lines (s : List Char) : ∀ line ∈ lines s, '\n' ∉ line := by
  have hclose : ∀ pieces : List (List Char), ∀ line ∈ closeLines pieces,
      ∃ piece ∈ pieces, line ⊆ piece := by
    intro pieces
    fun_induction closeLines pieces with
    | case1 => exact fun _ h => absurd h List.not_mem_nil
    | case2 => exact fun _ h => absurd h List.not_mem_nil
    | case3 last hlast =>
      exact fun line h => ⟨last, List.mem_singleton_self _, List.mem_singleton.mp h ▸ fun _ hc => hc⟩
    | case4 first rest hrest ih =>
      intro line h
      rcases List.mem_cons.mp h with rfl | h
      · refine ⟨first, List.mem_cons_self, fun c hc => ?_⟩
        rcases dropLineReturn_cases first with heq | heq
        · exact heq ▸ hc
        · exact heq ▸ List.mem_append_left _ hc
      · obtain ⟨piece, hpiece, hsub⟩ := ih line h
        exact ⟨piece, List.mem_cons_of_mem _ hpiece, hsub⟩
  intro line h hmem
  obtain ⟨piece, hpiece, hsub⟩ := hclose _ line h
  exact absurd (mem_of_mem_splitAll hpiece (hsub hmem)).2 (by decide)

theorem splitAll_line {s : List Char} (hs : '\n' ∉ s) : splitAll (· == '\n') s = [s] := by
  apply splitAll_of_not_mem
  intro c hc
  have hne : c ≠ '\n' := fun he => hs (he ▸ hc)
  simpa using hne

theorem trimEnd_append_blank {c : Char} (hc : isBlank c = true) (s : List Char) :
    trimEnd (s ++ [c]) = trimEnd s := by
  simp [trimEnd, hc]

theorem trim_append_blank {c : Char} (hc : isBlank c = true) (s : List Char) :
    trim (s ++ [c]) = trim s := by
  unfold trim trimStart
  induction s with
  | nil => simp [hc, trimEnd]
  | cons d s ih =>
    simp only [List.cons_append, List.dropWhile_cons]
    split
    · exact ih
    · rw [← List.cons_append, trimEnd_append_blank hc]

/-- What a line loses at its end is blank. -/
theorem trim_dropLineReturn (s : List Char) : trim (dropLineReturn s) = trim s := by
  unfold dropLineReturn
  split
  · next rest hr =>
    have hs : s = rest.reverse ++ ['\r'] := by rw [← List.reverse_reverse s, hr]; simp
    rw [hs, trim_append_blank (by decide)]
  · rfl

theorem trimStart_append {blanks s : List Char} (hb : ∀ c ∈ blanks, isBlank c = true)
    (hs : ∀ c ∈ s.head?, isBlank c = false) : trimStart (blanks ++ s) = s := by
  rw [trimStart, List.dropWhile_append_of_pos hb]
  cases s with
  | nil => rfl
  | cons c s => rw [List.dropWhile_cons_of_neg (by rw [hs c rfl]; decide)]

theorem trimEnd_append {blanks s : List Char} (hb : ∀ c ∈ blanks, isBlank c = true)
    (hs : ∀ c ∈ s.getLast?, isBlank c = false) : trimEnd (s ++ blanks) = s := by
  have hall : ∀ c ∈ blanks.reverse, isBlank c = true := fun c hc => hb c (List.mem_reverse.mp hc)
  have h := trimStart_append (s := s.reverse) hall (by rwa [List.head?_reverse])
  rw [trimEnd, List.reverse_append, ← trimStart, h, List.reverse_reverse]

/-- A text that begins and ends with characters that are not blank is trimmed. -/
theorem trim_of_ends {c d : Char} (hc : isBlank c = false) (hd : isBlank d = false)
    (s : List Char) : trim (c :: (s ++ [d])) = c :: (s ++ [d]) := by
  simp [trim, trimStart, trimEnd, hc, hd]

theorem trimEnd_isPrefix (s : List Char) : trimEnd s <+: s := by
  have h := List.dropWhile_suffix isBlank (l := s.reverse)
  simpa [trimEnd] using List.reverse_prefix.mpr h

/-- Trimming a text that begins with a character that is not blank cuts off its end alone. -/
theorem trim_cons {c : Char} (hc : isBlank c = false) (s : List Char) :
    trim (c :: s) = c :: trimEnd s := by
  rw [trim, trimStart, List.dropWhile_cons, if_neg (by simp [hc]), trimEnd, List.reverse_cons,
    List.dropWhile_append]
  split
  · next h =>
    have hs : List.dropWhile isBlank s.reverse = [] := by simpa using h
    simp [hc, trimEnd, hs]
  · simp [trimEnd]

/-- A text that is not blank begins, once trimmed, with its first character that is not. -/
theorem trimStart_cons {s : List Char} (h : s.all isBlank = false) :
    ∃ c rest, trimStart s = c :: rest ∧ isBlank c = false := by
  induction s with
  | nil => cases h
  | cons c s ih =>
    cases hc : isBlank c with
    | true =>
      rw [List.all_cons, hc, Bool.true_and] at h
      rw [trimStart, List.dropWhile_cons_of_pos hc]
      exact ih h
    | false => exact ⟨c, s, List.dropWhile_cons_of_neg (by simp [hc]), hc⟩

theorem trimEnd_last {s : List Char} (h : s.all isBlank = false) :
    ∃ front c, trimEnd s = front ++ [c] ∧ isBlank c = false := by
  obtain ⟨c, rest, hrest, hc⟩ := trimStart_cons (s := s.reverse) (by rwa [List.all_reverse])
  exact ⟨rest.reverse, c, by rw [trimEnd, ← trimStart, hrest, List.reverse_cons], hc⟩

theorem trimEnd_eq_nil_iff {s : List Char} : trimEnd s = [] ↔ s.all isBlank = true := by
  cases h : s.all isBlank with
  | false =>
    obtain ⟨front, c, hend, -⟩ := trimEnd_last h
    simp [hend]
  | true =>
    have hnone : ∀ c ∈ ([] : List Char).getLast?, isBlank c = false := fun c hc => by cases hc
    exact iff_of_true (trimEnd_append (List.all_eq_true.mp h) hnone) rfl

theorem trim_eq_nil_iff {s : List Char} : trim s = [] ↔ s.all isBlank = true := by
  rw [trim, trimEnd_eq_nil_iff]
  cases h : s.all isBlank with
  | false =>
    obtain ⟨c, rest, hrest, hc⟩ := trimStart_cons h
    simp [hrest, hc]
  | true =>
    have hnone : trimStart s = [] := by
      simpa using trimStart_append (s := []) (List.all_eq_true.mp h) nofun
    rw [hnone]
    exact Iff.rfl

end Archiver
