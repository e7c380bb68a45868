import Mathlib.Data.List.TakeWhile
import Archiver.Json

namespace Archiver

theorem skipJsonBlanks_append {s r : List Char} {c : Char} (h : skipJsonBlanks s = c :: r)
    (t : List Char) : skipJsonBlanks (s ++ t) = c :: (r ++ t) := by
  unfold skipJsonBlanks at *
  induction s with
  | nil => simp at h
  | cons d s ih =>
    simp only [List.cons_append, List.dropWhile_cons] at h ⊢
    split at h
    · next hd => simpa [hd] using ih h
    · next hd =>
      obtain ⟨rfl, rfl⟩ := List.cons.inj h
      simp [hd]

theorem skipJsonBlanks_suffix (s : List Char) : skipJsonBlanks s <:+ s :=
  List.dropWhile_suffix _

/-- What a string is read from is a part at the beginning, and more text after it changes nothing. -/
theorem readJsonUnits_local {s r : List Char} {us : List JsonUnit}
    (h : readJsonUnits s = some (us, r)) :
    ∃ read, s = read ++ r ∧ ∀ t, readJsonUnits (read ++ t) = some (us, t) := by
  fun_induction readJsonUnits s generalizing us r with
  | case1 => simp at h
  | case2 rest =>
    simp only [Option.some.injEq, Prod.mk.injEq] at h
    obtain ⟨rfl, rfl⟩ := h
    exact ⟨['"'], rfl, fun t => by simp [readJsonUnits]⟩
  | case3 a b c d rest hx ih =>
    obtain ⟨⟨us', r'⟩, hr, he⟩ := Option.map_eq_some_iff.mp h
    cases he
    obtain ⟨read, rfl, hread⟩ := ih hr
    exact ⟨'\\' :: 'u' :: a :: b :: c :: d :: read, rfl, fun t => by simp [readJsonUnits, hx, hread]⟩
  | case4 => simp at h
  | case5 e rest hne c hc ih =>
    obtain ⟨⟨us', r'⟩, hr, he⟩ := Option.map_eq_some_iff.mp h
    cases he
    obtain ⟨read, rfl, hread⟩ := ih hr
    have hu : e ≠ 'u' := fun hu => by subst hu; simp [plainEscape?] at hc
    refine ⟨'\\' :: e :: read, rfl, fun t => ?_⟩
    rw [List.cons_append, List.cons_append, readJsonUnits]
    · simp [hc, hread]
    · intro a b c d r hr
      exact absurd hr hu
  | case6 => simp at h
  | case7 => simp at h
  | case8 c rest h1 h2 h3 h4 ih =>
    obtain ⟨⟨us', r'⟩, hr, he⟩ := Option.map_eq_some_iff.mp h
    cases he
    obtain ⟨read, rfl, hread⟩ := ih hr
    simp only [Bool.or_eq_true, decide_eq_true_eq, beq_iff_eq, not_or] at h4
    refine ⟨c :: read, rfl, fun t => ?_⟩
    rw [List.cons_append, readJsonUnits]
    · simp [h4.1, h4.2, hread]
    · exact fun hq => h1 hq
    · intro a b c d r hr
      exact absurd hr h4.2
    · intro e r hr
      exact absurd hr h4.2

theorem readJsonString_append {s r : List Char} {text : Option (List Char)}
    (h : readJsonString s = some (text, r)) (t : List Char) :
    readJsonString (s ++ t) = some (text, r ++ t) := by
  obtain ⟨⟨us, r'⟩, hr, he⟩ := Option.map_eq_some_iff.mp h
  cases he
  obtain ⟨read, rfl, hread⟩ := readJsonUnits_local hr
  rw [readJsonString, List.append_assoc, hread]
  rfl

theorem readJsonString_suffix {s r : List Char} {text : Option (List Char)}
    (h : readJsonString s = some (text, r)) : r <:+ s := by
  obtain ⟨⟨us, r'⟩, hr, he⟩ := Option.map_eq_some_iff.mp h
  cases he
  obtain ⟨read, rfl, -⟩ := readJsonUnits_local hr
  exact List.suffix_append read _

/-- A run that ends before the end of a text is not made longer by more text. -/
theorem takeWhile_append_of_dropWhile {p : Char → Bool} {s : List Char}
    (h : s.dropWhile p ≠ []) (t : List Char) :
    (s ++ t).takeWhile p = s.takeWhile p ∧ (s ++ t).dropWhile p = s.dropWhile p ++ t := by
  induction s with
  | nil => simp at h
  | cons c s ih =>
    simp only [List.dropWhile_cons] at h
    simp only [List.cons_append, List.takeWhile_cons, List.dropWhile_cons]
    split
    · next hc =>
      rw [if_pos hc] at h
      simpa using ih h
    · simp

/-- The sign of an exponent and what follows it. -/
def exponentSign : List Char → List Char × List Char
  | '+' :: r => (['+'], r)
  | '-' :: r => (['-'], r)
  | r => ([], r)

theorem exponentSign_append {s : List Char} (hs : s ≠ []) (t : List Char) :
    exponentSign (s ++ t) = ((exponentSign s).1, (exponentSign s).2 ++ t) := by
  obtain ⟨c, s, rfl⟩ := List.exists_cons_of_ne_nil hs
  unfold exponentSign
  by_cases hp : c = '+'
  · subst hp; rfl
  · by_cases hm : c = '-'
    · subst hm; rfl
    · simp [hp, hm]

theorem exponentSign_suffix (s : List Char) : (exponentSign s).2 <:+ s := by
  unfold exponentSign
  split
  · exact List.suffix_cons _ _
  · exact List.suffix_cons _ _
  · exact List.suffix_rfl

theorem readJsonExponent_cons (c : Char) (s : List Char) :
    readJsonExponent (c :: s) =
      if c == 'e' || c == 'E' then
        if ((exponentSign s).2.takeWhile isAsciiDigit).isEmpty then none
        else some (c :: (exponentSign s).1 ++ (exponentSign s).2.takeWhile isAsciiDigit,
          (exponentSign s).2.dropWhile isAsciiDigit)
      else some ([], c :: s) := by
  by_cases hc : (c == 'e' || c == 'E') = true
  · simp only [readJsonExponent, exponentSign, hc, if_true]
    cases s with
    | nil => rfl
    | cons d s =>
      by_cases hp : d = '+'
      · subst hp; rfl
      · by_cases hm : d = '-'
        · subst hm; rfl
        · simp [hp, hm]
  · simp only [readJsonExponent, hc]
    rfl

theorem readJsonExponent_append {s v r : List Char} (h : readJsonExponent s = some (v, r))
    (hr : r ≠ []) (t : List Char) : readJsonExponent (s ++ t) = some (v, r ++ t) := by
  cases s with
  | nil => simp [readJsonExponent] at h; exact absurd h.2.symm (by simpa using hr)
  | cons c s =>
    rw [List.cons_append]
    rw [readJsonExponent_cons] at h ⊢
    split at h
    · next hc =>
      split at h
      · simp at h
      · next hrun =>
        simp only [Option.some.injEq, Prod.mk.injEq] at h
        obtain ⟨rfl, rfl⟩ := h
        have hne : s ≠ [] := by
          rintro rfl
          simp [exponentSign] at hr
        obtain ⟨h1, h2⟩ := takeWhile_append_of_dropWhile hr t
        rw [exponentSign_append hne, h1, h2, if_pos hc, if_neg hrun]
    · next hc =>
      simp only [Option.some.injEq, Prod.mk.injEq] at h
      obtain ⟨rfl, rfl⟩ := h
      rw [if_neg hc, List.cons_append]

theorem readJsonExponent_suffix {s v r : List Char} (h : readJsonExponent s = some (v, r)) :
    r <:+ s := by
  cases s with
  | nil => simp [readJsonExponent] at h; simp [h.2]
  | cons c s =>
    rw [readJsonExponent_cons] at h
    split at h
    · split at h
      · simp at h
      · simp only [Option.some.injEq, Prod.mk.injEq] at h
        rw [← h.2]
        exact ((List.dropWhile_suffix _).trans (exponentSign_suffix s)).trans (List.suffix_cons _ _)
    · simp only [Option.some.injEq, Prod.mk.injEq] at h
      exact h.2 ▸ List.suffix_rfl

theorem readJsonFraction_append {s v r : List Char} (h : readJsonFraction s = some (v, r))
    (hr : r ≠ []) (t : List Char) : readJsonFraction (s ++ t) = some (v, r ++ t) := by
  by_cases hs : ∃ s', s = '.' :: s'
  · obtain ⟨s, rfl⟩ := hs
    simp only [readJsonFraction] at h
    split at h
    · simp at h
    · next hrun =>
      obtain ⟨⟨e, r'⟩, he, heq⟩ := Option.map_eq_some_iff.mp h
      cases heq
      have hd : s.dropWhile isAsciiDigit ≠ [] := by
        intro hd
        rw [hd] at he
        simp [readJsonExponent] at he
        exact absurd he.2.symm (by simpa using hr)
      obtain ⟨h1, h2⟩ := takeWhile_append_of_dropWhile hd t
      simp only [List.cons_append, readJsonFraction, h1, h2, if_neg hrun,
        readJsonExponent_append he hr t, Option.map_some]
  · have hf : ∀ s', (∀ s'', s' ≠ '.' :: s'') → readJsonFraction s' = readJsonExponent s' := by
      intro s' hs'
      rw [readJsonFraction]
      exact hs'
    have hne : s ≠ [] := by
      rintro rfl
      simp [readJsonFraction, readJsonExponent] at h
      exact absurd h.2.symm (by simpa using hr)
    obtain ⟨c, s, rfl⟩ := List.exists_cons_of_ne_nil hne
    have hc : c ≠ '.' := fun hc => hs ⟨s, by rw [hc]⟩
    rw [hf _ (by simp [hc])] at h
    rw [hf _ (by simp [hc])]
    exact readJsonExponent_append h hr t

theorem readJsonFraction_suffix {s v r : List Char} (h : readJsonFraction s = some (v, r)) :
    r <:+ s := by
  unfold readJsonFraction at h
  split at h
  · dsimp only at h
    split at h
    · simp at h
    · obtain ⟨⟨e, r'⟩, he, heq⟩ := Option.map_eq_some_iff.mp h
      cases heq
      exact ((readJsonExponent_suffix he).trans (List.dropWhile_suffix _)).trans
        (List.suffix_cons _ _)
  · exact readJsonExponent_suffix h

theorem readJsonNumber_append {s v r : List Char} (h : readJsonNumber s = some (v, r))
    (hr : r ≠ []) (t : List Char) : readJsonNumber (s ++ t) = some (v, r ++ t) := by
  have hd : s.dropWhile isAsciiDigit ≠ [] := by
    intro hd
    simp only [readJsonNumber, hd] at h
    split at h
    · simp at h
    · simp at h
    · simp [readJsonFraction, readJsonExponent] at h
      exact absurd h.2.symm (by simpa using hr)
  obtain ⟨h1, h2⟩ := takeWhile_append_of_dropWhile hd t
  simp only [readJsonNumber, h1, h2] at h ⊢
  split at h
  · simp at h
  · simp at h
  · obtain ⟨⟨e, r'⟩, he, heq⟩ := Option.map_eq_some_iff.mp h
    cases heq
    rw [readJsonFraction_append he hr t]
    rfl

theorem readJsonNumber_suffix {s v r : List Char} (h : readJsonNumber s = some (v, r)) :
    r <:+ s := by
  unfold readJsonNumber at h
  dsimp only at h
  split at h
  · simp at h
  · simp at h
  · obtain ⟨⟨e, r'⟩, he, heq⟩ := Option.map_eq_some_iff.mp h
    cases heq
    exact (readJsonFraction_suffix he).trans (List.dropWhile_suffix _)

theorem after_append {head s r : List Char} (h : after? head s = some r) (t : List Char) :
    after? head (s ++ t) = some (r ++ t) := by
  induction head generalizing s with
  | nil =>
    simp only [after?, Option.some.injEq] at h
    simp [after?, h]
  | cons c head ih =>
    cases s with
    | nil => simp [after?] at h
    | cons d s =>
      simp only [List.cons_append, after?] at h ⊢
      split at h
      · next hcd => rw [if_pos hcd, ih h]
      · simp at h

theorem after_suffix {head s r : List Char} (h : after? head s = some r) : r <:+ s := by
  induction head generalizing s with
  | nil =>
    simp only [after?, Option.some.injEq] at h
    exact h ▸ List.suffix_rfl
  | cons c head ih =>
    cases s with
    | nil => simp [after?] at h
    | cons d s =>
      simp only [after?] at h
      split at h
      · exact (ih h).trans (List.suffix_cons _ _)
      · simp at h

end Archiver
