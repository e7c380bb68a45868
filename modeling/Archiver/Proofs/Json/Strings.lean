import Mathlib.Data.List.Basic
import Archiver.Json

namespace Archiver

theorem isHexDigit_hexDigit {n : Nat} (h : n < 16) : isHexDigit (hexDigit n) = true := by
  revert h
  revert n
  decide

theorem hexValue_hexDigit {n : Nat} (h : n < 16) : hexValue? (hexDigit n) = some n := by
  revert h
  revert n
  decide

/-- True for a character and for the number of a control character. -/
def JsonUnit.StandsFor (u : JsonUnit) (c : Char) : Prop :=
  u = .char c ∨ (u = .unit c.toNat ∧ c.toNat < 0x20)

theorem joinUnits_cons {u : JsonUnit} {c : Char} (h : u.StandsFor c) (us : List JsonUnit) :
    joinUnits (u :: us) = (joinUnits us).map (c :: ·) := by
  rcases h with rfl | ⟨rfl, hc⟩
  · rw [joinUnits]
  · have hlead : isLeadUnit c.toNat = false := by simp [isLeadUnit]; omega
    have htrail : isTrailUnit c.toNat = false := by simp [isTrailUnit]; omega
    cases us with
    | nil => simp [joinUnits, hlead, htrail, Char.ofNat_toNat]
    | cons v us => cases v <;> simp [joinUnits, hlead, htrail, Char.ofNat_toNat]

theorem readJsonUnits_plain {e c : Char} (hu : e ≠ 'u') (he : plainEscape? e = some c)
    (rest : List Char) : readJsonUnits ('\\' :: e :: rest) =
      (readJsonUnits rest).map fun p => (.char c :: p.1, p.2) := by
  rw [readJsonUnits]
  · simp [he]
  · intro a b c d r hr
    exact absurd hr hu

theorem readJsonUnits_raw {c : Char} (hq : c ≠ '"') (hb : c ≠ '\\') (hc : ¬ c.val < 0x20)
    (rest : List Char) : readJsonUnits (c :: rest) =
      (readJsonUnits rest).map fun p => (.char c :: p.1, p.2) := by
  rw [readJsonUnits]
  · simp [hc, hb]
  · exact fun h => hq h
  · intro a b c d r hr
    exact absurd hr hb
  · intro e r hr
    exact absurd hr hb

/-- What is written for a character is read as one unit that stands for it. -/
theorem readJsonUnits_escapeJsonChar (c : Char) :
    ∃ u, JsonUnit.StandsFor u c ∧ ∀ rest, readJsonUnits (escapeJsonChar c ++ rest) =
      (readJsonUnits rest).map fun p => (u :: p.1, p.2) := by
  unfold escapeJsonChar
  by_cases h1 : c = '"'
  · subst h1; exact ⟨_, Or.inl rfl, readJsonUnits_plain (by decide) (by decide)⟩
  by_cases h2 : c = '\\'
  · subst h2; exact ⟨_, Or.inl rfl, readJsonUnits_plain (by decide) (by decide)⟩
  by_cases h3 : c = '\x08'
  · subst h3; exact ⟨_, Or.inl rfl, readJsonUnits_plain (by decide) (by decide)⟩
  by_cases h4 : c = '\x0c'
  · subst h4; exact ⟨_, Or.inl rfl, readJsonUnits_plain (by decide) (by decide)⟩
  by_cases h5 : c = '\n'
  · subst h5; exact ⟨_, Or.inl rfl, readJsonUnits_plain (by decide) (by decide)⟩
  by_cases h6 : c = '\r'
  · subst h6; exact ⟨_, Or.inl rfl, readJsonUnits_plain (by decide) (by decide)⟩
  by_cases h7 : c = '\t'
  · subst h7; exact ⟨_, Or.inl rfl, readJsonUnits_plain (by decide) (by decide)⟩
  simp only [beq_iff_eq, h1, h2, h3, h4, h5, h6, h7, if_false]
  split
  · next hc =>
    have hn : c.toNat < 0x20 := by simpa [UInt32.lt_iff_toNat_lt] using hc
    have hh := isHexDigit_hexDigit (by omega : c.toNat / 16 < 16)
    have hl := isHexDigit_hexDigit (by omega : c.toNat % 16 < 16)
    have hz : isHexDigit '0' = true := by decide
    have hv : hexNumber ['0', '0', hexDigit (c.toNat / 16), hexDigit (c.toNat % 16)] = c.toNat := by
      have h0 : hexValue? '0' = some 0 := by decide
      simp only [hexNumber, List.foldl_cons, List.foldl_nil, h0, Option.getD_some,
        hexValue_hexDigit (by omega : c.toNat / 16 < 16),
        hexValue_hexDigit (by omega : c.toNat % 16 < 16)]
      omega
    refine ⟨.unit c.toNat, Or.inr ⟨rfl, hn⟩, ?_⟩
    intro rest
    simp [readJsonUnits, hh, hl, hz, hv]
  · next hc => exact ⟨_, Or.inl rfl, readJsonUnits_raw h1 h2 hc⟩

theorem readJsonUnits_written (s rest : List Char) :
    ∃ us, readJsonUnits (s.flatMap escapeJsonChar ++ '"' :: rest) = some (us, rest) ∧
      joinUnits us = some s := by
  induction s with
  | nil => exact ⟨[], by simp [readJsonUnits], by simp [joinUnits]⟩
  | cons c s ih =>
    obtain ⟨us, hread, hjoin⟩ := ih
    obtain ⟨u, hu, hstep⟩ := readJsonUnits_escapeJsonChar c
    refine ⟨u :: us, ?_, ?_⟩
    · rw [List.flatMap_cons, List.append_assoc, hstep, hread]
      rfl
    · rw [joinUnits_cons hu, hjoin]
      rfl

/-- A written string reads back as its text. -/
theorem readJsonString_jsonString (s rest : List Char) :
    readJsonString (s.flatMap escapeJsonChar ++ '"' :: rest) = some (some s, rest) := by
  obtain ⟨us, hread, hjoin⟩ := readJsonUnits_written s rest
  simp [readJsonString, hread, hjoin]

theorem le_toNat_hexDigit {n : Nat} (h : n < 16) : 0x20 ≤ (hexDigit n).toNat := by
  revert h
  revert n
  decide

theorem le_toNat_of_all {s : List Char} {d : Char}
    (hs : (s.all fun c => 0x20 ≤ c.toNat) = true) (h : d ∈ s) : 0x20 ≤ d.toNat := by
  simpa using List.all_eq_true.mp hs d h

theorem le_toNat_of_mem_escapeJsonChar {c d : Char} (h : d ∈ escapeJsonChar c) : 0x20 ≤ d.toNat := by
  unfold escapeJsonChar at h
  split at h
  · exact le_toNat_of_all (by decide) h
  split at h
  · exact le_toNat_of_all (by decide) h
  split at h
  · exact le_toNat_of_all (by decide) h
  split at h
  · exact le_toNat_of_all (by decide) h
  split at h
  · exact le_toNat_of_all (by decide) h
  split at h
  · exact le_toNat_of_all (by decide) h
  split at h
  · exact le_toNat_of_all (by decide) h
  split at h
  · next hc =>
    have hn : c.toNat < 0x20 := by simpa [UInt32.lt_iff_toNat_lt] using hc
    simp only [List.mem_cons, List.not_mem_nil, or_false] at h
    rcases h with rfl | rfl | rfl | rfl | rfl | rfl
    · decide
    · decide
    · decide
    · decide
    · exact le_toNat_hexDigit (by omega)
    · exact le_toNat_hexDigit (by omega)
  · next hc =>
    have hn : ¬ c.toNat < 0x20 := by simpa [UInt32.lt_iff_toNat_lt] using hc
    rw [List.mem_singleton.mp h]
    omega

/-- A written string holds no control character below U+0020, and no line end. -/
theorem le_toNat_of_mem_jsonString {s : List Char} {d : Char} (h : d ∈ jsonString s) :
    0x20 ≤ d.toNat := by
  simp only [jsonString, List.mem_cons, List.mem_append, List.mem_flatMap, List.not_mem_nil,
    or_false] at h
  rcases h with rfl | ⟨c, _, hd⟩ | rfl
  · decide
  · exact le_toNat_of_mem_escapeJsonChar hd
  · decide

end Archiver
