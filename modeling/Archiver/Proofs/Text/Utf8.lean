import Mathlib.Data.List.Basic
import Archiver.Text.Utf8

namespace Archiver

/-- The same finding in front of more bytes. -/
def Utf8Step.before (t : List UInt8) : Utf8Step → Utf8Step
  | .char c rest => .char c (rest ++ t)
  | .fault rest => .fault (rest ++ t)

def Utf8Step.rest : Utf8Step → List UInt8
  | .char _ rest => rest
  | .fault rest => rest

theorem utf8Tail_rest_le {value n : Nat} {lo hi : UInt8} (bytes : List UInt8) :
    (utf8Tail value lo hi n bytes).rest.length ≤ bytes.length := by
  induction bytes generalizing value lo hi n with
  | nil => cases n <;> simp [utf8Tail, Utf8Step.rest]
  | cons b bytes ih =>
    cases n with
    | zero => simp [utf8Tail, Utf8Step.rest]
    | succ n =>
      simp only [utf8Tail]
      split
      · exact Nat.le_trans ih (by simp)
      · simp [Utf8Step.rest]

theorem utf8Step_rest_le (b : UInt8) (bytes : List UInt8) :
    (utf8Step b bytes).rest.length ≤ bytes.length := by
  unfold utf8Step
  repeat' split
  all_goals first | exact utf8Tail_rest_le bytes | simp [Utf8Step.rest]

theorem utf8Step_char_le {b : UInt8} {bytes rest : List UInt8} {c : Char}
    (h : utf8Step b bytes = .char c rest) : rest.length ≤ bytes.length := by
  simpa [h, Utf8Step.rest] using utf8Step_rest_le b bytes

theorem utf8Step_fault_le {b : UInt8} {bytes rest : List UInt8}
    (h : utf8Step b bytes = .fault rest) : rest.length ≤ bytes.length := by
  simpa [h, Utf8Step.rest] using utf8Step_rest_le b bytes

/-- A byte that continues nothing ends a stretch at the same place as the end of all bytes. -/
theorem utf8Tail_before {value n : Nat} {lo hi b : UInt8} (hlo : b < lo) (hb : b < 0x80)
    (bytes t : List UInt8) :
    utf8Tail value lo hi n (bytes ++ b :: t) = (utf8Tail value lo hi n bytes).before (b :: t) := by
  induction bytes generalizing value lo hi n with
  | nil =>
    cases n with
    | zero => rfl
    | succ n =>
      have hn : ¬ lo ≤ b := UInt8.not_le.mpr hlo
      simp [utf8Tail, Utf8Step.before, hn]
  | cons d bytes ih =>
    cases n with
    | zero => rfl
    | succ n =>
      simp only [List.cons_append, utf8Tail]
      split
      · exact ih hb
      · rfl

theorem utf8Step_before {b : UInt8} (hb : b < 0x80) (a : UInt8) (bytes t : List UInt8) :
    utf8Step a (bytes ++ b :: t) = (utf8Step a bytes).before (b :: t) := by
  have h80 : b < 0x90 := by grind
  have hA0 : b < 0xA0 := by grind
  unfold utf8Step
  repeat' split
  all_goals first | exact utf8Tail_before (by assumption) hb bytes t | rfl

theorem decodeBytes_fuel {f g : Nat} {bytes : List UInt8} (hf : bytes.length ≤ f)
    (hg : bytes.length ≤ g) : decodeBytes f bytes = decodeBytes g bytes := by
  induction f generalizing g bytes with
  | zero =>
    have hn : bytes = [] := List.eq_nil_of_length_eq_zero (by omega)
    subst hn
    cases g <;> rfl
  | succ f ih =>
    cases bytes with
    | nil => cases g <;> rfl
    | cons b rest =>
      cases g with
      | zero => simp at hg
      | succ g =>
        simp only [List.length_cons] at hf hg
        simp only [decodeBytes]
        cases hs : utf8Step b rest with
        | char c r =>
          have hr := utf8Step_char_le hs
          simp only [ih (by omega : r.length ≤ f) (by omega : r.length ≤ g)]
        | fault r =>
          have hr := utf8Step_fault_le hs
          simp only [ih (by omega : r.length ≤ f) (by omega : r.length ≤ g)]

@[simp] theorem decodeUtf8_nil : decodeUtf8 [] = [] := rfl

theorem decodeUtf8_char {b : UInt8} {bytes rest : List UInt8} {c : Char}
    (h : utf8Step b bytes = .char c rest) : decodeUtf8 (b :: bytes) = c :: decodeUtf8 rest := by
  simp only [decodeUtf8, List.length_cons, decodeBytes, h]
  rw [decodeBytes_fuel (utf8Step_char_le h) (Nat.le_refl _)]

theorem decodeUtf8_fault {b : UInt8} {bytes rest : List UInt8}
    (h : utf8Step b bytes = .fault rest) :
    decodeUtf8 (b :: bytes) = replacement :: decodeUtf8 rest := by
  simp only [decodeUtf8, List.length_cons, decodeBytes, h]
  rw [decodeBytes_fuel (utf8Step_fault_le h) (Nat.le_refl _)]

/-- A byte that is a character of its own parts what is read on its two sides, faults included. -/
theorem decodeUtf8_append_ascii {b : UInt8} (hb : b < 0x80) (p q : List UInt8) :
    decodeUtf8 (p ++ b :: q) = decodeUtf8 p ++ Char.ofNat b.toNat :: decodeUtf8 q := by
  induction hn : p.length using Nat.strongRecOn generalizing p with
  | ind n ih =>
    cases p with
    | nil =>
      have hs : utf8Step b q = .char (Char.ofNat b.toNat) q := by simp [utf8Step, hb]
      simp [decodeUtf8_char hs]
    | cons a p =>
      have hbefore := utf8Step_before hb a p q
      simp only [List.length_cons] at hn
      cases hs : utf8Step a p with
      | char c rest =>
        rw [hs] at hbefore
        have hr := utf8Step_char_le hs
        rw [List.cons_append, decodeUtf8_char hbefore, decodeUtf8_char hs,
          ih rest.length (by omega) rest rfl, List.cons_append]
      | fault rest =>
        rw [hs] at hbefore
        have hr := utf8Step_fault_le hs
        rw [List.cons_append, decodeUtf8_fault hbefore, decodeUtf8_fault hs,
          ih rest.length (by omega) rest rfl, List.cons_append]

theorem toUInt8_toNat {n : Nat} (h : n < 256) : n.toUInt8.toNat = n := by
  simp only [Nat.toUInt8, UInt8.toNat_ofNat']
  omega

/-- The byte that carries the last six bits of a number. -/
def tailByte (n : Nat) : UInt8 := (0x80 + n % 64).toUInt8

theorem tailByte_toNat (n : Nat) : (tailByte n).toNat = 0x80 + n % 64 :=
  toUInt8_toNat (by omega)

theorem le_tailByte {n : Nat} {lo : UInt8} (h : lo.toNat ≤ 0x80 + n % 64) : lo ≤ tailByte n := by
  rwa [UInt8.le_iff_toNat_le, tailByte_toNat]

theorem tailByte_le {n : Nat} {hi : UInt8} (h : 0x80 + n % 64 ≤ hi.toNat) : tailByte n ≤ hi := by
  rwa [UInt8.le_iff_toNat_le, tailByte_toNat]

theorem utf8Tail_tailByte {value k n : Nat} {lo hi : UInt8} (hlo : lo ≤ tailByte n)
    (hhi : tailByte n ≤ hi) (rest : List UInt8) :
    utf8Tail value lo hi (k + 1) (tailByte n :: rest) =
      utf8Tail (value * 64 + n % 64) 0x80 0xBF k rest := by
  simp [utf8Tail, hlo, hhi, tailByte_toNat]

theorem utf8Step_two {n : Nat} (h : 0x80 ≤ n) (hn : n < 0x800) (rest : List UInt8) :
    utf8Step (0xC0 + n / 64).toUInt8 rest = utf8Tail (n / 64) 0x80 0xBF 1 rest := by
  have hb := toUInt8_toNat (by omega : 0xC0 + n / 64 < 256)
  generalize (0xC0 + n / 64).toUInt8 = b at *
  have h1 : ¬ b < 0x80 := by rw [UInt8.lt_iff_toNat_lt, hb]; simp; omega
  have h2 : 0xC2 ≤ b := by rw [UInt8.le_iff_toNat_le, hb]; simp; omega
  have h3 : b ≤ 0xDF := by rw [UInt8.le_iff_toNat_le, hb]; simp; omega
  simp [utf8Step, h1, h2, h3, hb]

/-- Of three bytes the first bounds the second: no character is written longer than it need be, and
none is half of a surrogate pair. -/
theorem utf8Step_three {n : Nat} (h : 0x800 ≤ n) (hn : n < 0x10000) (hs : n < 0xD800 ∨ 0xDFFF < n) :
    ∃ lo hi, lo ≤ tailByte (n / 64) ∧ tailByte (n / 64) ≤ hi ∧
      ∀ rest, utf8Step (0xE0 + n / 4096).toUInt8 rest = utf8Tail (n / 4096) lo hi 2 rest := by
  have hb := toUInt8_toNat (by omega : 0xE0 + n / 4096 < 256)
  generalize (0xE0 + n / 4096).toUInt8 = b at *
  have hv : b.toNat - 0xE0 = n / 4096 := by omega
  have h1 : ¬ b < 0x80 := by rw [UInt8.lt_iff_toNat_lt, hb]; simp; omega
  have h2 : ¬ b ≤ 0xDF := by rw [UInt8.le_iff_toNat_le, hb]; simp; omega
  have h3 : b ≤ 0xEF := by rw [UInt8.le_iff_toNat_le, hb]; simp; omega
  by_cases h0 : n / 4096 = 0
  · have hbe : b = 0xE0 := UInt8.toNat_inj.mp (by rw [hb, h0]; rfl)
    refine ⟨0xA0, 0xBF, le_tailByte (by simp; omega), tailByte_le (by simp; omega), ?_⟩
    intro rest
    simp [utf8Step, hbe, h0]
  · by_cases hd : n / 4096 = 13
    · have hbe : b = 0xED := UInt8.toNat_inj.mp (by rw [hb, hd]; rfl)
      refine ⟨0x80, 0x9F, le_tailByte (by simp), tailByte_le (by simp; omega), ?_⟩
      intro rest
      simp [utf8Step, hbe, hd]
    · have h4 : b ≠ 0xE0 := fun he => by simp [he] at hb; omega
      have h5 : b ≠ 0xED := fun he => by simp [he] at hb; omega
      have h6 : 0xE1 ≤ b := by rw [UInt8.le_iff_toNat_le, hb]; simp; omega
      refine ⟨0x80, 0xBF, le_tailByte (by simp), tailByte_le (by simp; omega), ?_⟩
      intro rest
      simp [utf8Step, h1, h2, h3, h4, h5, h6, hv]

theorem utf8Step_four {n : Nat} (h : 0x10000 ≤ n) (hn : n < 0x110000) :
    ∃ lo hi, lo ≤ tailByte (n / 4096) ∧ tailByte (n / 4096) ≤ hi ∧
      ∀ rest, utf8Step (0xF0 + n / 262144).toUInt8 rest = utf8Tail (n / 262144) lo hi 3 rest := by
  have hb := toUInt8_toNat (by omega : 0xF0 + n / 262144 < 256)
  generalize (0xF0 + n / 262144).toUInt8 = b at *
  have hv : b.toNat - 0xF0 = n / 262144 := by omega
  have h1 : ¬ b < 0x80 := by rw [UInt8.lt_iff_toNat_lt, hb]; simp; omega
  have h2 : ¬ b ≤ 0xDF := by rw [UInt8.le_iff_toNat_le, hb]; simp; omega
  have h3 : ¬ b ≤ 0xEF := by rw [UInt8.le_iff_toNat_le, hb]; simp; omega
  have h4 : b ≠ 0xE0 := fun he => by simp [he] at hb; omega
  have h5 : b ≠ 0xED := fun he => by simp [he] at hb; omega
  by_cases h0 : n / 262144 = 0
  · have hbe : b = 0xF0 := UInt8.toNat_inj.mp (by rw [hb, h0]; rfl)
    refine ⟨0x90, 0xBF, le_tailByte (by simp; omega), tailByte_le (by simp; omega), ?_⟩
    intro rest
    simp [utf8Step, hbe, h0]
  · have h6 : b ≠ 0xF0 := fun he => by simp [he] at hb; omega
    by_cases hd : n / 262144 = 4
    · have hbe : b = 0xF4 := UInt8.toNat_inj.mp (by rw [hb, hd]; rfl)
      refine ⟨0x80, 0x8F, le_tailByte (by simp), tailByte_le (by simp; omega), ?_⟩
      intro rest
      simp [utf8Step, hbe, hd]
    · have h7 : 0xF1 ≤ b := by rw [UInt8.le_iff_toNat_le, hb]; simp; omega
      have h8 : b ≤ 0xF3 := by rw [UInt8.le_iff_toNat_le, hb]; simp; omega
      refine ⟨0x80, 0xBF, le_tailByte (by simp), tailByte_le (by simp; omega), ?_⟩
      intro rest
      simp [utf8Step, h1, h2, h3, h4, h5, h6, h7, h8, hv]

theorem char_toNat_valid (c : Char) :
    c.toNat < 0xD800 ∨ (0xDFFF < c.toNat ∧ c.toNat < 0x110000) := c.valid

/-- The first byte of a character takes the others, and finds a fault at the end of a part of
them. -/
theorem utf8Step_encodeChar (c : Char) :
    ∃ b tail, encodeChar c = b :: tail ∧ (∀ rest, utf8Step b (tail ++ rest) = .char c rest) ∧
      ∀ k < tail.length, utf8Step b (tail.take k) = .fault [] := by
  have hv := char_toNat_valid c
  have hc : Char.ofNat c.toNat = c := Char.ofNat_toNat c
  unfold encodeChar
  simp only
  generalize c.toNat = n at *
  have hlo : ∀ m, (0x80 : UInt8) ≤ tailByte m := fun m => le_tailByte (by simp)
  have hhi : ∀ m, tailByte m ≤ (0xBF : UInt8) := fun m => tailByte_le (by simp; omega)
  split
  · next h =>
    refine ⟨_, [], rfl, ?_, by simp⟩
    intro rest
    have h1 : n.toUInt8 < 0x80 := by
      rw [UInt8.lt_iff_toNat_lt, toUInt8_toNat (by omega)]
      simpa using h
    simp [utf8Step, h1, toUInt8_toNat (by omega : n < 256), hc]
  · split
    · refine ⟨_, [tailByte n], rfl, ?_, ?_⟩
      · intro rest
        have hsum : n / 64 * 64 + n % 64 = n := by omega
        rw [utf8Step_two (by omega) (by omega), List.singleton_append,
          utf8Tail_tailByte (hlo _) (hhi _)]
        simp [utf8Tail, hsum, hc]
      · intro k hk
        have hk0 : k = 0 := by simpa using hk
        rw [utf8Step_two (by omega) (by omega), hk0]
        rfl
    · split
      · obtain ⟨lo, hi, hl, hh, hstep⟩ := utf8Step_three (n := n) (by omega) (by omega) (by omega)
        refine ⟨_, [tailByte (n / 64), tailByte n], rfl, ?_, ?_⟩
        · intro rest
          have hsum : (n / 4096 * 64 + n / 64 % 64) * 64 + n % 64 = n := by omega
          rw [hstep, List.cons_append, utf8Tail_tailByte hl hh, List.singleton_append,
            utf8Tail_tailByte (hlo _) (hhi _)]
          simp [utf8Tail, hsum, hc]
        · intro k hk
          rw [hstep]
          simp only [List.length_cons, List.length_nil] at hk
          obtain rfl | rfl : k = 0 ∨ k = 1 := by omega
          · rfl
          · rw [List.take_succ_cons, utf8Tail_tailByte hl hh]
            rfl
      · obtain ⟨lo, hi, hl, hh, hstep⟩ := utf8Step_four (n := n) (by omega) (by omega)
        refine ⟨_, [tailByte (n / 4096), tailByte (n / 64), tailByte n], rfl, ?_, ?_⟩
        · intro rest
          have hsum : ((n / 262144 * 64 + n / 4096 % 64) * 64 + n / 64 % 64) * 64 + n % 64 = n := by
            omega
          rw [hstep, List.cons_append, utf8Tail_tailByte hl hh, List.cons_append,
            utf8Tail_tailByte (hlo _) (hhi _), List.singleton_append,
            utf8Tail_tailByte (hlo _) (hhi _)]
          simp [utf8Tail, hsum, hc]
        · intro k hk
          rw [hstep]
          simp only [List.length_cons, List.length_nil] at hk
          obtain rfl | rfl | rfl : k = 0 ∨ k = 1 ∨ k = 2 := by omega
          · rfl
          · rw [List.take_succ_cons, utf8Tail_tailByte hl hh]
            rfl
          · rw [List.take_succ_cons, utf8Tail_tailByte hl hh, List.take_succ_cons,
              utf8Tail_tailByte (hlo _) (hhi _)]
            rfl

theorem encodeChar_ne_nil (c : Char) : encodeChar c ≠ [] := by
  obtain ⟨b, tail, he, _⟩ := utf8Step_encodeChar c
  simp [he]

theorem decodeUtf8_encodeChar (c : Char) (rest : List UInt8) :
    decodeUtf8 (encodeChar c ++ rest) = c :: decodeUtf8 rest := by
  obtain ⟨b, tail, he, hstep, _⟩ := utf8Step_encodeChar c
  rw [he, List.cons_append, decodeUtf8_char (hstep rest)]

@[simp] theorem encodeUtf8_nil : encodeUtf8 [] = [] := rfl

theorem encodeUtf8_cons (c : Char) (s : List Char) :
    encodeUtf8 (c :: s) = encodeChar c ++ encodeUtf8 s := by
  simp [encodeUtf8]

theorem encodeUtf8_append (s t : List Char) :
    encodeUtf8 (s ++ t) = encodeUtf8 s ++ encodeUtf8 t := by
  simp [encodeUtf8]

theorem decodeUtf8_encodeUtf8_append (s : List Char) (rest : List UInt8) :
    decodeUtf8 (encodeUtf8 s ++ rest) = s ++ decodeUtf8 rest := by
  induction s with
  | nil => rfl
  | cons c s ih => rw [encodeUtf8_cons, List.append_assoc, decodeUtf8_encodeChar, ih, List.cons_append]

@[simp] theorem decodeUtf8_encodeUtf8 (s : List Char) : decodeUtf8 (encodeUtf8 s) = s := by
  simpa using decodeUtf8_encodeUtf8_append s []

theorem decodeStrict_encodeUtf8 {s : List Char} {fuel : Nat} (h : (encodeUtf8 s).length ≤ fuel) :
    decodeStrict fuel (encodeUtf8 s) = some s := by
  induction s generalizing fuel with
  | nil => cases fuel <;> rfl
  | cons c s ih =>
    obtain ⟨b, tail, he, hstep, -⟩ := utf8Step_encodeChar c
    rw [encodeUtf8_cons, he, List.cons_append] at h ⊢
    cases fuel with
    | zero => cases h
    | succ fuel =>
      simp only [List.length_cons, List.length_append] at h
      simp only [decodeStrict, hstep]
      rw [ih (by omega), Option.map_some]

theorem decodeUtf8?_encodeUtf8 (s : List Char) : decodeUtf8? (encodeUtf8 s) = some s :=
  decodeStrict_encodeUtf8 (Nat.le_refl _)

theorem encodeUtf8_injective {s t : List Char} (h : encodeUtf8 s = encodeUtf8 t) : s = t := by
  rw [← decodeUtf8_encodeUtf8 s, h, decodeUtf8_encodeUtf8]

/-- A text cut off inside a character reads as the characters before it and one replacement. -/
theorem decodeUtf8_take_encodeUtf8 (s : List Char) {k : Nat} (hk : k < (encodeUtf8 s).length) :
    ∃ j < s.length, decodeUtf8 ((encodeUtf8 s).take k) = s.take j ∨
      decodeUtf8 ((encodeUtf8 s).take k) = s.take j ++ [replacement] := by
  induction s generalizing k with
  | nil => simp at hk
  | cons c s ih =>
    rw [encodeUtf8_cons, List.length_append] at hk
    rw [encodeUtf8_cons, List.take_append]
    by_cases hin : k < (encodeChar c).length
    · refine ⟨0, by simp, ?_⟩
      have hrest : k - (encodeChar c).length = 0 := by omega
      rw [hrest, List.take_zero, List.append_nil, List.take_zero, List.nil_append]
      obtain ⟨b, tail, he, _, hcut⟩ := utf8Step_encodeChar c
      cases k with
      | zero => exact Or.inl rfl
      | succ k =>
        rw [he, List.length_cons] at hin
        rw [he, List.take_succ_cons, decodeUtf8_fault (hcut k (by omega))]
        exact Or.inr rfl
    · obtain ⟨j, hj, hread⟩ := ih (k := k - (encodeChar c).length) (by omega)
      refine ⟨j + 1, by simpa using hj, ?_⟩
      rw [List.take_of_length_le (by omega), decodeUtf8_encodeChar, List.take_succ_cons,
        List.cons_append]
      exact hread.imp (congrArg _) (congrArg _)

/-- A byte below U+0080 stands in the bytes of a character only as the whole character. -/
theorem eq_of_mem_encodeChar {c : Char} {b : UInt8} (h : b ∈ encodeChar c) (hb : b < 0x80) :
    c.toNat = b.toNat := by
  have hlow : b.toNat < 128 := UInt8.lt_iff_toNat_lt.mp hb
  have hv := char_toNat_valid c
  have hfirst : ∀ m : Nat, m < 256 → b = m.toUInt8 → b.toNat = m := by
    rintro m hm rfl
    exact toUInt8_toNat hm
  unfold encodeChar at h
  simp only at h
  split at h
  · have := hfirst c.toNat (by omega) (by simpa using h)
    omega
  split at h
  · simp only [List.mem_cons, List.not_mem_nil, or_false] at h
    rcases h with h | h <;> have := hfirst _ (by omega) h <;> omega
  split at h
  · simp only [List.mem_cons, List.not_mem_nil, or_false] at h
    rcases h with h | h | h <;> have := hfirst _ (by omega) h <;> omega
  · simp only [List.mem_cons, List.not_mem_nil, or_false] at h
    rcases h with h | h | h | h <;> have := hfirst _ (by omega) h <;> omega

theorem newline_not_mem_encodeUtf8 {s : List Char} (h : '\n' ∉ s) : 0x0A ∉ encodeUtf8 s := by
  intro hm
  obtain ⟨c, hc, hb⟩ := List.mem_flatMap.mp hm
  have hn : c.toNat = '\n'.toNat := eq_of_mem_encodeChar hb (by decide)
  exact h (Char.toNat_inj.mp hn ▸ hc)

end Archiver
