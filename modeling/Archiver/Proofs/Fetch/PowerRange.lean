import Archiver.Proofs.Fetch.LeastWaits

namespace Archiver

open Float.Model

/-- The factor that one rounding can change a number by, at most. -/
def slack : ℚ := 1 + 1 / 2 ^ 52

/-- The exact value of a finite float, without its sign. -/
def magnitude (x : Float) : ℚ :=
  match Dyadic.ofFloat? x with
  | none => 0
  | some d => d.mantissa * 2 ^ d.exponent

/-- Stands for a value of one or more after a number of roundings: as a number that is as many
factors away at most, or as the infinity, if the value is as large. -/
def Tracks (v : ℚ) (k : ℕ) : UnpackedFloat → Prop
  | .infinity sign => sign = .positive ∧ 2 ^ 1024 ≤ v * slack ^ k
  | .finite sign m e _ => sign = .positive ∧ m.log2 = 52 ∧ -52 ≤ e ∧
      v ≤ m * 2 ^ e * slack ^ k ∧ m * 2 ^ e ≤ v * slack ^ k
  | .zero _ => False
  | .notANumber => False

theorem one_le_slack : 1 ≤ slack := by norm_num [slack]

theorem slack_pos : 0 < slack := by norm_num [slack]

/-- All roundings that a power takes together do not double it. -/
theorem slack_pow_le {n : ℕ} (hn : n ≤ 2147483647) : slack ^ n ≤ 2 := by
  have hn' : (n : ℚ) ≤ 2147483647 := by exact_mod_cast hn
  have hbernoulli : 1 / 2 ≤ (1 - 1 / 2 ^ 52 : ℚ) ^ n := by
    rw [sub_eq_add_neg]
    refine le_trans ?_ (one_add_mul_le_pow (by norm_num) n)
    linarith
  have hcancel : slack ^ n * (1 - 1 / 2 ^ 52) ^ n ≤ 1 := by
    rw [← mul_pow]
    exact pow_le_one₀ (by norm_num [slack]) (by norm_num [slack])
  have hpos : 0 < slack ^ n := pow_pos slack_pos n
  nlinarith

section Rounding

open UnpackedFloat

variable {m q r : Nat} {e : Int}

/-- A full mantissa that was rounded up to one digit more ends with a zero. -/
theorem cut_rounded (hq : q.log2 = 52) (hlow : q ≤ r) (hhigh : r ≤ q + 1) :
    r / 2 ^ (r.log2 - 52) * 2 ^ (r.log2 - 52) = r := by
  have hrange := (Nat.log2_eq_iff (ne_zero_of_log2 (by omega))).mp hq
  rcases Nat.lt_or_ge r (2 ^ 53) with hless | hmore
  · have hr : r.log2 = 52 := (Nat.log2_eq_iff (by omega)).mpr ⟨by omega, hless⟩
    rw [hr, Nat.sub_self, Nat.pow_zero, Nat.div_one, Nat.mul_one]
  · obtain rfl : r = 2 ^ 53 := by omega
    rw [Nat.log2_two_pow]
    rfl

/-- A number of 53 digits or more is changed by one factor at most when a whole number next to its
first 53 digits takes their place. -/
theorem digits_close (hm : 52 ≤ m.log2) (hlow : m / 2 ^ (m.log2 - 52) ≤ r)
    (hhigh : r ≤ m / 2 ^ (m.log2 - 52) + 1) :
    (m : ℚ) ≤ r * 2 ^ (m.log2 - 52) * slack ∧ (r * 2 ^ (m.log2 - 52) : ℚ) ≤ m * slack := by
  have hcut := log2_cut hm
  have hunder : m / 2 ^ (m.log2 - 52) * 2 ^ (m.log2 - 52) ≤ m := Nat.div_mul_le_self _ _
  have hover : m < (m / 2 ^ (m.log2 - 52) + 1) * 2 ^ (m.log2 - 52) :=
    Nat.lt_mul_of_div_lt (Nat.lt_succ_self _) (Nat.two_pow_pos _)
  generalize m / 2 ^ (m.log2 - 52) = q at *
  have hq : 2 ^ 52 ≤ q := ((Nat.log2_eq_iff (ne_zero_of_log2 (by omega))).mp hcut).1
  have hstep : (q + 1 : ℚ) ≤ q * slack := by
    have hq' : (2 ^ 52 : ℚ) ≤ q := by exact_mod_cast hq
    rw [slack]
    linarith
  have hpow : (0 : ℚ) < 2 ^ (m.log2 - 52) := by positivity
  have hunder' : (q * 2 ^ (m.log2 - 52) : ℚ) ≤ m := by exact_mod_cast hunder
  have hover' : (m : ℚ) ≤ (q + 1) * 2 ^ (m.log2 - 52) := by exact_mod_cast hover.le
  have hlow' : (q : ℚ) ≤ r := by exact_mod_cast hlow
  have hhigh' : (r : ℚ) ≤ q + 1 := by exact_mod_cast hhigh
  have hslack := slack_pos
  constructor
  · calc (m : ℚ) ≤ (q + 1) * 2 ^ (m.log2 - 52) := hover'
      _ ≤ q * slack * 2 ^ (m.log2 - 52) := by gcongr
      _ ≤ r * slack * 2 ^ (m.log2 - 52) := by gcongr
      _ = r * 2 ^ (m.log2 - 52) * slack := by ring
  · calc (r * 2 ^ (m.log2 - 52) : ℚ) ≤ (q + 1) * 2 ^ (m.log2 - 52) := by gcongr
      _ ≤ q * slack * 2 ^ (m.log2 - 52) := by gcongr
      _ = q * 2 ^ (m.log2 - 52) * slack := by ring
      _ ≤ m * slack := by gcongr

/-- Rounding leaves a full mantissa, and changes a number by one factor at most. -/
theorem round_close (hm : 52 ≤ m.log2) (he : -1022 ≤ e + m.log2) : ∃ n f hn,
    roundWithAccuracy .binary64 .positive m e .exact = .finite .positive n f hn ∧ n.log2 = 52 ∧
      e + m.log2 - 52 ≤ f ∧ (m * 2 ^ e : ℚ) ≤ n * 2 ^ f * slack ∧
      (n * 2 ^ f : ℚ) ≤ m * 2 ^ e * slack := by
  obtain ⟨hpos, heq⟩ := roundWithAccuracy_eq .exact hm he
  have hrounded := log2_roundedDigits hm .exact
  have hlow := le_roundedDigits m .exact
  have hhigh := roundedDigits_le m .exact
  have hwhole := cut_rounded (log2_cut hm) hlow hhigh
  obtain ⟨hless, hmore⟩ := digits_close hm hlow hhigh
  generalize roundedDigits m .exact = r at *
  refine ⟨_, _, _, heq, log2_cut hrounded, by omega, ?_⟩
  have hvalue : ((r / 2 ^ (r.log2 - 52) : ℕ) : ℚ) * 2 ^ (e + (m.log2 - 52) + (r.log2 - 52) : ℤ) =
      r * 2 ^ (m.log2 - 52) * 2 ^ e := by
    have hwhole' : ((r / 2 ^ (r.log2 - 52) : ℕ) : ℚ) * 2 ^ (r.log2 - 52) = r := by
      exact_mod_cast hwhole
    have hs : (m.log2 - 52 : ℤ) = (m.log2 - 52 : ℕ) := by omega
    have ht : (r.log2 - 52 : ℤ) = (r.log2 - 52 : ℕ) := by omega
    rw [hs, ht, zpow_add₀ two_ne_zero, zpow_add₀ two_ne_zero, zpow_natCast, zpow_natCast]
    linear_combination 2 ^ (m.log2 - 52) * 2 ^ e * hwhole'
  have hpow : (0 : ℚ) < 2 ^ e := zpow_pos two_pos e
  rw [hvalue]
  constructor
  · calc (m * 2 ^ e : ℚ) ≤ r * 2 ^ (m.log2 - 52) * slack * 2 ^ e := by gcongr
      _ = r * 2 ^ (m.log2 - 52) * 2 ^ e * slack := by ring
  · calc (r * 2 ^ (m.log2 - 52) * 2 ^ e : ℚ) ≤ m * slack * 2 ^ e := by gcongr
      _ = m * 2 ^ e * slack := by ring

end Rounding

section Products

open UnpackedFloat

variable {v z : ℚ} {j k : ℕ} {u w : UnpackedFloat}

theorem full_mantissa {m : Nat} (h : m.log2 = 52) : (2 ^ 52 : ℚ) ≤ m ∧ (m : ℚ) < 2 ^ 53 := by
  obtain ⟨hlow, hhigh⟩ := (Nat.log2_eq_iff (ne_zero_of_log2 (by omega))).mp h
  exact ⟨by exact_mod_cast hlow, by exact_mod_cast hhigh⟩

theorem scale_le {m : Nat} {e f : Int} (h : m.log2 = 52) (hf : f ≤ e + 52) :
    (2 : ℚ) ^ f ≤ m * 2 ^ e := by
  have hpow : (0 : ℚ) < 2 ^ e := zpow_pos two_pos e
  calc (2 : ℚ) ^ f ≤ 2 ^ (52 + e : ℤ) := zpow_le_zpow_right₀ one_le_two (by omega)
    _ = 2 ^ 52 * 2 ^ e := by rw [zpow_add₀ two_ne_zero]; rfl
    _ ≤ m * 2 ^ e := by gcongr; exact (full_mantissa h).1

theorem Tracks.one_le (h : Tracks v k u) : 1 ≤ v * slack ^ k := by
  cases u with
  | infinity s => exact (one_le_pow₀ one_le_two).trans h.2
  | finite s m e hm =>
    obtain ⟨-, hlog, he, -, hhigh⟩ := h
    exact (scale_le (f := 0) hlog (by omega)).trans hhigh
  | zero s => exact h.elim
  | notANumber => exact h.elim

theorem Tracks.pos (h : Tracks v k u) : 0 < v :=
  pos_of_mul_pos_left (zero_lt_one.trans_le h.one_le) (pow_pos slack_pos k).le

/-- A product with the infinity is the infinity, as the other factor is one or more. -/
theorem tracks_overflow (hv : 2 ^ 1024 ≤ v * slack ^ j) (hz : 1 ≤ z * slack ^ k) :
    2 ^ 1024 ≤ v * z * slack ^ (j + k + 1) :=
  calc (2 : ℚ) ^ 1024 ≤ v * slack ^ j := hv
    _ ≤ v * slack ^ j * (z * slack ^ k) := le_mul_of_one_le_right (le_trans (by positivity) hv) hz
    _ ≤ v * slack ^ j * (z * slack ^ k) * slack :=
      le_mul_of_one_le_right (mul_nonneg (le_trans (by positivity) hv) (by linarith)) one_le_slack
    _ = v * z * slack ^ (j + k + 1) := by ring

/-- A product takes the roundings of both factors and one more. -/
theorem tracks_mul (hu : Tracks v j u) (hw : Tracks z k w) :
    Tracks (v * z) (j + k + 1) (mul .binary64 u w) := by
  have hv := hu.one_le
  have hz := hw.one_le
  have hzpos := hw.pos
  cases u with
  | infinity s =>
    obtain ⟨rfl, hlarge⟩ := hu
    cases w with
    | infinity t =>
      obtain ⟨rfl, -⟩ := hw
      exact ⟨rfl, tracks_overflow hlarge hz⟩
    | finite t n f hn =>
      obtain ⟨rfl, -⟩ := hw
      exact ⟨rfl, tracks_overflow hlarge hz⟩
    | zero t => exact hw.elim
    | notANumber => exact hw.elim
  | finite s m e hm =>
    obtain ⟨rfl, hlog, he, hlow, hhigh⟩ := hu
    cases w with
    | infinity t =>
      obtain ⟨rfl, hlarge⟩ := hw
      have hover := tracks_overflow hlarge hv
      rw [mul_comm z v, Nat.add_comm k j] at hover
      exact ⟨rfl, hover⟩
    | finite t n f hn =>
      obtain ⟨rfl, hlog', hf, hlow', hhigh'⟩ := hw
      have hproduct := le_log2_mul hlog hlog'
      obtain ⟨r, g, hr, heq, hrlog, hg, hless, hmore⟩ :=
        round_close (m := m * n) (e := e + f) (by omega) (by omega)
      have hvalue : (((m * n : ℕ) : ℚ) * 2 ^ (e + f)) = m * 2 ^ e * (n * 2 ^ f) := by
        rw [zpow_add₀ two_ne_zero]
        push_cast
        ring
      rw [hvalue] at hless hmore
      change Tracks _ _ (roundWithAccuracy .binary64 .positive (m * n) (e + f) .exact)
      rw [heq]
      have hslack := slack_pos
      refine ⟨rfl, hrlog, by omega, ?_, ?_⟩
      · calc v * z ≤ m * 2 ^ e * slack ^ j * (n * 2 ^ f * slack ^ k) :=
            mul_le_mul hlow hlow' hzpos.le (by positivity)
          _ = m * 2 ^ e * (n * 2 ^ f) * slack ^ (j + k) := by ring
          _ ≤ r * 2 ^ g * slack * slack ^ (j + k) := by gcongr
          _ = r * 2 ^ g * slack ^ (j + k + 1) := by ring
      · calc (r * 2 ^ g : ℚ) ≤ m * 2 ^ e * (n * 2 ^ f) * slack := hmore
          _ ≤ v * slack ^ j * (z * slack ^ k) * slack := by gcongr
          _ = v * z * slack ^ (j + k + 1) := by ring
    | zero t => exact hw.elim
    | notANumber => exact hw.elim
  | zero s => exact hu.elim
  | notANumber => exact hu.elim

theorem tracks_pack (hu : Tracks v k u) : Tracks v k (pack u).unpack := by
  cases u with
  | infinity s =>
    obtain ⟨rfl, hlarge⟩ := hu
    change Tracks v k (UnpackedFloat.unpack Format.binary64 (packedInfinity Format.binary64 .positive))
    rw [unpack_infinity]
    exact ⟨rfl, hlarge⟩
  | finite s m e hm =>
    obtain ⟨rfl, hlog, he, hlow, hhigh⟩ := hu
    rw [unpack_pack hm hlog (by omega)]
    split
    · exact ⟨rfl, hlog, he, hlow, hhigh⟩
    · next hlarge => exact ⟨rfl, (scale_le (f := 1024) hlog (by omega)).trans hhigh⟩
  | zero s => exact hu.elim
  | notANumber => exact hu.elim

end Products

section Powers

variable {x y : Float} {v z : ℚ} {j k n : ℕ}

theorem tracks_product (hx : Tracks v j x.toModel.unpack) (hy : Tracks z k y.toModel.unpack) :
    Tracks (v * z) (j + k + 1) (x * y).toModel.unpack :=
  tracks_pack (tracks_mul hx hy)

/-- Squaring doubles the exponent and the roundings alike: in the end there is one rounding for each
factor of the power. -/
theorem tracks_powerFrom (n : Nat) (hx : Tracks v j x.toModel.unpack)
    (hy : Tracks z k y.toModel.unpack) :
    Tracks (v * z ^ n) (j + (k + 1) * n) (powerFrom x y n).toModel.unpack := by
  fun_induction powerFrom x y n generalizing v z j k with
  | case1 x y => simpa using hx
  | case2 x y n hn ih =>
    have hsquare := tracks_product hy hy
    by_cases hodd : n % 2 = 1
    · rw [dif_pos hodd] at ih
      rw [if_pos hodd]
      have h := ih (tracks_product hx hy) hsquare
      have hvalue : v * z * (z * z) ^ (n / 2) = v * z ^ n := by
        rw [mul_assoc, ← pow_two, ← pow_mul, ← pow_succ', show 2 * (n / 2) + 1 = n by omega]
      have hcount : j + k + 1 + (k + k + 1 + 1) * (n / 2) = j + (k + 1) * n := by
        have hn' : n = 2 * (n / 2) + 1 := by omega
        generalize n / 2 = i at *
        subst hn'
        ring
      rwa [hvalue, hcount] at h
    · rw [dif_neg hodd] at ih
      rw [if_neg hodd]
      have h := ih hx hsquare
      have hvalue : v * (z * z) ^ (n / 2) = v * z ^ n := by
        rw [← pow_two, ← pow_mul, show 2 * (n / 2) = n by omega]
      have hcount : j + (k + k + 1 + 1) * (n / 2) = j + (k + 1) * n := by
        have hn' : n = 2 * (n / 2) := by omega
        generalize n / 2 = i at *
        subst hn'
        ring
      rwa [hvalue, hcount] at h

/-- A finite number of one or more stands for its exact value. -/
theorem tracks_self (hfinite : x.isFinite = true) (hone : ¬ x < 1.0) :
    Tracks (magnitude x) 0 x.toModel.unpack := by
  have hleast := atLeast_of_not_lt hfinite hone
  have hunpack : x.toModel.unpack.isFinite = true := hfinite
  cases hx : x.toModel.unpack with
  | finite s m e hm =>
    rw [hx] at hleast
    obtain ⟨rfl, hlog, he⟩ := hleast
    obtain ⟨negative, hread⟩ := ofFloat_of_unpack hx
    have hvalue : magnitude x = m * 2 ^ e := by rw [magnitude, hread]
    rw [hvalue]
    exact ⟨rfl, hlog, by omega, by simp, by simp⟩
  | infinity s =>
    rw [hx] at hunpack
    cases hunpack
  | zero s =>
    rw [hx] at hleast
    exact hleast.elim
  | notANumber =>
    rw [hx] at hunpack
    cases hunpack

theorem magnitude_one : magnitude 1.0 = 1 := by
  have hread : Dyadic.ofFloat? 1.0 = some ⟨false, 2 ^ 52, -52⟩ := by decide +kernel
  rw [magnitude, hread]
  norm_num

/-- The power of a number of one or more is off by as many roundings as it has factors. -/
theorem tracks_power (hfinite : x.isFinite = true) (hone : ¬ x < 1.0) (n : Nat) :
    Tracks (magnitude x ^ n) n (power x n).toModel.unpack := by
  have h := tracks_powerFrom n (tracks_self (x := 1.0) (by decide) (by decide))
    (tracks_self hfinite hone)
  rw [magnitude_one, one_mul, zero_add, zero_add, one_mul] at h
  exact h

/-- The exponent of a number has a bound, as the largest field of its bits is left to infinity. -/
theorem exponent_le {b : BitVec Format.binary64.numBits} {sign : UnpackedFloat.Sign} {m : Nat}
    {e : Int} {hm : 0 < m} (h : UnpackedFloat.unpack .binary64 b = .finite sign m e hm) :
    e ≤ 971 := by
  have hfield : (@UnpackedFloat.unpackExponent .binary64 b).toNat < 2 ^ 11 :=
    (@UnpackedFloat.unpackExponent .binary64 b).isLt
  obtain ⟨hfull, ⟨-, -, rfl⟩ | ⟨-, -, rfl⟩⟩ := unpack_finite h
  · decide
  · omega

theorem lt_scale {m : Nat} {e : Int} (hlog : m.log2 = 52) (he : e ≤ 971) :
    (m * 2 ^ e : ℚ) < 2 ^ 1024 :=
  calc (m * 2 ^ e : ℚ) < 2 ^ 53 * 2 ^ e := by gcongr; exact (full_mantissa hlog).2
    _ ≤ 2 ^ 53 * 2 ^ (971 : ℤ) := by gcongr; exact one_le_two
    _ = 2 ^ 1024 := by rw [show (971 : ℤ) = (971 : ℕ) by rfl, zpow_natCast, ← pow_add]

/-- As long as the exact power has room, the power has. -/
theorem power_finite (hfinite : x.isFinite = true) (hone : ¬ x < 1.0) (hn : n ≤ 2147483647)
    (h : magnitude x ^ n < 2 ^ 1023) : (power x n).isFinite = true := by
  have htracks := tracks_power hfinite hone n
  rw [isFinite_eq]
  cases hp : (power x n).toModel.unpack with
  | infinity s =>
    rw [hp] at htracks
    have hroom : magnitude x ^ n * slack ^ n < 2 ^ 1024 :=
      calc magnitude x ^ n * slack ^ n ≤ magnitude x ^ n * 2 :=
            mul_le_mul_of_nonneg_left (slack_pow_le hn) htracks.pos.le
        _ < 2 ^ 1023 * 2 := by gcongr
        _ = 2 ^ 1024 := (pow_succ _ _).symm
    exact absurd htracks.2 (not_le.mpr hroom)
  | finite s m e hm => rfl
  | zero s => rfl
  | notANumber =>
    rw [hp] at htracks
    exact htracks.elim

/-- Where the exact power has no room left, the power is infinite. -/
theorem power_infinite (hfinite : x.isFinite = true) (hone : ¬ x < 1.0) (hn : n ≤ 2147483647)
    (h : 2 ^ 1025 ≤ magnitude x ^ n) : (power x n).isFinite = false := by
  have htracks := tracks_power hfinite hone n
  rw [isFinite_eq]
  cases hp : (power x n).toModel.unpack with
  | infinity s => rfl
  | finite s m e hm =>
    rw [hp] at htracks
    obtain ⟨rfl, hlog, -, hlow, -⟩ := htracks
    have hroom : (m * 2 ^ e * slack ^ n : ℚ) < 2 ^ 1025 :=
      calc (m * 2 ^ e * slack ^ n : ℚ) ≤ m * 2 ^ e * 2 := by gcongr; exact slack_pow_le hn
        _ < 2 ^ 1024 * 2 := by gcongr; exact lt_scale hlog (exponent_le hp)
        _ = 2 ^ 1025 := (pow_succ _ _).symm
    exact absurd (h.trans hlow) (not_le.mpr hroom)
  | zero s =>
    rw [hp] at htracks
    exact htracks.elim
  | notANumber => rfl

end Powers

end Archiver
