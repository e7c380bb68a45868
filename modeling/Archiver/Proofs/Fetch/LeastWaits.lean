import Archiver.Proofs.Fetch.Waits

namespace Archiver

open Float.Model

/-- True of what is `2 ^ k` or more: the infinity above zero, and every number with a full mantissa
whose first digit is worth that much. -/
def AtLeast (k : Int) : UnpackedFloat → Prop
  | .infinity sign => sign = .positive
  | .finite sign m e _ => sign = .positive ∧ m.log2 = 52 ∧ k ≤ e + 52
  | .zero _ => False
  | .notANumber => False

section Rounding

open UnpackedFloat

variable {m : Nat} {e k : Int} {accuracy : Accuracy}

theorem log2_div_pow (m s : Nat) : (m / 2 ^ s).log2 = m.log2 - s := by
  rw [Nat.log2_eq_log_two, Nat.log2_eq_log_two, Nat.log_div_base_pow]

theorem log2_mul_pow (hm : m ≠ 0) (s : Nat) : (m * 2 ^ s).log2 = m.log2 + s := by
  induction s with
  | zero => simp
  | succ s ih =>
    rw [Nat.pow_succ, ← Nat.mul_assoc, Nat.mul_comm _ 2,
      Nat.log2_two_mul (Nat.mul_ne_zero hm (Nat.two_pow_pos s).ne'), ih]
    rfl

theorem log2_mono {m n : Nat} (h : m ≤ n) : m.log2 ≤ n.log2 := by
  rw [Nat.log2_eq_log_two, Nat.log2_eq_log_two]
  exact Nat.log_mono_right h

theorem ne_zero_of_log2 (h : m.log2 ≠ 0) : m ≠ 0 := by
  rintro rfl
  exact h Nat.log2_zero

theorem le_log2_mul {m n : Nat} (hm : m.log2 = 52) (hn : n.log2 = 52) : 104 ≤ (m * n).log2 := by
  have hm0 : m ≠ 0 := ne_zero_of_log2 (by omega)
  have hn0 : n ≠ 0 := ne_zero_of_log2 (by omega)
  rw [Nat.le_log2 (Nat.mul_ne_zero hm0 hn0), show 104 = 52 + 52 by rfl, Nat.pow_add]
  exact Nat.mul_le_mul ((Nat.log2_eq_iff hm0).mp hm).1 ((Nat.log2_eq_iff hn0).mp hn).1

theorem mantissa_shift (em : ExtendedMantissa) (n : Nat) :
    (em >>> n).mantissa = em.mantissa / 2 ^ n := by
  change (n.repeat ExtendedMantissa.shiftRightOne em).mantissa = _
  induction n with
  | zero => simp [Nat.repeat]
  | succ n ih =>
    rw [Nat.repeat, ExtendedMantissa.shiftRightOne, ih, Nat.div_div_eq_div_mul, Nat.pow_succ]

theorem mantissa_ofAccuracy (m : Nat) (accuracy : Accuracy) :
    (ExtendedMantissa.ofMantissaAndAccuracy m accuracy).mantissa = m := by
  unfold ExtendedMantissa.ofMantissaAndAccuracy
  split <;> rfl

theorem le_roundedMantissa (em : ExtendedMantissa) : em.mantissa ≤ em.roundedMantissa := by
  unfold ExtendedMantissa.roundedMantissa Accuracy.roundToNearestEven
  split
  · exact Nat.le_refl _
  · exact Nat.le_refl _
  · exact Nat.le_add_right _ _
  · exact Nat.le_succ _

/-- Above the subnormal numbers the exponent leaves a mantissa of 53 digits. -/
theorem targetExponent_eq (h : -1022 ≤ e + m.log2) :
    Format.binary64.targetExponent (totalExponent m e) = e + m.log2 - 52 := by
  simp only [Format.targetExponent, totalExponent, Format.mantissaBits, Format.minExponent]
  omega

theorem roundedMantissa_le (em : ExtendedMantissa) : em.roundedMantissa ≤ em.mantissa + 1 := by
  unfold ExtendedMantissa.roundedMantissa Accuracy.roundToNearestEven
  split
  · exact Nat.le_succ _
  · exact Nat.le_succ _
  · exact Nat.add_le_add_left (Nat.lt_succ_iff.mp (Nat.mod_lt _ (by decide))) _
  · exact Nat.le_refl _

/-- The first 53 digits of a mantissa that is long enough, rounded. -/
def roundedDigits (m : Nat) (accuracy : Accuracy) : Nat :=
  (ExtendedMantissa.ofMantissaAndAccuracy m accuracy >>> (m.log2 - 52)).roundedMantissa

theorem le_roundedDigits (m : Nat) (accuracy : Accuracy) :
    m / 2 ^ (m.log2 - 52) ≤ roundedDigits m accuracy := by
  have h := le_roundedMantissa (ExtendedMantissa.ofMantissaAndAccuracy m accuracy >>> (m.log2 - 52))
  rwa [mantissa_shift, mantissa_ofAccuracy] at h

theorem roundedDigits_le (m : Nat) (accuracy : Accuracy) :
    roundedDigits m accuracy ≤ m / 2 ^ (m.log2 - 52) + 1 := by
  have h := roundedMantissa_le (ExtendedMantissa.ofMantissaAndAccuracy m accuracy >>> (m.log2 - 52))
  rwa [mantissa_shift, mantissa_ofAccuracy] at h

theorem log2_cut (hm : 52 ≤ m.log2) : (m / 2 ^ (m.log2 - 52)).log2 = 52 := by
  rw [log2_div_pow]
  omega

theorem log2_roundedDigits (hm : 52 ≤ m.log2) (accuracy : Accuracy) :
    52 ≤ (roundedDigits m accuracy).log2 :=
  (log2_cut hm).symm.le.trans (log2_mono (le_roundedDigits m accuracy))

theorem shiftToTargetExponent_eq (accuracy : Accuracy) (hm : 52 ≤ m.log2)
    (h : -1022 ≤ e + m.log2) : shiftToTargetExponent .binary64 m e accuracy =
      (ExtendedMantissa.ofMantissaAndAccuracy m accuracy >>> (m.log2 - 52), e + (m.log2 - 52)) := by
  have hshift : (e + m.log2 - 52 - e).toNat = m.log2 - 52 := by omega
  simp only [shiftToTargetExponent, shiftToExponent, targetExponent_eq h, hshift]
  rw [Nat.cast_sub hm]
  rfl

/-- A mantissa that is long enough is cut to 53 digits, and once more if it was rounded up to one
digit more. -/
theorem roundWithAccuracy_eq (accuracy : Accuracy) (hm : 52 ≤ m.log2) (h : -1022 ≤ e + m.log2) :
    ∃ hpos, roundWithAccuracy .binary64 .positive m e accuracy =
      .finite .positive (roundedDigits m accuracy / 2 ^ ((roundedDigits m accuracy).log2 - 52))
        (e + (m.log2 - 52) + ((roundedDigits m accuracy).log2 - 52)) hpos := by
  have hrounded := log2_roundedDigits hm accuracy
  have hcut := log2_cut hrounded
  have hzero : roundedDigits m accuracy / 2 ^ ((roundedDigits m accuracy).log2 - 52) ≠ 0 :=
    ne_zero_of_log2 (by omega)
  have hagain := shiftToTargetExponent_eq (e := e + (m.log2 - 52)) .exact hrounded (by omega)
  refine ⟨Nat.pos_of_ne_zero hzero, ?_⟩
  unfold roundedDigits at *
  unfold roundWithAccuracy
  simp only [shiftToTargetExponent_eq accuracy hm h, hagain, mantissa_shift, mantissa_ofAccuracy,
    dif_neg hzero]

theorem atLeast_roundWithAccuracy (hm : 52 ≤ m.log2) (hk : -1022 ≤ k) (h : k ≤ e + m.log2) :
    AtLeast k (roundWithAccuracy .binary64 .positive m e accuracy) := by
  obtain ⟨hpos, heq⟩ := roundWithAccuracy_eq accuracy hm (by omega : -1022 ≤ e + m.log2)
  have hrounded := log2_roundedDigits hm accuracy
  rw [heq]
  exact ⟨rfl, log2_cut hrounded, by omega⟩

theorem atLeast_round (hm : m ≠ 0) (hk : -1022 ≤ k) (h : k ≤ e + m.log2) :
    AtLeast k (UnpackedFloat.round .binary64 .positive m e) := by
  unfold UnpackedFloat.round decreaseExponent
  rw [targetExponent_eq (by omega)]
  simp only [Nat.shiftLeft_eq]
  refine atLeast_roundWithAccuracy ?_ hk ?_
  · rw [log2_mul_pow hm]
    omega
  · rw [log2_mul_pow hm]
    omega

theorem atLeast_normalize (hm : m ≠ 0) (hk : -1022 ≤ k) (h : k ≤ e + m.log2) :
    AtLeast k (UnpackedFloat.normalize .binary64 m e .positive) := by
  unfold UnpackedFloat.normalize
  have hpos : compare (m : Int) 0 = .gt := Int.compare_eq_gt.mpr (by omega)
  rw [hpos]
  exact atLeast_round hm hk h

end Rounding

section Operations

open UnpackedFloat

variable {j k : Int} {u v : UnpackedFloat}

theorem AtLeast.unsigned (h : AtLeast k u) : IsUnsigned u := by
  cases u with
  | infinity sign => exact h
  | finite sign m e hm => exact h.1
  | zero sign => exact h.elim
  | notANumber => exact h.elim

theorem AtLeast.mono (h : AtLeast k u) (hjk : j ≤ k) : AtLeast j u := by
  cases u with
  | infinity sign => exact h
  | finite sign m e hm => exact ⟨h.1, h.2.1, hjk.trans h.2.2⟩
  | zero sign => exact h.elim
  | notANumber => exact h.elim

theorem AtLeast.isNumber (h : AtLeast k u) : u ≠ .notANumber := by
  rintro rfl
  exact h

theorem atLeast_mul (hu : AtLeast j u) (hv : AtLeast k v) (hjk : -1022 ≤ j + k) :
    AtLeast (j + k) (mul .binary64 u v) := by
  cases u with
  | infinity s =>
    cases hu
    cases v with
    | infinity t => cases hv; rfl
    | finite t n f hn => obtain ⟨rfl, -, -⟩ := hv; rfl
    | zero t => exact hv.elim
    | notANumber => exact hv.elim
  | finite s m e hm =>
    obtain ⟨rfl, hlog, he⟩ := hu
    cases v with
    | infinity t => cases hv; rfl
    | finite t n f hn =>
      obtain ⟨rfl, hlog', hf⟩ := hv
      have hproduct := le_log2_mul hlog hlog'
      exact atLeast_roundWithAccuracy (by omega) hjk (by omega)
    | zero t => exact hv.elim
    | notANumber => exact hv.elim
  | zero s => exact hu.elim
  | notANumber => exact hu.elim

theorem atLeast_add (hu : AtLeast k u) (hv : IsUnsigned v) (hnumber : v ≠ .notANumber)
    (hk : -1022 ≤ k) : AtLeast k (add .binary64 u v) := by
  cases u with
  | infinity s =>
    cases hu
    cases v with
    | infinity t => cases hv; rfl
    | finite t n f hn => rfl
    | zero t => rfl
    | notANumber => exact absurd rfl hnumber
  | finite s m e hm =>
    cases v with
    | infinity t => exact hv
    | finite t n f hn =>
      cases hv
      obtain ⟨rfl, hlog, he⟩ := hu
      change AtLeast k (UnpackedFloat.normalize .binary64
        ((m <<< (e - min e f).toNat + n <<< (f - min e f).toNat : Nat) : Int) (min e f) .positive)
      have hlarge := log2_mono (Nat.le_add_right (m <<< (e - min e f).toNat) (n <<< (f - min e f).toNat))
      rw [Nat.shiftLeft_eq m, log2_mul_pow hm.ne', hlog, ← Nat.shiftLeft_eq m] at hlarge
      exact atLeast_normalize (ne_zero_of_log2 (by omega)) hk (by omega)
    | zero t => exact hu
    | notANumber => exact absurd rfl hnumber
  | zero s => exact hu.elim
  | notANumber => exact hu.elim

/-- Dividing by a number below `2 ^ (l + 1)` takes `l + 1` digits at most. -/
theorem atLeast_div {l : Int} {n : Nat} {f : Int} {hn : 0 < n} (hu : AtLeast k u)
    (hl : f + n.log2 ≤ l) (hk : -1022 ≤ k - l - 1) :
    AtLeast (k - l - 1) (div .binary64 u (.finite .positive n f hn)) := by
  cases u with
  | infinity s => cases hu; rfl
  | finite s m e hm =>
    obtain ⟨rfl, hlog, he⟩ := hu
    have htarget : Format.binary64.targetExponent (totalExponent m e - totalExponent n f) =
        e - f - n.log2 - 1 := by
      simp only [Format.targetExponent, totalExponent, Format.mantissaBits, Format.minExponent]
      omega
    change AtLeast (k - l - 1) (roundWithAccuracy .binary64 .positive (divCore .binary64 m e n f).1
      (divCore .binary64 m e n f).2.1 (divCore .binary64 m e n f).2.2)
    simp only [divCore, htarget]
    have hshift : (e - f - min (e - f) (e - f - n.log2 - 1)).toNat = n.log2 + 1 := by omega
    have hquotient : 52 ≤ (m <<< (n.log2 + 1) / n).log2 := by
      have hless := Nat.div_le_div_left (Nat.lt_log2_self (n := n)).le hn (a := m <<< (n.log2 + 1))
      have hlog2 := log2_mono hless
      rw [log2_div_pow, Nat.shiftLeft_eq, log2_mul_pow hm.ne', hlog] at hlog2
      rw [Nat.shiftLeft_eq]
      omega
    rw [hshift]
    exact atLeast_roundWithAccuracy hquotient hk (by omega)
  | zero s => exact hu.elim
  | notANumber => exact hu.elim

theorem toNat_leading (v : BitVec 52) : (1#1 ++ v).toNat = 2 ^ 52 + v.toNat := by
  rw [BitVec.toNat_append, ← Nat.shiftLeft_add_eq_or_of_lt v.isLt]
  rfl

theorem log2_leading (v : BitVec 52) : (1#1 ++ v).toNat.log2 = 52 := by
  have hv := v.isLt
  rw [toNat_leading, Nat.log2_eq_iff (by omega)]
  omega

/-- A number with a full mantissa comes back from its bits. -/
theorem unpack_normal {m : Nat} {e : Int} (hm : 0 < m) (hlog : m.log2 = 52) (he : -1074 ≤ e)
    (hsmall : ¬ 2 ^ 11 ≤ (e + 1023 + 52).toNat + 1) :
    UnpackedFloat.unpack Format.binary64 (packComponents Format.binary64 .positive
      (BitVec.ofNat 11 (e + 1023 + 52).toNat) (BitVec.ofNat 52 m)) = .finite .positive m e hm := by
  have hfield : (BitVec.ofNat 11 (e + 1023 + 52).toNat).toNat = (e + 1023 + 52).toNat := by
    rw [BitVec.toNat_ofNat]
    exact Nat.mod_eq_of_lt (by omega)
  have hbias : (Format.binary64.exponentBias : Int) = 1023 := rfl
  have hmantissa : (1#1 ++ BitVec.ofNat 52 m).toNat = m := by
    have hrange := (Nat.log2_eq_iff hm.ne').mp hlog
    rw [toNat_leading, BitVec.toNat_ofNat]
    omega
  have hexponent : ((e + 1023 + 52).toNat : Int) - (1023 + 52) = e := by omega
  have hsign : Sign.ofBitVec (unpackSign (packComponents Format.binary64 .positive
      (BitVec.ofNat 11 (e + 1023 + 52).toNat) (BitVec.ofNat 52 m))) = .positive := by
    rw [unpackSign_packComponents]
    rfl
  unfold UnpackedFloat.unpack
  simp only [unpackExponent_packComponents, unpackMantissa_packComponents, hsign]
  split
  · next hones =>
    have hfull : (e + 1023 + 52).toNat = 2047 := hfield.symm.trans (congrArg BitVec.toNat hones)
    omega
  split
  · next hzeros =>
    have hempty : (e + 1023 + 52).toNat = 0 := hfield.symm.trans (congrArg BitVec.toNat hzeros)
    omega
  · rw [UnpackedFloat.finite.injEq]
    refine ⟨rfl, hmantissa, ?_⟩
    rw [hfield, hbias]
    exact hexponent

theorem unpack_infinity :
    UnpackedFloat.unpack Format.binary64 (packedInfinity Format.binary64 .positive) =
      .infinity .positive := by
  rfl

/-- A number with a full mantissa is packed as itself, or as infinity where its exponent is too
large. -/
theorem unpack_pack {m : Nat} {e : Int} (hm : 0 < m) (hlog : m.log2 = 52) (he : -1074 ≤ e) :
    (pack (.finite .positive m e hm)).unpack =
      if e ≤ 971 then .finite .positive m e hm else .infinity .positive := by
  change UnpackedFloat.unpack Format.binary64 (UnpackedFloat.pack Format.binary64 _) = _
  unfold UnpackedFloat.pack
  simp only
  split
  · next hlarge =>
    rw [if_neg, unpack_infinity]
    have hlarge' : 2 ^ 11 ≤ (e + 1023 + 52).toNat + 1 := hlarge
    omega
  · next hsmall =>
    have hsmall' : ¬ 2 ^ 11 ≤ (e + 1023 + 52).toNat + 1 := hsmall
    rw [if_pos (by omega : e ≤ 971), if_pos (by rw [hlog]; rfl)]
    exact unpack_normal hm hlog he hsmall'

/-- Packing keeps what a number is at least. -/
theorem atLeast_pack (hu : AtLeast k u) (hk : -1022 ≤ k) : AtLeast k (pack u).unpack := by
  cases u with
  | infinity s =>
    cases hu
    change AtLeast k (UnpackedFloat.unpack Format.binary64 (packedInfinity Format.binary64 .positive))
    rw [unpack_infinity]
    rfl
  | finite s m e hm =>
    obtain ⟨rfl, hlog, he⟩ := hu
    rw [unpack_pack hm hlog (by omega)]
    split
    · exact ⟨rfl, hlog, he⟩
    · rfl
  | zero s => exact hu.elim
  | notANumber => exact hu.elim

end Operations

section Seconds

variable {x y : Float} {j k : Int}

theorem atLeast_toFloat {n : Nat} (hn : n ≠ 0) (hlt : n < 2 ^ 64) :
    AtLeast n.log2 (UInt64.ofNat n).toFloat.toModel.unpack := by
  have hsame : (UInt64.ofNat n).toNat = n := UInt64.toNat_ofNat_of_lt' hlt
  change AtLeast n.log2 (pack (UnpackedFloat.normalize .binary64 ((UInt64.ofNat n).toNat : Int) 0
    .positive)).unpack
  rw [hsame]
  exact atLeast_pack (atLeast_normalize hn (by omega) (by omega)) (by omega)

theorem atLeast_product (hx : AtLeast j x.toModel.unpack) (hy : AtLeast k y.toModel.unpack)
    (hjk : -1022 ≤ j + k) : AtLeast (j + k) (x * y).toModel.unpack :=
  atLeast_pack (atLeast_mul hx hy hjk) hjk

theorem atLeast_powerFrom (n : Nat) (hx : AtLeast 0 x.toModel.unpack)
    (hy : AtLeast 0 y.toModel.unpack) : AtLeast 0 (powerFrom x y n).toModel.unpack := by
  fun_induction powerFrom x y n with
  | case1 x y => exact hx
  | case2 x y n hn ih =>
    refine ih ?_ (atLeast_product hy hy (by decide))
    split
    · exact atLeast_product hx hy (by decide)
    · exact hx

/-- The milliseconds beyond the last whole second, as a part of a second. -/
theorem atLeast_fraction {n : Nat} (hn : 0 < n) (hlt : n < 1000) :
    AtLeast (-11) ((UInt64.ofNat (n * 1000000)).toFloat / 1e9).toModel.unpack := by
  have hbillion : ∃ hm, (1e9 : Float).toModel.unpack =
      .finite .positive 8388608000000000 (-23) hm := ⟨_, rfl⟩
  obtain ⟨hm, hbillion⟩ := hbillion
  have hlog : (19 : Int) ≤ (n * 1000000).log2 := by
    have hmono : (1000000 : Nat).log2 ≤ (n * 1000000).log2 := log2_mono (by omega)
    exact_mod_cast hmono
  have hparts := (atLeast_toFloat (by omega : n * 1000000 ≠ 0) (by omega)).mono hlog
  change AtLeast (-11) (pack (UnpackedFloat.div .binary64
    (UInt64.ofNat (n * 1000000)).toFloat.toModel.unpack (1e9 : Float).toModel.unpack)).unpack
  rw [hbillion]
  exact atLeast_pack (atLeast_div (l := 29) hparts (by decide) (by decide)) (by decide)

/-- What lies beyond the last whole second is nothing, or one millisecond at least. -/
theorem fraction_cases (millis : Nat) :
    (millis % 1000 = 0 ∧
      ((UInt64.ofNat (millis % 1000 * 1000000)).toFloat / 1e9).toModel.unpack = .zero .positive) ∨
    AtLeast (-11) ((UInt64.ofNat (millis % 1000 * 1000000)).toFloat / 1e9).toModel.unpack := by
  rcases Nat.eq_zero_or_pos (millis % 1000) with hzero | hpos
  · rw [hzero]
    exact Or.inl ⟨rfl, rfl⟩
  · exact Or.inr (atLeast_fraction hpos (Nat.mod_lt _ (by decide)))

theorem atLeast_secondsOfMillis {millis : Nat} (hpos : 0 < millis) (hlt : millis < 2 ^ 64) :
    AtLeast (-11) (secondsOfMillis millis).toModel.unpack := by
  change AtLeast (-11) (pack (UnpackedFloat.add .binary64
    (UInt64.ofNat (millis / 1000)).toFloat.toModel.unpack
    ((UInt64.ofNat (millis % 1000 * 1000000)).toFloat / 1e9).toModel.unpack)).unpack
  refine atLeast_pack ?_ (by decide)
  have hfraction := fraction_cases millis
  generalize ((UInt64.ofNat (millis % 1000 * 1000000)).toFloat / 1e9).toModel.unpack = v at hfraction ⊢
  rcases Nat.eq_zero_or_pos (millis / 1000) with hnone | hwhole
  · have hleast : AtLeast (-11) v := hfraction.resolve_left fun h => by omega
    have hzero : (UInt64.ofNat 0).toFloat.toModel.unpack = .zero .positive := rfl
    rw [hnone, hzero]
    cases v with
    | zero s => exact hleast.elim
    | _ => exact hleast
  · have hleast := (atLeast_toFloat hwhole.ne' (by omega)).mono (by omega : (-11 : Int) ≤ _)
    rcases hfraction with ⟨-, rfl⟩ | hfraction
    · exact atLeast_add hleast trivial (by simp) (by decide)
    · exact atLeast_add hleast hfraction.unsigned hfraction.isNumber (by decide)

/-- What the bits of a number say about it. -/
theorem unpack_finite {b : BitVec Format.binary64.numBits} {sign : UnpackedFloat.Sign} {m : Nat}
    {e : Int} {hm : 0 < m} (h : UnpackedFloat.unpack .binary64 b = .finite sign m e hm) :
    (UnpackedFloat.unpackExponent b).toNat ≠ 2047 ∧
    (((UnpackedFloat.unpackExponent b).toNat = 0 ∧ m = (UnpackedFloat.unpackMantissa b).toNat ∧
        e = -1074) ∨
      ((UnpackedFloat.unpackExponent b).toNat ≠ 0 ∧
        m = 2 ^ 52 + (UnpackedFloat.unpackMantissa b).toNat ∧
        e = (UnpackedFloat.unpackExponent b).toNat - 1075)) := by
  have hbias : (Format.binary64.exponentBias : Int) = 1023 := rfl
  unfold UnpackedFloat.unpack at h
  simp only [hbias] at h
  split at h
  · split at h <;> cases h
  next hones =>
  have hfull : (UnpackedFloat.unpackExponent b).toNat ≠ 2047 := fun hall =>
    hones (BitVec.eq_of_toNat_eq hall)
  refine ⟨hfull, ?_⟩
  split at h
  · next hzeros =>
    split at h
    · cases h
    · cases h
      rw [hzeros]
      exact Or.inl ⟨rfl, rfl, rfl⟩
  · next hzeros =>
    have hsome : (UnpackedFloat.unpackExponent b).toNat ≠ 0 := fun hnone =>
      hzeros (BitVec.eq_of_toNat_eq hnone)
    cases h
    exact Or.inr ⟨hsome, toNat_leading _, by omega⟩

theorem unpack_one :
    (1.0 : Float).toModel.unpack = .finite .positive (2 ^ 52) (-52) (by decide) := rfl

/-- A finite number that is not below one is one at least. -/
theorem atLeast_of_not_lt (hfinite : x.isFinite = true) (h : ¬ x < 1.0) :
    AtLeast 0 x.toModel.unpack := by
  have hunpack : x.toModel.unpack.isFinite = true := hfinite
  rw [float_lt_iff, unpack_one] at h
  cases hx : x.toModel.unpack with
  | infinity s =>
    rw [hx] at hunpack
    cases hunpack
  | notANumber =>
    rw [hx] at hunpack
    cases hunpack
  | zero s =>
    rw [hx] at h
    exact absurd rfl h
  | finite s m e hm =>
    rw [hx] at h
    cases s with
    | negative => exact absurd rfl h
    | positive =>
      have hlow : ¬ e < -52 := by
        intro hless
        have hcompare := Int.compare_eq_lt.mpr hless
        simp [UnpackedFloat.lt, UnpackedFloat.compare, hcompare] at h
      rcases unpack_finite hx with ⟨-, ⟨-, -, rfl⟩ | ⟨-, rfl, -⟩⟩
      · omega
      · exact ⟨rfl, by rw [← toNat_leading]; exact log2_leading _, by omega⟩

theorem not_lt_one (h : AtLeast 0 x.toModel.unpack) : ¬ x < 1.0 := by
  rw [float_lt_iff, unpack_one]
  cases hx : x.toModel.unpack with
  | infinity s =>
    rw [hx] at h
    cases h
    decide
  | finite s m e hm =>
    rw [hx] at h
    obtain ⟨rfl, hlog, he⟩ := h
    obtain ⟨hlow, -⟩ := (Nat.log2_eq_iff hm.ne').mp hlog
    simp only [UnpackedFloat.lt, UnpackedFloat.compare, beq_iff_eq, Option.some.injEq,
      Ordering.then_eq_lt, Int.compare_eq_lt, Int.compare_eq_eq, Nat.compare_eq_lt]
    omega
  | zero s =>
    rw [hx] at h
    exact h.elim
  | notANumber =>
    rw [hx] at h
    exact h.elim

/-- A float is read as the number that it unpacks to. -/
theorem ofFloat_of_unpack {sign : UnpackedFloat.Sign} {m : Nat} {e : Int} {hm : 0 < m}
    (h : x.toModel.unpack = .finite sign m e hm) :
    ∃ negative, Dyadic.ofFloat? x = some ⟨negative, m, e⟩ := by
  have hfield : x.toBits.toNat / Nat.pow 2 52 % 2048 =
      (@UnpackedFloat.unpackExponent .binary64 x.toModel.toBits.toBitVec).toNat := by
    rw [UnpackedFloat.unpackExponent_def, BitVec.extractLsb'_toNat, Nat.shiftRight_eq_div_pow]
    rfl
  have hlow : x.toBits.toNat % Nat.pow 2 52 =
      (@UnpackedFloat.unpackMantissa .binary64 x.toModel.toBits.toBitVec).toNat := by
    rw [UnpackedFloat.unpackMantissa_def, BitVec.extractLsb'_toNat, Nat.shiftRight_zero]
    rfl
  unfold Dyadic.ofFloat?
  simp only [hfield, hlow]
  obtain ⟨hfull, ⟨hzero, rfl, rfl⟩ | ⟨hsome, rfl, rfl⟩⟩ := unpack_finite h
  · rw [hzero]
    exact ⟨_, rfl⟩
  · rw [if_neg (by simpa using hfull), if_neg (by simpa using hsome), Nat.add_comm]
    exact ⟨_, rfl⟩

theorem roundHalfEven_pos {num den : Nat} (hden : 0 < den) (h : den ≤ num) :
    0 < roundHalfEven num den := by
  have hquotient : 0 < num / den := Nat.div_pos h hden
  unfold roundHalfEven
  simp only
  split
  · exact hquotient
  split
  · exact Nat.succ_pos _
  split
  · exact hquotient
  · exact Nat.succ_pos _

/-- Nothing as long as a millisecond or so is rounded to no nanoseconds. -/
theorem nanosOfSeconds_pos (h : AtLeast (-11) x.toModel.unpack) (hfinite : x.isFinite = true) :
    0 < nanosOfSeconds x := by
  have hunpack : x.toModel.unpack.isFinite = true := hfinite
  unfold nanosOfSeconds
  cases hx : x.toModel.unpack with
  | infinity s =>
    rw [hx] at hunpack
    cases hunpack
  | zero s =>
    rw [hx] at h
    exact h.elim
  | notANumber =>
    rw [hx] at h
    exact h.elim
  | finite s m e hm =>
    rw [hx] at h
    obtain ⟨-, hlog, he⟩ := h
    have hfull : 2 ^ 52 ≤ m := ((Nat.log2_eq_iff hm.ne').mp hlog).1
    obtain ⟨negative, hread⟩ := ofFloat_of_unpack hx
    rw [hread]
    cases e with
    | ofNat e =>
      have hnum : 0 < m * 2 ^ e := Nat.mul_pos hm (Nat.two_pow_pos e)
      exact roundHalfEven_pos Nat.one_pos (Nat.mul_pos hnum (by decide))
    | negSucc e =>
      have hden : 2 ^ (e + 1) ≤ 2 ^ 63 := Nat.pow_le_pow_right (by decide) (by omega)
      have hnum : 2 ^ 63 ≤ m * 1000000000 := by omega
      exact roundHalfEven_pos (Nat.two_pow_pos _) (hden.trans hnum)

theorem millisOfWait_pos {nanos : Nat} (h : 0 < nanos) : 0 < millisOfWait nanos := by
  unfold millisOfWait
  split
  · decide
  · omega

/-- A base of one millisecond or more and a multiplier of one or more leave a wait before every
retry. -/
theorem waitMillis_pos {p : RetryPolicy} (hbase : 0 < p.baseMillis) (hlt : p.baseMillis < 2 ^ 64)
    (hfinite : p.multiplier.isFinite = true) (hone : ¬ p.multiplier < 1.0) (retry : Nat) :
    0 < p.waitMillis retry := by
  have hstart : AtLeast 0 (1.0 : Float).toModel.unpack := atLeast_of_not_lt (by decide) (by decide)
  have hpower : AtLeast 0 (power p.multiplier (min retry 2147483647)).toModel.unpack :=
    atLeast_powerFrom _ hstart (atLeast_of_not_lt hfinite hone)
  have hseconds : AtLeast (-11) (p.seconds retry).toModel.unpack :=
    atLeast_product (atLeast_secondsOfMillis hbase hlt) hpower (by decide)
  have hsigned : ¬ p.seconds retry < 0.0 := (notBelowZero_iff _).mp hseconds.unsigned
  unfold RetryPolicy.waitMillis RetryPolicy.wait?
  simp only [if_neg hsigned]
  split
  · next hshort =>
    exact millisOfWait_pos (nanosOfSeconds_pos hseconds (Bool.and_eq_true_iff.mp hshort).1)
  · exact millisOfWait_pos (by decide)

end Seconds

end Archiver
