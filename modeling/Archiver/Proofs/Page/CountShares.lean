import Archiver.Proofs.Fetch.LeastWaits

namespace Archiver

open Float.Model

section Rounding

variable {num num' : Nat}

theorem roundHalfEven_eq (num den : Nat) : roundHalfEven num den = num / den +
    if 2 * (num % den) < den then 0 else if den < 2 * (num % den) then 1 else num / den % 2 := by
  unfold roundHalfEven
  simp only [beq_iff_eq]
  split_ifs <;> omega

/-- A larger number is not rounded to a smaller whole one. -/
theorem roundHalfEven_mono (den : Nat) (h : num ≤ num') :
    roundHalfEven num den ≤ roundHalfEven num' den := by
  have hquotient := Nat.div_le_div_right (c := den) h
  have hnum := Nat.div_add_mod num den
  have hnum' := Nat.div_add_mod num' den
  rw [roundHalfEven_eq, roundHalfEven_eq]
  rcases hquotient.lt_or_eq with hless | hsame
  · split_ifs <;> omega
  · rw [hsame] at hnum ⊢
    split_ifs <;> omega

theorem roundHalfEven_mul_right {c : Nat} (hc : 0 < c) (num den : Nat) :
    roundHalfEven (num * c) (den * c) = roundHalfEven num den := by
  rw [roundHalfEven_eq, roundHalfEven_eq, Nat.mul_div_mul_right _ _ hc, Nat.mul_mod_mul_right,
    ← Nat.mul_assoc]
  simp only [Nat.mul_lt_mul_right hc]

end Rounding

section Digits

open UnpackedFloat

/-- The bits behind a mantissa that was cut. -/
theorem cut_bits (m s : Nat) : ExtendedMantissa.ofMantissaAndAccuracy m .exact >>> (s + 1) =
    ⟨m / 2 ^ (s + 1), m / 2 ^ s % 2 != 0, m % 2 ^ s != 0⟩ := by
  change (s + 1).repeat ExtendedMantissa.shiftRightOne _ = _
  induction s with
  | zero =>
    simp [Nat.repeat, ExtendedMantissa.shiftRightOne, ExtendedMantissa.ofMantissaAndAccuracy,
      Nat.mod_one]
  | succ s ih =>
    have hpow := Nat.two_pow_pos s
    have hrest : m % 2 ^ (s + 1) = m % 2 ^ s + 2 ^ s * (m / 2 ^ s % 2) := by
      rw [Nat.pow_succ, Nat.mod_mul]
    rw [Nat.repeat, ih, ExtendedMantissa.shiftRightOne, hrest, Nat.div_div_eq_div_mul,
      ← Nat.pow_succ]
    rcases Nat.mod_two_eq_zero_or_one (m / 2 ^ s) with hbit | hbit
    · simp [hbit]
    · simp [hbit]

theorem roundedMantissa_eq (q : Nat) (half rest : Bool) :
    (⟨q, half, rest⟩ : ExtendedMantissa).roundedMantissa =
      q + if half then if rest then 1 else q % 2 else 0 := by
  cases half <;> cases rest <;> rfl

/-- Digits are cut off by rounding, a half to the even neighbour. -/
theorem roundedMantissa_cut (m s : Nat) :
    (ExtendedMantissa.ofMantissaAndAccuracy m .exact >>> s).roundedMantissa =
      roundHalfEven m (2 ^ s) := by
  rw [roundHalfEven_eq]
  cases s with
  | zero =>
    rw [Nat.pow_zero, Nat.mod_one, Nat.div_one]
    rfl
  | succ s =>
    have hless := Nat.mod_lt m (Nat.two_pow_pos s)
    have hrest : m % 2 ^ (s + 1) = m % 2 ^ s + 2 ^ s * (m / 2 ^ s % 2) := by
      rw [Nat.pow_succ, Nat.mod_mul]
    rw [cut_bits, roundedMantissa_eq, hrest, Nat.pow_succ]
    rcases Nat.mod_two_eq_zero_or_one (m / 2 ^ s) with hbit | hbit
    · rw [hbit, if_pos (by omega : 2 * (m % 2 ^ s + 2 ^ s * 0) < 2 ^ s * 2)]
      rfl
    · rw [hbit, if_neg (by omega : ¬ 2 * (m % 2 ^ s + 2 ^ s * 1) < 2 ^ s * 2)]
      rcases Nat.eq_zero_or_pos (m % 2 ^ s) with hnone | hsome
      · rw [hnone, if_neg (by omega : ¬ 2 ^ s * 2 < 2 * (0 + 2 ^ s * 1))]
        rfl
      · rw [if_pos (by omega : 2 ^ s * 2 < 2 * (m % 2 ^ s + 2 ^ s * 1))]
        simp [hsome.ne']

theorem roundedDigits_eq (m : Nat) : roundedDigits m .exact = roundHalfEven m (2 ^ (m.log2 - 52)) :=
  roundedMantissa_cut m _

/-- The rounded digits do not depend on the zeros behind the last one. -/
theorem roundedDigits_zeros {m : Nat} (hm : 52 ≤ m.log2) (s : Nat) :
    roundedDigits (m * 2 ^ s) .exact = roundedDigits m .exact := by
  rw [roundedDigits_eq, roundedDigits_eq, log2_mul_pow (ne_zero_of_log2 (by omega)),
    show m.log2 + s - 52 = m.log2 - 52 + s by omega, Nat.pow_add,
    roundHalfEven_mul_right (Nat.two_pow_pos s)]

theorem roundedDigits_full {m : Nat} (hm : m.log2 = 52) : roundedDigits m .exact = m := by
  rw [roundedDigits_eq, hm, roundHalfEven_eq, Nat.sub_self, Nat.pow_zero, Nat.mod_one, Nat.div_one]
  rfl

end Digits

section Counts

open UnpackedFloat

variable {m n : Nat} {e : Int}

theorem round_zeros (hm : 52 ≤ m.log2) (he : -1022 ≤ e + m.log2) (s : Nat) :
    roundWithAccuracy .binary64 .positive (m * 2 ^ s) (e - s) .exact =
      roundWithAccuracy .binary64 .positive m e .exact := by
  have hlog : (m * 2 ^ s).log2 = m.log2 + s := log2_mul_pow (ne_zero_of_log2 (by omega)) s
  obtain ⟨hpos, heq⟩ := roundWithAccuracy_eq (m := m * 2 ^ s) (e := e - s) .exact (by omega)
    (by omega)
  obtain ⟨hpos', heq'⟩ := roundWithAccuracy_eq .exact hm he
  rw [heq, heq', UnpackedFloat.finite.injEq, roundedDigits_zeros hm, hlog]
  exact ⟨rfl, rfl, by omega⟩

theorem roundedDigits_range (hm : 52 ≤ m.log2) :
    2 ^ 52 ≤ roundedDigits m .exact ∧ roundedDigits m .exact ≤ 2 ^ 53 := by
  have hcut := log2_cut hm
  have hlow := le_roundedDigits m .exact
  have hhigh := roundedDigits_le m .exact
  have hrange := (Nat.log2_eq_iff (ne_zero_of_log2 (by omega))).mp hcut
  omega

theorem digits_log2 {r : Nat} (hlow : 2 ^ 52 ≤ r) (hhigh : r ≤ 2 ^ 53) :
    r.log2 = 52 ∨ r = 2 ^ 53 ∧ r.log2 = 53 := by
  rcases hhigh.lt_or_eq with hless | rfl
  · exact Or.inl ((Nat.log2_eq_iff (by omega)).mpr ⟨hlow, hless⟩)
  · exact Or.inr ⟨rfl, Nat.log2_two_pow⟩

/-- Of two numbers with one exponent the larger is not rounded to less. -/
theorem round_mono (hm : 52 ≤ m.log2) (he : -1022 ≤ e + m.log2) (h : m ≤ n) : ∃ a f ha b g hb,
    roundWithAccuracy .binary64 .positive m e .exact = .finite .positive a f ha ∧
      roundWithAccuracy .binary64 .positive n e .exact = .finite .positive b g hb ∧
      a.log2 = 52 ∧ b.log2 = 52 ∧ e + m.log2 - 52 ≤ f ∧ (f < g ∨ f = g ∧ a ≤ b) := by
  have hlogs := log2_mono h
  have hn : 52 ≤ n.log2 := hm.trans hlogs
  obtain ⟨hpos, heq⟩ := roundWithAccuracy_eq .exact hm he
  obtain ⟨hpos', heq'⟩ := roundWithAccuracy_eq (m := n) (e := e) .exact hn (by omega)
  refine ⟨_, _, _, _, _, _, heq, heq', log2_cut (log2_roundedDigits hm _),
    log2_cut (log2_roundedDigits hn _), ?_, ?_⟩
  · have hdigits := log2_roundedDigits hm .exact
    omega
  obtain ⟨hlow, hhigh⟩ := roundedDigits_range hm
  obtain ⟨hlow', hhigh'⟩ := roundedDigits_range hn
  have hcases := digits_log2 hlow hhigh
  have hcases' := digits_log2 hlow' hhigh'
  rcases hlogs.lt_or_eq with hless | hsame
  · rcases hcases with hlog | ⟨hall, hlog⟩
    · exact Or.inl (by omega)
    · have hleast : roundedDigits m .exact / 2 ^ ((roundedDigits m .exact).log2 - 52) ≤
          roundedDigits n .exact / 2 ^ ((roundedDigits n .exact).log2 - 52) := by
        have hfull := log2_cut (log2_roundedDigits hn .exact)
        rw [hlog, hall]
        exact ((Nat.log2_eq_iff (ne_zero_of_log2 (by omega))).mp hfull).1
      omega
  · have hmono : roundedDigits m .exact ≤ roundedDigits n .exact := by
      rw [roundedDigits_eq, roundedDigits_eq, hsame]
      exact roundHalfEven_mono _ h
    have hlog := log2_mono hmono
    rcases hlog.lt_or_eq with hless | hequal
    · exact Or.inl (by omega)
    · refine Or.inr ⟨by omega, ?_⟩
      rw [hequal]
      exact Nat.div_le_div_right hmono

/-- A full mantissa stays as it is. -/
theorem round_full (hm : m.log2 = 52) (he : -1074 ≤ e) : ∃ hpos,
    roundWithAccuracy .binary64 .positive m e .exact = .finite .positive m e hpos := by
  obtain ⟨hpos, heq⟩ := roundWithAccuracy_eq .exact hm.ge (by omega : -1022 ≤ e + m.log2)
  refine ⟨Nat.pos_of_ne_zero (ne_zero_of_log2 (by omega)), ?_⟩
  rw [heq, UnpackedFloat.finite.injEq, roundedDigits_full hm, hm]
  exact ⟨rfl, Nat.div_one m, by omega⟩

theorem unpack_small (hn : n ≠ 0) (hlt : n < 2 ^ 53) : ∃ hpos, n.toUInt64.toFloat.toModel.unpack =
    .finite .positive (n * 2 ^ (52 - n.log2)) (n.log2 - 52) hpos := by
  have hlog : n.log2 ≤ 52 := Nat.le_of_lt_succ ((Nat.log2_lt hn).mpr hlt)
  have hfull : (n * 2 ^ (52 - n.log2)).log2 = 52 := by
    rw [log2_mul_pow hn]
    omega
  have hsame : n.toUInt64.toNat = n := UInt64.toNat_ofNat_of_lt' (hlt.trans (by decide))
  obtain ⟨hpos, heq⟩ := round_full (e := n.log2 - 52) hfull (by omega)
  refine ⟨hpos, ?_⟩
  change (pack (UnpackedFloat.normalize .binary64 (n.toUInt64.toNat : Int) 0 .positive)).unpack = _
  have hgt : compare (n : Int) 0 = .gt := Int.compare_eq_gt.mpr (by omega)
  have hshift : (0 - (0 + (n.log2 : Int) - 52)).toNat = 52 - n.log2 := by omega
  have hexponent : (0 : Int) - (52 - n.log2 : Nat) = n.log2 - 52 := by omega
  rw [hsame, UnpackedFloat.normalize, hgt]
  simp only [UnpackedFloat.round, decreaseExponent, Int.toNat_natCast]
  rw [targetExponent_eq (by omega), hshift, Nat.shiftLeft_eq, hexponent, heq,
    unpack_pack _ hfull (by omega), if_pos (by omega)]

/-- A count is rounded once, however large it is. -/
theorem unpack_count (hn : n ≠ 0) : (Float.ofNat n).toModel.unpack =
    (pack (roundWithAccuracy .binary64 .positive (n * 2 ^ 53) (-53) .exact)).unpack := by
  change (Float.ofScientific n false 0).toModel.unpack = _
  unfold Float.ofScientific
  split
  · next hsmall =>
    have hlog : n.log2 ≤ 52 := Nat.le_of_lt_succ ((Nat.log2_lt hn).mpr hsmall.1)
    have hfull : (n * 2 ^ (52 - n.log2)).log2 = 52 := by
      rw [log2_mul_pow hn]
      omega
    obtain ⟨hpos, hcount⟩ := unpack_small hn hsmall.1
    obtain ⟨hpos', hone⟩ : ∃ hpos, (Float.ofBits 0x3FF0000000000000).toModel.unpack =
      .finite .positive (2 ^ 52) (-52) hpos := ⟨_, rfl⟩
    have hleft := round_zeros (e := n.log2 - 52) hfull.ge (by omega) 52
    have hright := round_zeros (e := n.log2 - 52) hfull.ge (by omega) (n.log2 + 1)
    rw [Nat.mul_assoc n, ← Nat.pow_add, show 52 - n.log2 + (n.log2 + 1) = 53 by omega,
      show (n.log2 - 52 - (n.log2 + 1 : Nat) : Int) = -53 by omega] at hright
    change (pack (UnpackedFloat.mul .binary64 n.toUInt64.toFloat.toModel.unpack
      (Float.ofBits 0x3FF0000000000000).toModel.unpack)).unpack = _
    rw [hcount, hone, hright, ← hleft]
    rfl
  · change (pack (UnpackedFloat.ofScientific .binary64 n 0)).unpack = _
    unfold UnpackedFloat.ofScientific
    have hwide : (0 : Int) ≤ 2 ^ Format.binary64.exponentBits := by decide
    rw [dif_neg hn, if_neg (by decide), if_neg (by omega), if_pos le_rfl]
    change (pack (roundWithAccuracy .binary64 .positive (n <<< 53 * 1) (-53 + 0) .exact)).unpack = _
    rw [Nat.mul_one, Nat.shiftLeft_eq, Int.add_zero]

/-- A number divided by one that is not larger is one or more. -/
theorem atLeast_quotient {a b : Nat} {f g : Int} {ha : 0 < a} {hb : 0 < b} (hafull : a.log2 = 52)
    (hbfull : b.log2 = 52) (h : f < g ∨ f = g ∧ a ≤ b) :
    AtLeast 0 (div .binary64 (.finite .positive b g hb) (.finite .positive a f ha)) := by
  have htarget : Format.binary64.targetExponent (totalExponent b g - totalExponent a f) =
      g - f - 53 := by
    simp only [Format.targetExponent, totalExponent, Format.mantissaBits, Format.minExponent]
    omega
  have hshift : (g - f - min (g - f) (g - f - 53)).toNat = 53 := by omega
  change AtLeast 0 (roundWithAccuracy .binary64 .positive (divCore .binary64 b g a f).1
    (divCore .binary64 b g a f).2.1 (divCore .binary64 b g a f).2.2)
  simp only [divCore, htarget, hshift, Nat.shiftLeft_eq]
  obtain ⟨halow, hahigh⟩ := (Nat.log2_eq_iff ha.ne').mp hafull
  obtain ⟨hblow, hbhigh⟩ := (Nat.log2_eq_iff hb.ne').mp hbfull
  rcases h with hless | ⟨rfl, hle⟩
  · have hquotient : 2 ^ 52 ≤ b * 2 ^ 53 / a := by
      rw [Nat.le_div_iff_mul_le ha]
      omega
    have hlog := log2_mono hquotient
    rw [Nat.log2_two_pow] at hlog
    exact atLeast_roundWithAccuracy hlog (by decide) (by omega)
  · have hquotient : 2 ^ 53 ≤ b * 2 ^ 53 / a := by
      rw [Nat.le_div_iff_mul_le ha]
      omega
    have hlog := log2_mono hquotient
    rw [Nat.log2_two_pow] at hlog
    exact atLeast_roundWithAccuracy (by omega) (by decide) (by omega)

/-- Of two counts the larger is no smaller number; beyond the finite numbers a count is infinite. -/
theorem unpack_counts (hm : m ≠ 0) (h : m ≤ n) : ∃ a f ha b g hb,
    (Float.ofNat m).toModel.unpack =
        (if f ≤ 971 then .finite .positive a f ha else .infinity .positive) ∧
      (Float.ofNat n).toModel.unpack =
        (if g ≤ 971 then .finite .positive b g hb else .infinity .positive) ∧
      a.log2 = 52 ∧ b.log2 = 52 ∧ (f < g ∨ f = g ∧ a ≤ b) := by
  have hlog : (m * 2 ^ 53).log2 = m.log2 + 53 := log2_mul_pow hm 53
  obtain ⟨a, f, ha, b, g, hb, hround, hround', hafull, hbfull, hf, hfg⟩ :=
    round_mono (m := m * 2 ^ 53) (n := n * 2 ^ 53) (e := -53) (by omega) (by omega)
      (Nat.mul_le_mul_right _ h)
  refine ⟨a, f, ha, b, g, hb, ?_, ?_, hafull, hbfull, hfg⟩
  · rw [unpack_count hm, hround, unpack_pack _ hafull (by omega)]
  · rw [unpack_count (by omega), hround', unpack_pack _ hbfull (by omega)]

theorem quotient_eq (x y : Float) : x / y =
    .ofModel (pack (UnpackedFloat.div .binary64 x.toModel.unpack y.toModel.unpack)) := rfl

/-- A count divided by one that is not larger is not below one, however they are rounded. -/
theorem share_not_lt {part whole : Nat} (hwhole : whole ≠ 0) (h : whole ≤ part) :
    ¬ Float.ofNat part / Float.ofNat whole < 1.0 := by
  obtain ⟨a, f, ha, b, g, hb, hcount, hcount', hafull, hbfull, hfg⟩ := unpack_counts hwhole h
  rw [quotient_eq, hcount, hcount']
  by_cases hsmall : f ≤ 971
  · rw [if_pos hsmall]
    refine not_lt_one (atLeast_pack ?_ (by decide))
    by_cases hlarge : g ≤ 971
    · rw [if_pos hlarge]
      exact atLeast_quotient hafull hbfull hfg
    · rw [if_neg hlarge]
      rfl
  · -- The infinity divided by itself is no number.
    rw [if_neg hsmall, if_neg (by omega)]
    decide

/-- None of a count is a share of zero. -/
theorem share_none {whole : Nat} (hwhole : whole ≠ 0) :
    Float.ofNat 0 / Float.ofNat whole = 0.0 := by
  obtain ⟨a, f, ha, -, -, -, hcount, -⟩ := unpack_counts hwhole le_rfl
  have hnone : (Float.ofNat 0).toModel.unpack = .zero .positive := rfl
  rw [quotient_eq, hnone, hcount]
  split <;> rfl

end Counts

end Archiver
