import Mathlib
import Archiver.Fetch.Retry

namespace Archiver

open Float.Model

/-- No number, or one that is not below zero. -/
def IsUnsigned : UnpackedFloat → Prop
  | .infinity sign => sign = .positive
  | .finite sign _ _ _ => sign = .positive
  | .zero _ => True
  | .notANumber => True

/-- What is packed with the sign plus is unsigned. -/
theorem isUnsigned_components (spec : Format) (e : BitVec spec.exponentBits)
    (m : BitVec spec.mantissaBitsWithoutImplicit) :
    IsUnsigned (UnpackedFloat.unpack spec (UnpackedFloat.packComponents spec .positive e m)) := by
  have hsign : UnpackedFloat.Sign.ofBitVec (UnpackedFloat.unpackSign
      (UnpackedFloat.packComponents spec .positive e m)) = .positive := by
    rw [UnpackedFloat.unpackSign_packComponents]
    rfl
  unfold UnpackedFloat.unpack
  simp only [hsign]
  split
  · split
    · rfl
    · trivial
  split
  · split
    · trivial
    · rfl
  · rfl

/-- Packing keeps what is unsigned. -/
theorem isUnsigned_pack {u : UnpackedFloat} (h : IsUnsigned u) :
    IsUnsigned (pack u).unpack := by
  change IsUnsigned (UnpackedFloat.unpack Format.binary64 (UnpackedFloat.pack Format.binary64 u))
  cases u with
  | infinity sign =>
    cases h
    exact isUnsigned_components _ _ _
  | notANumber => exact isUnsigned_components _ _ _
  | zero sign =>
    rw [UnpackedFloat.pack, UnpackedFloat.unpack_packedZero]
    trivial
  | finite sign m e hm =>
    cases h
    unfold UnpackedFloat.pack
    simp only
    split
    · exact isUnsigned_components _ _ _
    split
    · exact isUnsigned_components _ _ _
    · exact isUnsigned_components _ _ _

theorem isUnsigned_round (spec : Format) (m : Nat) (e : Int) (accuracy : UnpackedFloat.Accuracy) :
    IsUnsigned (UnpackedFloat.roundWithAccuracy spec .positive m e accuracy) := by
  unfold UnpackedFloat.roundWithAccuracy
  simp only
  split
  · trivial
  · rfl

theorem isUnsigned_mul {spec : Format} {u v : UnpackedFloat} (hu : IsUnsigned u)
    (hv : IsUnsigned v) : IsUnsigned (UnpackedFloat.mul spec u v) := by
  cases u <;> cases v <;> try trivial
  all_goals
    cases hu
    cases hv
    first | rfl | exact isUnsigned_round _ _ _ _

theorem isUnsigned_div {spec : Format} {u v : UnpackedFloat} (hu : IsUnsigned u)
    (hv : IsUnsigned v) (hzero : ∀ sign, v ≠ .zero sign) :
    IsUnsigned (UnpackedFloat.div spec u v) := by
  cases u <;> cases v <;> try trivial
  case infinity.zero => exact absurd rfl (hzero _)
  case finite.zero => exact absurd rfl (hzero _)
  all_goals
    cases hu
    cases hv
    first | rfl | exact isUnsigned_round _ _ _ _

theorem isUnsigned_normalize (spec : Format) (m : Nat) (e : Int) :
    IsUnsigned (UnpackedFloat.normalize spec m e .positive) := by
  unfold UnpackedFloat.normalize
  split
  · next h =>
    rw [Int.compare_eq_lt] at h
    omega
  · trivial
  · exact isUnsigned_round _ _ _ _

theorem isUnsigned_add {spec : Format} {u v : UnpackedFloat} (hu : IsUnsigned u)
    (hv : IsUnsigned v) : IsUnsigned (UnpackedFloat.add spec u v) := by
  cases u with
  | notANumber => trivial
  | infinity s =>
    cases hu
    cases v with
    | infinity t =>
      cases hv
      rfl
    | _ => first | rfl | trivial
  | zero s =>
    cases v with
    | zero t =>
      unfold UnpackedFloat.add
      simp only
      split <;> trivial
    | _ => exact hv
  | finite s m e hm =>
    cases hu
    cases v with
    | finite t n f hn =>
      cases hv
      exact isUnsigned_normalize spec (_ + _) _
    | infinity t => exact hv
    | zero t => rfl
    | notANumber => trivial

theorem float_lt_iff (x y : Float) : x < y ↔ x.toModel.unpack.lt y.toModel.unpack = true :=
  decide_eq_true_iff

theorem isFinite_eq (x : Float) : x.isFinite = x.toModel.unpack.isFinite := rfl

/-- True of a number that is not below zero, and of what is no number. -/
def NotBelowZero (x : Float) : Prop := IsUnsigned x.toModel.unpack

theorem notBelowZero_iff (x : Float) : NotBelowZero x ↔ ¬ x < 0.0 := by
  have hzero : (0.0 : Float).toModel.unpack = .zero .positive := by rfl
  rw [float_lt_iff, hzero, NotBelowZero]
  cases x.toModel.unpack with
  | infinity s => cases s <;> simp [IsUnsigned, UnpackedFloat.lt, UnpackedFloat.compare]
  | finite s m e hm => cases s <;> simp [IsUnsigned, UnpackedFloat.lt, UnpackedFloat.compare]
  | zero s => simp [IsUnsigned, UnpackedFloat.lt, UnpackedFloat.compare]
  | notANumber => simp [IsUnsigned, UnpackedFloat.lt, UnpackedFloat.compare]

theorem notBelowZero_mul {x y : Float} (hx : NotBelowZero x) (hy : NotBelowZero y) :
    NotBelowZero (x * y) :=
  isUnsigned_pack (isUnsigned_mul hx hy)

theorem notBelowZero_add {x y : Float} (hx : NotBelowZero x) (hy : NotBelowZero y) :
    NotBelowZero (x + y) :=
  isUnsigned_pack (isUnsigned_add hx hy)

theorem notBelowZero_div {x y : Float} (hx : NotBelowZero x) (hy : NotBelowZero y)
    (hzero : ∀ sign, y.toModel.unpack ≠ .zero sign) : NotBelowZero (x / y) :=
  isUnsigned_pack (isUnsigned_div hx hy hzero)

theorem notBelowZero_toFloat (n : UInt64) : NotBelowZero n.toFloat := by
  refine isUnsigned_pack ?_
  exact isUnsigned_normalize _ _ _

theorem notBelowZero_powerFrom {r x : Float} (n : Nat) (hr : NotBelowZero r)
    (hx : NotBelowZero x) : NotBelowZero (powerFrom r x n) := by
  fun_induction powerFrom r x n with
  | case1 r x => exact hr
  | case2 r x n hn ih =>
    refine ih ?_ (notBelowZero_mul hx hx)
    split
    · exact notBelowZero_mul hr hx
    · exact hr

theorem notBelowZero_secondsOfMillis (millis : Nat) : NotBelowZero (secondsOfMillis millis) := by
  have hbillion : ∃ m e hm, (1e9 : Float).toModel.unpack = .finite .positive m e hm := ⟨_, _, _, rfl⟩
  obtain ⟨m, e, hm, hunpack⟩ := hbillion
  refine notBelowZero_add (notBelowZero_toFloat _) (notBelowZero_div (notBelowZero_toFloat _) ?_ ?_)
  · rw [NotBelowZero, hunpack]
    rfl
  · rw [hunpack]
    simp

/-- Under a multiplier that is not below zero there is a wait before every retry. -/
theorem wait_isSome {p : RetryPolicy} (h : ¬ p.multiplier < 0.0) (retry : Nat) :
    (p.wait? retry).isSome = true := by
  have hone : NotBelowZero 1.0 := (notBelowZero_iff _).mpr (by decide)
  have hpower := notBelowZero_powerFrom (min retry 2147483647) hone ((notBelowZero_iff _).mpr h)
  have hseconds : ¬ p.seconds retry < 0.0 :=
    (notBelowZero_iff _).mp (notBelowZero_mul (notBelowZero_secondsOfMillis _) hpower)
  unfold RetryPolicy.wait?
  simp only [if_neg hseconds]
  split
  · rfl
  · rfl

end Archiver
