import Mathlib.Data.Prod.Lex
import Archiver.Proofs.Fetch.Waits

namespace Archiver

open Float.Model

section Order

/-- Where a number stands among all of them; what is no number stands nowhere. -/
def rank : UnpackedFloat → Option (ℤ ×ₗ ℤ ×ₗ ℤ)
  | .notANumber => none
  | .infinity .negative => some (toLex (-2, toLex (0, 0)))
  | .finite .negative m e _ => some (toLex (-1, toLex (-e, -m)))
  | .zero _ => some (toLex (0, toLex (0, 0)))
  | .finite .positive m e _ => some (toLex (1, toLex (e, m)))
  | .infinity .positive => some (toLex (2, toLex (0, 0)))

theorem then_eq_lt {e f : ℤ} {m n : ℕ} :
    (compare e f).then (compare m n) = .lt ↔ toLex (e, (m : ℤ)) < toLex (f, (n : ℤ)) := by
  rw [Prod.Lex.toLex_lt_toLex, Ordering.then_eq_lt, Int.compare_eq_lt, Int.compare_eq_eq,
    Nat.compare_eq_lt]
  simp

theorem then_eq_gt {e f : ℤ} {m n : ℕ} :
    (compare e f).then (compare m n) = .gt ↔ toLex (-e, -(m : ℤ)) < toLex (-f, -(n : ℤ)) := by
  rw [Prod.Lex.toLex_lt_toLex, Ordering.then_eq_gt, Int.compare_eq_gt, Int.compare_eq_eq,
    Nat.compare_eq_gt]
  simp

theorem lt_iff_rank (u v : UnpackedFloat) :
    u.lt v = true ↔ ∃ a b, rank u = some a ∧ rank v = some b ∧ a < b := by
  have hsigns : compare UnpackedFloat.Sign.negative UnpackedFloat.Sign.positive = .lt := rfl
  rcases u with ⟨_ | _⟩ | _ | s | ⟨_ | _, m, e, hm⟩ <;>
    rcases v with ⟨_ | _⟩ | _ | t | ⟨_ | _, n, f, hn⟩ <;>
    simp [UnpackedFloat.lt, UnpackedFloat.compare, rank, hsigns, then_eq_lt, then_eq_gt,
      Prod.Lex.toLex_lt_toLex]

theorem then_isLE {e f : ℤ} {m n : ℕ} :
    ((compare e f).then (compare m n)).isLE = true ↔ toLex (e, (m : ℤ)) ≤ toLex (f, (n : ℤ)) := by
  rw [← not_lt, Prod.Lex.toLex_lt_toLex, Ordering.isLE_iff_ne_gt, Ordering.then_eq_gt,
    Int.compare_eq_gt, Int.compare_eq_eq, Nat.compare_eq_gt]
  simp [eq_comm]

theorem then_isGE {e f : ℤ} {m n : ℕ} :
    ((compare e f).then (compare m n)).isGE = true ↔
      toLex (-e, -(m : ℤ)) ≤ toLex (-f, -(n : ℤ)) := by
  rw [← not_lt, Prod.Lex.toLex_lt_toLex, Ordering.isGE_iff_ne_lt, Ordering.then_eq_lt,
    Int.compare_eq_lt, Int.compare_eq_eq, Nat.compare_eq_lt]
  simp [eq_comm]

theorem le_iff_rank (u v : UnpackedFloat) :
    u.le v = true ↔ ∃ a b, rank u = some a ∧ rank v = some b ∧ a ≤ b := by
  have hsigns : compare UnpackedFloat.Sign.negative UnpackedFloat.Sign.positive = .lt := rfl
  have hback : compare UnpackedFloat.Sign.positive UnpackedFloat.Sign.negative = .gt := rfl
  have hself : ∀ s : UnpackedFloat.Sign, compare s s = .eq := fun s => by cases s <;> rfl
  rcases u with ⟨_ | _⟩ | _ | s | ⟨_ | _, m, e, hm⟩ <;>
    rcases v with ⟨_ | _⟩ | _ | t | ⟨_ | _, n, f, hn⟩ <;>
    simp [UnpackedFloat.le, UnpackedFloat.compare, rank, hsigns, hback, hself, then_isLE, then_isGE,
      Prod.Lex.toLex_le_toLex]

variable {x y z : Float}

theorem float_le_iff (x y : Float) : x ≤ y ↔ x.toModel.unpack.le y.toModel.unpack = true :=
  decide_eq_true_iff

theorem float_lt_irrefl (x : Float) : ¬ x < x := by
  rw [float_lt_iff, lt_iff_rank]
  rintro ⟨a, b, ha, hb, hab⟩
  rw [ha] at hb
  cases hb
  exact lt_irrefl _ hab

theorem float_lt_trans (hxy : x < y) (hyz : y < z) : x < z := by
  rw [float_lt_iff, lt_iff_rank] at *
  obtain ⟨a, b, ha, hb, hab⟩ := hxy
  obtain ⟨b', c, hb', hc, hbc⟩ := hyz
  rw [hb] at hb'
  cases hb'
  exact ⟨a, c, ha, hc, hab.trans hbc⟩

theorem float_lt_asymm (hxy : x < y) : ¬ y < x := fun hyx =>
  float_lt_irrefl x (float_lt_trans hxy hyx)

theorem float_lt_of_lt_of_le (hxy : x < y) (hyz : y ≤ z) : x < z := by
  rw [float_le_iff, le_iff_rank] at hyz
  rw [float_lt_iff, lt_iff_rank] at *
  obtain ⟨a, b, ha, hb, hab⟩ := hxy
  obtain ⟨b', c, hb', hc, hbc⟩ := hyz
  rw [hb] at hb'
  cases hb'
  exact ⟨a, c, ha, hc, hab.trans_le hbc⟩

end Order

end Archiver
