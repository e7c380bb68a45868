import Mathlib.Algebra.Ring.Nat
import Archiver.Text.Blank

namespace Archiver

theorem decimalValue_eq (ds : List Char) : decimalValue ds = Nat.ofDigitChars 10 ds 0 := by
  rw [decimalValue, Nat.ofDigitChars_eq_foldl]
  congr 1
  funext n c
  simp [Nat.mul_comm]

theorem decimalValue_repr (n : Nat) : decimalValue n.repr.toList = n := by
  rw [decimalValue_eq, Nat.toList_repr, Nat.ofDigitChars_ten_toDigits]

theorem isAsciiDigit_of_isDigit {c : Char} (h : c.isDigit = true) : isAsciiDigit c = true := by
  simpa [isAsciiDigit, Char.isDigit] using h

theorem isAsciiDigit_of_mem_repr {n : Nat} {c : Char} (h : c ∈ n.repr.toList) :
    isAsciiDigit c = true := by
  rw [Nat.toList_repr] at h
  exact isAsciiDigit_of_isDigit (Nat.isDigit_of_mem_toDigits (by omega) (by omega) h)

theorem repr_ne_nil (n : Nat) : n.repr.toList ≠ [] := by
  rw [Nat.toList_repr]
  exact Nat.toDigits_ne_nil

theorem length_repr_le {n k : Nat} (hk : 0 < k) (h : n < 10 ^ k) : n.repr.toList.length ≤ k := by
  rw [Nat.toList_repr]
  exact (Nat.length_toDigits_le_iff (by omega) hk).mpr h

/-- Only zero is written with a leading zero. -/
theorem repr_leading_zero {n : Nat} {rest : List Char} (h : n.repr.toList = '0' :: rest) :
    rest = [] := by
  induction n using Nat.strongRecOn generalizing rest with
  | ind n ih =>
    by_cases hn : n < 10
    · rw [Nat.repr_of_lt hn] at h
      simp at h
      exact h.2
    · rw [Nat.repr_of_ge (by omega), String.toList_append] at h
      obtain ⟨d, ds, hd⟩ := List.exists_cons_of_ne_nil (repr_ne_nil (n / 10))
      rw [hd, List.cons_append] at h
      obtain ⟨rfl, _⟩ := List.cons.inj h
      have hds := ih (n / 10) (by omega) hd
      have hz := decimalValue_repr (n / 10)
      rw [hd, hds] at hz
      simp [decimalValue] at hz
      omega

end Archiver
