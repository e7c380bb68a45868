import Archiver.Proofs.Text.Digits
import Archiver.Proofs.Url.HostName
import Archiver.Url.Address

namespace Archiver

/-- The byte of an address at a place, counted from the last. -/
def addressByte (address place : Nat) : Nat := address / 256 ^ place % 256

section Writing

variable {address n : Nat}

theorem addressByte_lt (address place : Nat) : addressByte address place < 256 :=
  Nat.mod_lt _ (by decide)

theorem ipv4Text_eq (address : Nat) : ipv4Text address =
    (addressByte address 3).repr.toList ++ '.' :: ((addressByte address 2).repr.toList ++
      '.' :: ((addressByte address 1).repr.toList ++ '.' :: (addressByte address 0).repr.toList)) :=
  rfl

theorem ipv4_chars {c : Char} (h : c ∈ ipv4Text address) : isAsciiDigit c = true ∨ c = '.' := by
  rw [ipv4Text_eq] at h
  simp only [List.mem_append, List.mem_cons] at h
  rcases h with h | rfl | h | rfl | h | rfl | h
  · exact Or.inl (isAsciiDigit_of_mem_repr h)
  · exact Or.inr rfl
  · exact Or.inl (isAsciiDigit_of_mem_repr h)
  · exact Or.inr rfl
  · exact Or.inl (isAsciiDigit_of_mem_repr h)
  · exact Or.inr rfl
  · exact Or.inl (isAsciiDigit_of_mem_repr h)

theorem splitAll_repr (n : Nat) : splitAll (· == '.') n.repr.toList = [n.repr.toList] :=
  splitAll_of_not_mem fun c hc => by
    rw [beq_eq_false_iff_ne]
    rintro rfl
    cases isAsciiDigit_of_mem_repr hc

theorem dottedParts_ipv4Text (address : Nat) : dottedParts (ipv4Text address) =
    [(addressByte address 3).repr.toList, (addressByte address 2).repr.toList,
      (addressByte address 1).repr.toList, (addressByte address 0).repr.toList] := by
  have hsplit : splitAll (· == '.') (ipv4Text address) =
      [(addressByte address 3).repr.toList, (addressByte address 2).repr.toList,
        (addressByte address 1).repr.toList, (addressByte address 0).repr.toList] := by
    rw [ipv4Text_eq, splitAll_append_sep (by decide), splitAll_append_sep (by decide),
      splitAll_append_sep (by decide), splitAll_repr, splitAll_repr, splitAll_repr, splitAll_repr]
    rfl
  unfold dottedParts
  rw [hsplit]
  simp only [List.reverse_cons, List.reverse_nil, List.nil_append, List.cons_append]
  split
  · next h => exact absurd (List.cons.inj h).1 (repr_ne_nil _)
  · rfl

/-- A number without leading zeros reads as what it writes. -/
theorem read_repr (h : n < 4294967296) : AddressPart.read n.repr.toList = .value n := by
  have hzero : ∀ {d : Char} {rest : List Char}, n.repr.toList ≠ '0' :: d :: rest := fun he =>
    absurd (repr_leading_zero he) (by simp)
  have hdigits : n.repr.toList.all isAsciiDigit = true :=
    List.all_eq_true.mpr fun c hc => isAsciiDigit_of_mem_repr hc
  unfold AddressPart.read
  simp only
  split
  · next he => exact absurd he (repr_ne_nil n)
  · next he => exact absurd he hzero
  · next he => exact absurd he hzero
  · next he => exact absurd he hzero
  · rw [if_pos hdigits, decimalValue_repr, if_pos h]

theorem endsInNumber_ipv4Text (address : Nat) : endsInNumber (ipv4Text address) = true := by
  have hdigits : (addressByte address 0).repr.toList.all isAsciiDigit = true :=
    List.all_eq_true.mpr fun c hc => isAsciiDigit_of_mem_repr hc
  have hne : (addressByte address 0).repr.toList.isEmpty = false :=
    List.isEmpty_eq_false_iff.mpr (repr_ne_nil _)
  unfold endsInNumber
  rw [dottedParts_ipv4Text]
  simp only [List.getLast?_cons_cons, List.getLast?_singleton, hne, hdigits]
  rfl

end Writing

section Reading

variable {s : List Char} {address : Nat}

/-- The value of the numbers in front of the last. -/
def frontValue (front : List Nat) : Nat :=
  front.zipIdx.foldl (fun n p => n + p.1 * 256 ^ (3 - p.2)) 0

/-- One to four numbers, the last of which fills the rest. -/
theorem readIpv4_eq_some_iff : readIpv4? s = some address ↔
    ∃ front last, List.Forall₂ (fun part n => (AddressPart.read part).value? = some n)
        (dottedParts s) (front ++ [last]) ∧ front.length ≤ 3 ∧ (∀ n ∈ front, n ≤ 255) ∧
      last < 256 ^ (4 - front.length) ∧ address = last + frontValue front := by
  unfold readIpv4?
  simp only
  constructor
  · intro h
    split_ifs at h with hmany
    obtain ⟨numbers, hnumbers, h⟩ := Option.bind_eq_some_iff.mp h
    rw [mapM_eq_some_iff] at hnumbers
    split at h
    · cases h
    · next last front hreverse =>
      have hparts : numbers = front.reverse ++ [last] := by
        rw [← List.reverse_reverse numbers, hreverse, List.reverse_cons]
      have hlength := hnumbers.length_eq
      rw [hparts, List.length_append, List.length_singleton] at hlength
      split_ifs at h with hrange
      cases h
      simp only [Bool.or_eq_true, decide_eq_true_eq, List.any_eq_true, not_or, not_exists,
        not_and, Nat.not_lt, Nat.not_le] at hrange
      exact ⟨front.reverse, last, hparts ▸ hnumbers, by omega, hrange.1, hrange.2, rfl⟩
  · rintro ⟨front, last, hnumbers, hlength, hfront, hlast, rfl⟩
    have hmany : ¬ 4 < (dottedParts s).length := by
      rw [hnumbers.length_eq, List.length_append, List.length_singleton]
      omega
    have hrange : (front.any (255 < ·) || decide (Nat.pow 256 (4 - front.length) ≤ last)) =
        false := by
      rw [Bool.or_eq_false_iff, List.any_eq_false, decide_eq_false_iff_not]
      exact ⟨fun n hn => by simpa using hfront n hn, Nat.not_le.mpr hlast⟩
    rw [if_neg hmany, mapM_eq_some_iff.mpr hnumbers]
    simp only [Option.bind_eq_bind, Option.bind_some, List.reverse_append, List.reverse_singleton,
      List.singleton_append, List.reverse_reverse, hrange, Bool.false_eq_true, if_false]
    rfl

theorem lt_of_readIpv4 (h : readIpv4? s = some address) : address < 4294967296 := by
  obtain ⟨front, last, -, hlength, hfront, hlast, rfl⟩ := readIpv4_eq_some_iff.mp h
  match front with
  | [] => simpa [frontValue] using hlast
  | [a] =>
    have := hfront a (by simp)
    simp [frontValue] at hlast ⊢
    omega
  | [a, b] =>
    have := hfront a (by simp)
    have := hfront b (by simp)
    simp [frontValue] at hlast ⊢
    omega
  | [a, b, c] =>
    have := hfront a (by simp)
    have := hfront b (by simp)
    have := hfront c (by simp)
    simp [frontValue] at hlast ⊢
    omega
  | _ :: _ :: _ :: _ :: rest =>
    simp only [List.length_cons] at hlength
    omega

theorem readIpv4_ipv4Text (h : address < 4294967296) :
    readIpv4? (ipv4Text address) = some address := by
  have hread : ∀ place, (AddressPart.read (addressByte address place).repr.toList).value? =
      some (addressByte address place) := fun place => by
    rw [read_repr ((addressByte_lt address place).trans (by decide))]
    rfl
  refine readIpv4_eq_some_iff.mpr ⟨[addressByte address 3, addressByte address 2,
    addressByte address 1], addressByte address 0, ?_, by simp, ?_, ?_, ?_⟩
  · rw [dottedParts_ipv4Text]
    exact .cons (hread 3) (.cons (hread 2) (.cons (hread 1) (.cons (hread 0) .nil)))
  · have hbyte : ∀ place, addressByte address place ≤ 255 := fun place =>
      Nat.le_of_lt_succ (addressByte_lt address place)
    simp [hbyte]
  · exact addressByte_lt address 0
  · simp [frontValue, addressByte]
    omega

end Reading

end Archiver
