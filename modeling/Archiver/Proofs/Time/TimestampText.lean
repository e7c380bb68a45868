import Mathlib.Data.List.TakeWhile
import Archiver.Proofs.Text.Digits
import Archiver.Proofs.Time.Calendar
import Archiver.Timestamp

namespace Archiver

/-- A moment of the calendar's range; a leap second comes only at the end of a minute. -/
def Timestamp.Valid (t : Timestamp) : Prop :=
  firstDay.number * 86400 ≤ t.seconds ∧ t.seconds < (lastDay.number + 1) * 86400 ∧
    (t.nanos < 1000000000 ∨ (t.nanos < 2000000000 ∧ t.seconds % 60 = 59))

instance (t : Timestamp) : Decidable t.Valid := by unfold Timestamp.Valid; infer_instance

theorem isBlank_of_digit {c : Char} (h : isAsciiDigit c = true) : isBlank c = false := by
  simp only [isAsciiDigit, Bool.and_eq_true, decide_eq_true_eq, UInt32.le_iff_toNat_le] at h
  simp only [isBlank, Bool.or_eq_false_iff, Bool.and_eq_false_iff, decide_eq_false_iff_not,
    beq_eq_false_iff_ne, UInt32.le_iff_toNat_le, ne_eq, ← UInt32.toNat_inj]
  simp at h ⊢
  omega

theorem trimStart_of_head {c : Char} (hc : isBlank c = false) (s : List Char) :
    trimStart (c :: s) = c :: s := by
  simp [trimStart, hc]

/-- Digits are read up to the width, or up to what is no digit. -/
theorem readDigits_append {w : Nat} {ds rest : List Char} (hd : ∀ c ∈ ds, isAsciiDigit c = true)
    (hne : ds ≠ []) (hw : ds.length ≤ w)
    (hend : ds.length = w ∨ ∀ c r, rest = c :: r → isAsciiDigit c = false) :
    readDigits w (ds ++ rest) = some (decimalValue ds, rest) := by
  obtain ⟨c, cs, rfl⟩ := List.exists_cons_of_ne_nil hne
  have htrim := trimStart_of_head (isBlank_of_digit (hd c (by simp))) (cs ++ rest)
  have hrun : ((c :: cs ++ rest).take w).takeWhile isAsciiDigit = c :: cs := by
    rw [List.take_append, List.take_of_length_le hw,
      List.takeWhile_append_of_pos (fun d h => hd d h)]
    rcases hend with hlen | hrest
    · simp [hlen]
    · cases rest with
      | nil => simp
      | cons d r =>
        have hnd := hrest d r rfl
        cases w - (c :: cs).length <;> simp [hnd]
  rw [← List.cons_append] at htrim
  simp only [readDigits, htrim, hrun]
  simp

theorem twoDigits_eq {n : Nat} (h : n < 100) :
    twoDigits n = [Nat.digitChar (n / 10), Nat.digitChar (n % 10)] := by
  unfold twoDigits
  split
  · next hn =>
    have h0 : n / 10 = 0 := by omega
    have h1 : n % 10 = n := by omega
    simp [Nat.repr_of_lt hn, h0, h1]
  · next hn =>
    rw [Nat.repr_of_ge (by omega), Nat.repr_of_lt (by omega : n / 10 < 10)]
    simp

theorem length_twoDigits {n : Nat} (h : n < 100) : (twoDigits n).length = 2 := by
  rw [twoDigits_eq h]
  rfl

theorem decimalValue_twoDigits {n : Nat} (h : n < 100) : decimalValue (twoDigits n) = n := by
  rw [twoDigits_eq h, decimalValue_eq, Nat.ofDigitChars_cons_digitChar_of_lt_ten (by omega),
    Nat.ofDigitChars_cons_digitChar_of_lt_ten (by omega), Nat.ofDigitChars_nil]
  omega

theorem isAsciiDigit_of_mem_twoDigits {n : Nat} {c : Char} (h : c ∈ twoDigits n) :
    isAsciiDigit c = true := by
  unfold twoDigits at h
  split at h
  · rcases List.mem_cons.mp h with rfl | h
    · decide
    · exact isAsciiDigit_of_mem_repr h
  · exact isAsciiDigit_of_mem_repr h

theorem readDigits_twoDigits {n : Nat} (h : n < 100) (rest : List Char) :
    readDigits 2 (twoDigits n ++ rest) = some (n, rest) := by
  have hlength := length_twoDigits h
  rw [readDigits_append (fun c hc => isAsciiDigit_of_mem_twoDigits hc) _ hlength.le (Or.inl hlength),
    decimalValue_twoDigits h]
  exact List.ne_nil_of_length_pos (by omega)

theorem decimalValue_padLeft (w n : Nat) : decimalValue (padLeft w n.repr.toList) = n := by
  rw [padLeft, decimalValue_eq, Nat.ofDigitChars_append, Nat.ofDigitChars_replicate_zero,
    Nat.mul_zero, ← decimalValue_eq, decimalValue_repr]

theorem length_padLeft (w : Nat) (ds : List Char) : (padLeft w ds).length = max w ds.length := by
  simp [padLeft]
  omega

theorem isAsciiDigit_of_mem_padLeft {w n : Nat} {c : Char} (h : c ∈ padLeft w n.repr.toList) :
    isAsciiDigit c = true := by
  rcases List.mem_append.mp h with hz | hd
  · rw [List.eq_of_mem_replicate hz]
    decide
  · exact isAsciiDigit_of_mem_repr hd

theorem padLeft_ne_nil (w n : Nat) : padLeft w n.repr.toList ≠ [] := by
  exact List.append_ne_nil_of_right_ne_nil _ (repr_ne_nil n)

theorem readDigits_padLeft {v w n : Nat} {d : Char} (hd : isAsciiDigit d = false)
    (h : (padLeft w n.repr.toList).length ≤ v) (rest : List Char) :
    readDigits v (padLeft w n.repr.toList ++ d :: rest) = some (n, d :: rest) := by
  rw [readDigits_append (fun c hc => isAsciiDigit_of_mem_padLeft hc) (padLeft_ne_nil w n) h,
    decimalValue_padLeft]
  right
  intro c r hr
  rw [← (List.cons.inj hr).1]
  exact hd

/-- A written year, with or without a sign, reads back. -/
theorem readYear_yearText (y : Int) (rest : List Char) :
    readYear (yearText y ++ '-' :: rest) = some (y, '-' :: rest) := by
  have hminus : isAsciiDigit '-' = false := by decide
  have hdigits : ∀ n : Nat, ∃ c cs, padLeft 4 n.repr.toList = c :: cs ∧ isAsciiDigit c = true := by
    intro n
    obtain ⟨c, cs, hc⟩ := List.exists_cons_of_ne_nil (padLeft_ne_nil 4 n)
    exact ⟨c, cs, hc, isAsciiDigit_of_mem_padLeft (w := 4) (n := n) (by rw [hc]; simp)⟩
  have hsigned : ∀ n : Nat, readDigits (padLeft 4 n.repr.toList ++ '-' :: rest).length
      (padLeft 4 n.repr.toList ++ '-' :: rest) = some (n, '-' :: rest) := by
    intro n
    exact readDigits_padLeft hminus (by simp) rest
  cases y with
  | ofNat n =>
    obtain ⟨c, cs, hc, hcd⟩ := hdigits n
    by_cases hn : n ≤ 9999
    · have hlen : (padLeft 4 n.repr.toList).length ≤ 4 := by
        have := length_repr_le (n := n) (k := 4) (by omega) (by omega)
        rw [length_padLeft]
        omega
      have hread := readDigits_padLeft hminus hlen rest
      have htrim := trimStart_of_head (isBlank_of_digit hcd) (cs ++ '-' :: rest)
      have hm : c ≠ '-' := by rintro rfl; simp [hminus] at hcd
      have hp : c ≠ '+' := by rintro rfl; revert hcd; decide
      rw [hc, List.cons_append] at hread
      simp only [yearText, hn, if_true, hc, List.cons_append, readYear, htrim]
      split
      · next heq => exact absurd (List.cons.inj heq).1 hm
      · next heq => exact absurd (List.cons.inj heq).1 hp
      · simp [hread]
    · have hread := hsigned n
      have htrim := trimStart_of_head (c := '+') (by decide) (c :: cs ++ '-' :: rest)
      rw [hc] at hread
      simp only [yearText, hn, if_false, hc, List.cons_append] at hread htrim ⊢
      simp only [readYear, htrim, hcd, if_true, hread]
      rfl
  | negSucc n =>
    obtain ⟨c, cs, hc, hcd⟩ := hdigits (n + 1)
    have hread := hsigned (n + 1)
    have htrim := trimStart_of_head (c := '-') (by decide) (c :: cs ++ '-' :: rest)
    rw [hc] at hread
    simp only [yearText, hc, List.cons_append] at hread htrim ⊢
    simp only [readYear, htrim, hcd, if_true, hread]
    rfl

theorem readMark_cons {mark : Char} (h : isBlank mark = false) (rest : List Char) :
    readMark mark (mark :: rest) = some rest := by
  simp [readMark, trimStart_of_head h]

theorem readFraction_digits {w n : Nat} {d : Char} (hd : isAsciiDigit d = false) (hw : 0 < w)
    (h9 : w ≤ 9) (hn : n < 10 ^ w) (rest : List Char) :
    readFraction ('.' :: (padLeft w n.repr.toList ++ d :: rest)) =
      some (n * 10 ^ (9 - w), d :: rest) := by
  have hlen : (padLeft w n.repr.toList).length = w := by
    have := length_repr_le hw hn
    rw [length_padLeft]
    omega
  have hall := fun c hc => isAsciiDigit_of_mem_padLeft (w := w) (n := n) (c := c) hc
  have htake : (padLeft w n.repr.toList ++ d :: rest).takeWhile isAsciiDigit =
      padLeft w n.repr.toList := by
    rw [List.takeWhile_append_of_pos hall]
    simp [hd]
  have hdrop : (padLeft w n.repr.toList ++ d :: rest).dropWhile isAsciiDigit = d :: rest := by
    rw [List.dropWhile_append_of_pos hall]
    simp [hd]
  have hne : (padLeft w n.repr.toList).isEmpty = false := by simpa using padLeft_ne_nil w n
  simp only [readFraction, htake, hdrop, hne]
  rw [List.take_of_length_le (by omega), decimalValue_padLeft, hlen]
  rfl

/-- A written fraction reads back: the digits that it leaves out are zeros. -/
theorem readFraction_fractionText {n : Nat} (hn : n < 1000000000) {c : Char}
    (hz : isAsciiDigit c = false) (hpoint : c ≠ '.') (rest : List Char) :
    readFraction (fractionText n ++ c :: rest) = some (n, c :: rest) := by
  unfold fractionText
  split
  · next h =>
    have h0 : n = 0 := by simpa using h
    subst h0
    rw [List.nil_append, readFraction]
    exact fun r heq => hpoint (List.cons.inj heq).1
  split
  · next h =>
    have h6 : n % 1000000 = 0 := by simpa using h
    rw [List.cons_append, readFraction_digits hz (by omega) (by omega) (by omega)]
    have : n / 1000000 * 10 ^ (9 - 3) = n := by omega
    rw [this]
  split
  · next h =>
    have h3 : n % 1000 = 0 := by simpa using h
    rw [List.cons_append, readFraction_digits hz (by omega) (by omega) (by omega)]
    have : n / 1000 * 10 ^ (9 - 6) = n := by omega
    rw [this]
  · rw [List.cons_append, readFraction_digits hz (by omega) (by omega) (by omega)]
    simp

theorem readOffset_zulu : readOffset ['Z'] = some (0, []) := by decide

theorem readOffset_zero : readOffset "+00:00".toList = some (0, []) := by decide

theorem bind_of_some {α β : Type} {x : Option α} {f : α → Option β} {a : α} {b : β}
    (hx : x = some a) (hf : f a = some b) : x.bind f = some b :=
  Option.bind_eq_some_iff.mpr ⟨a, hx, hf⟩

/-- The parts that a text of a date and a time gives, put together to a moment. -/
theorem read_parts {year : Int} {month day hour minute second nanos : Nat}
    (hm : 1 ≤ month ∧ month ≤ 12) (hd : 1 ≤ day ∧ day ≤ daysInMonth year month) (hd2 : day < 100)
    (hh : hour ≤ 23) (hmin : minute ≤ 59) (hs : second ≤ 60) (hn : nanos < 1000000000)
    (utc : Int) (hutc : (⟨year, month, day⟩ : Day).number * 86400 +
      ((hour * 3600 + minute * 60 + (if second = 60 then 59 else second) : Nat) : Int) = utc)
    (hlow : firstDay.number * 86400 ≤ utc) (hhigh : utc < (lastDay.number + 1) * 86400) {c : Char}
    {zone : List Char} (hz : isAsciiDigit c = false) (hpoint : c ≠ '.')
    (hzone : readOffset (c :: zone) = some (0, [])) :
    Timestamp.read? (yearText year ++ '-' :: (twoDigits month ++ '-' :: (twoDigits day ++ 'T' ::
      (twoDigits hour ++ ':' :: (twoDigits minute ++ ':' :: (twoDigits second ++
        (fractionText nanos ++ c :: zone))))))) =
      some ⟨utc, if second = 60 then nanos + 1000000000 else nanos⟩ := by
  have hdash : isBlank '-' = false := by decide
  have hcolon : isBlank ':' = false := by decide
  have h1 : ¬ month < 1 := by omega
  have h2 : ¬ 12 < month := by omega
  have h3 : ¬ day < 1 := by omega
  have h4 : ¬ daysInMonth year month < day := by omega
  have h5 : ¬ 23 < hour := by omega
  have h6 : ¬ 59 < minute := by omega
  have h7 : ¬ 60 < second := by omega
  have hleap : (second == 60) = decide (second = 60) := rfl
  unfold Timestamp.read?
  refine bind_of_some (readYear_yearText year _) ?_
  refine bind_of_some (readMark_cons hdash _) ?_
  refine bind_of_some (readDigits_twoDigits (by omega) _) ?_
  refine bind_of_some (readMark_cons hdash _) ?_
  refine bind_of_some (readDigits_twoDigits hd2 _) ?_
  refine bind_of_some (readDigits_twoDigits (by omega) _) ?_
  refine bind_of_some (readMark_cons hcolon _) ?_
  refine bind_of_some (readDigits_twoDigits (by omega) _) ?_
  refine bind_of_some (readMark_cons hcolon _) ?_
  refine bind_of_some (readDigits_twoDigits (by omega) _) ?_
  refine bind_of_some (readFraction_fractionText hn hz hpoint _) ?_
  refine bind_of_some hzone ?_
  have hblank : (trimStart []).isEmpty = true := rfl
  simp only [hblank, h1, h2, h3, h4, h5, h6, h7, hleap, decide_eq_true_eq, Bool.not_true,
    Bool.false_eq_true, if_false, decide_false, Bool.or_false, Int.natAbs_zero, Int.sub_zero, hutc,
    hlow, hhigh, decide_true, Bool.and_self, if_true]
  simp

theorem dateTimeText_eq (t : Timestamp) (zone : List Char) : t.dateTimeText ++ zone =
    yearText t.day.year ++ '-' :: (twoDigits t.day.month ++ '-' :: (twoDigits t.day.day ++ 'T' ::
      (twoDigits ((t.seconds % 86400).toNat / 3600) ++ ':' ::
        (twoDigits ((t.seconds % 86400).toNat / 60 % 60) ++ ':' ::
          (twoDigits ((t.seconds % 86400).toNat % 60 + (if 1000000000 ≤ t.nanos then 1 else 0)) ++
            (fractionText (t.nanos % 1000000000) ++ zone)))))) := by
  simp [Timestamp.dateTimeText, Timestamp.secondsText, Day.text]

/-- A moment of the calendar's range, written with any zone of no offset, reads back. -/
theorem read_dateTimeText {t : Timestamp} (h : t.Valid) {c : Char} {zone : List Char}
    (hz : isAsciiDigit c = false) (hpoint : c ≠ '.')
    (hzone : readOffset (c :: zone) = some (0, [])) :
    Timestamp.read? (t.dateTimeText ++ c :: zone) = some t := by
  obtain ⟨hlow, hhigh, hnanos⟩ := h
  have hmonth : 1 ≤ t.day.month ∧ t.day.month ≤ 12 := ofNumber_month _
  have hday : 1 ≤ t.day.day ∧ t.day.day ≤ daysInMonth t.day.year t.day.month := ofNumber_day _
  have hnumber : t.day.number = t.seconds / 86400 := number_ofNumber _
  have hwidth : t.day.day < 100 := by
    have hdays : daysInMonth t.day.year t.day.month ≤ 31 := by
      unfold daysInMonth
      split <;> split <;> omega
    omega
  have hleap : (t.seconds % 86400).toNat % 60 + (if 1000000000 ≤ t.nanos then 1 else 0) = 60 ↔
      1000000000 ≤ t.nanos := by
    split <;> omega
  have hsecond :
      (t.seconds % 86400).toNat % 60 + (if 1000000000 ≤ t.nanos then 1 else 0) ≤ 60 := by
    split <;> omega
  rw [dateTimeText_eq, read_parts hmonth hday hwidth (by omega) (by omega) hsecond (by omega)
    t.seconds _ hlow hhigh hz hpoint hzone]
  · by_cases hn : 1000000000 ≤ t.nanos
    · have hnext : t.nanos % 1000000000 + 1000000000 = t.nanos := by omega
      rw [if_pos (hleap.mpr hn), hnext]
    · have hsame : t.nanos % 1000000000 = t.nanos := by omega
      rw [if_neg (fun h => hn (hleap.mp h)), hsame]
  · rw [hnumber]
    by_cases hn : 1000000000 ≤ t.nanos
    · rw [if_pos (hleap.mpr hn)]
      omega
    · rw [if_neg (fun h => hn (hleap.mp h)), if_neg hn]
      omega

/-- The text of a moment of the calendar's range reads back as the moment. -/
theorem read_text {t : Timestamp} (h : t.Valid) : Timestamp.read? t.text = some t :=
  read_dateTimeText h (by decide) (by decide) readOffset_zulu

theorem read_offsetText {t : Timestamp} (h : t.Valid) : Timestamp.read? t.offsetText = some t :=
  read_dateTimeText h (by decide) (by decide) readOffset_zero

end Archiver
