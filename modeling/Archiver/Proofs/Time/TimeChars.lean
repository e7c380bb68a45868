import Archiver.Proofs.Time.TimestampText

namespace Archiver

/-- The characters that dates and times are written with. -/
def isTimeChar (c : Char) : Bool :=
  isAsciiDigit c || ['-', '+', ':', '.', 'T', 'Z'].contains c

variable {c : Char}

theorem timeChar_of_digit (h : isAsciiDigit c = true) : isTimeChar c = true := by
  rw [isTimeChar, h, Bool.true_or]

theorem timeChar_of_mem_padLeft {w n : Nat} (h : c ∈ padLeft w n.repr.toList) :
    isTimeChar c = true :=
  timeChar_of_digit (isAsciiDigit_of_mem_padLeft h)

theorem timeChar_of_mem_twoDigits {n : Nat} (h : c ∈ twoDigits n) : isTimeChar c = true :=
  timeChar_of_digit (isAsciiDigit_of_mem_twoDigits h)

theorem timeChar_of_mem_yearText {y : Int} (h : c ∈ yearText y) : isTimeChar c = true := by
  cases y with
  | ofNat n =>
    rw [yearText] at h
    split at h
    · exact timeChar_of_mem_padLeft h
    · rcases List.mem_cons.mp h with rfl | h
      · decide
      · exact timeChar_of_mem_padLeft h
  | negSucc n =>
    rcases List.mem_cons.mp h with rfl | h
    · decide
    · exact timeChar_of_mem_padLeft h

theorem timeChar_of_mem_dayText {d : Day} (h : c ∈ d.text) : isTimeChar c = true := by
  simp only [Day.text, List.mem_append, List.mem_cons] at h
  rcases h with h | rfl | h | rfl | h
  · exact timeChar_of_mem_yearText h
  · decide
  · exact timeChar_of_mem_twoDigits h
  · decide
  · exact timeChar_of_mem_twoDigits h

theorem timeChar_of_mem_secondsText {t : Timestamp} (h : c ∈ t.secondsText) :
    isTimeChar c = true := by
  simp only [Timestamp.secondsText, List.mem_append, List.mem_cons] at h
  rcases h with h | rfl | h | rfl | h | rfl | h
  · exact timeChar_of_mem_dayText h
  · decide
  · exact timeChar_of_mem_twoDigits h
  · decide
  · exact timeChar_of_mem_twoDigits h
  · decide
  · exact timeChar_of_mem_twoDigits h

theorem timeChar_of_mem_millisText {t : Timestamp} (h : c ∈ t.millisText) :
    isTimeChar c = true := by
  simp only [Timestamp.millisText, List.mem_append, List.mem_cons, List.not_mem_nil, or_false] at h
  rcases h with h | rfl | h | rfl
  · exact timeChar_of_mem_secondsText h
  · decide
  · exact timeChar_of_mem_padLeft h
  · decide

end Archiver
