import Archiver.Progress.Record
import Archiver.Text.Utf8
import Archiver.Proofs.Json.Fronts
import Archiver.Proofs.Json.Strings
import Archiver.Proofs.Text.Digits
import Archiver.Proofs.Text.Lines
import Archiver.Proofs.Time.TimestampText

namespace Archiver

theorem skipJsonBlanks_of_head {c : Char} (hc : isJsonBlank c = false) (s : List Char) :
    skipJsonBlanks (c :: s) = c :: s := by
  simp [skipJsonBlanks, hc]

theorem readJsonValue_jsonString (f : Nat) (s rest : List Char) :
    readJsonValue (f + 1) (jsonString s ++ rest) = some (.string (some s), rest) := by
  have hread := readJsonString_jsonString s rest
  simp [readJsonValue, jsonString, skipJsonBlanks_of_head (c := '"') (by decide), hread]

theorem readJsonValue_null (f : Nat) (rest : List Char) :
    readJsonValue (f + 1) ("null".toList ++ rest) = some (.null, rest) := by
  have hs : "null".toList ++ rest = 'n' :: 'u' :: 'l' :: 'l' :: rest := rfl
  rw [hs, readJsonValue, skipJsonBlanks_of_head (by decide)]
  simp [after?]

theorem isJsonBlank_of_digit {c : Char} (h : isAsciiDigit c = true) : isJsonBlank c = false := by
  simp only [isJsonBlank, Bool.or_eq_false_iff, beq_eq_false_iff_ne, ne_eq]
  refine ⟨⟨⟨?_, ?_⟩, ?_⟩, ?_⟩ <;> (rintro rfl; revert h; decide)

/-- A number in decimal digits is read up to the comma after it. -/
theorem readJsonNumber_repr (n : Nat) (rest : List Char) :
    readJsonNumber (n.repr.toList ++ ',' :: rest) = some (n.repr.toList, ',' :: rest) := by
  have hall : ∀ c ∈ n.repr.toList, isAsciiDigit c = true := fun c hc => isAsciiDigit_of_mem_repr hc
  have htake : (n.repr.toList ++ ',' :: rest).takeWhile isAsciiDigit = n.repr.toList := by
    rw [List.takeWhile_append_of_pos hall]
    simp [show isAsciiDigit ',' = false from by decide]
  have hdrop : (n.repr.toList ++ ',' :: rest).dropWhile isAsciiDigit = ',' :: rest := by
    rw [List.dropWhile_append_of_pos hall]
    simp [show isAsciiDigit ',' = false from by decide]
  have hfraction : readJsonFraction (',' :: rest) = some ([], ',' :: rest) := by
    simp [readJsonFraction, readJsonExponent]
  simp only [readJsonNumber, htake, hdrop, hfraction]
  split
  · next h => exact absurd h (repr_ne_nil n)
  · next h => exact absurd (repr_leading_zero h) (by simp)
  · simp

theorem readJsonValue_repr (f n : Nat) (rest : List Char) :
    readJsonValue (f + 1) (n.repr.toList ++ ',' :: rest) =
      some (.number n.repr.toList, ',' :: rest) := by
  have hread := readJsonNumber_repr n rest
  obtain ⟨c, cs, hc⟩ := List.exists_cons_of_ne_nil (repr_ne_nil n)
  have hd : isAsciiDigit c = true := isAsciiDigit_of_mem_repr (n := n) (by simp [hc])
  have hne : ∀ e : Char, isAsciiDigit e = false → (c == e) = false := by
    intro e he
    have : c ≠ e := by rintro rfl; simp [he] at hd
    simpa using this
  rw [hc, List.cons_append] at hread ⊢
  rw [readJsonValue, skipJsonBlanks_of_head (isJsonBlank_of_digit hd)]
  simp [hne '"' (by decide), hne '[' (by decide), hne '{' (by decide), hne 'n' (by decide),
    hne 't' (by decide), hne 'f' (by decide), hne '-' (by decide), hread]

theorem readJsonMembers_more {f : Nat} {key text rest : List Char} {v : JsonValue}
    (h : readJsonValue f text = some (v, ',' :: rest)) :
    readJsonMembers (f + 1) (jsonString key ++ ':' :: text) =
      (readJsonMembers f rest).map fun p => ((some key, v) :: p.1, p.2) := by
  have hread := readJsonString_jsonString key (':' :: text)
  simp [readJsonMembers, jsonString, skipJsonBlanks_of_head (c := '"') (by decide), hread,
    skipJsonBlanks_of_head (c := ':') (by decide), h, skipJsonBlanks_of_head (c := ',') (by decide)]

theorem readJsonMembers_last {f : Nat} {key text rest : List Char} {v : JsonValue}
    (h : readJsonValue f text = some (v, '}' :: rest)) :
    readJsonMembers (f + 1) (jsonString key ++ ':' :: text) = some ([(some key, v)], rest) := by
  have hread := readJsonString_jsonString key (':' :: text)
  simp [readJsonMembers, jsonString, skipJsonBlanks_of_head (c := '"') (by decide), hread,
    skipJsonBlanks_of_head (c := ':') (by decide), h, skipJsonBlanks_of_head (c := '}') (by decide)]

/-- The texts between the values of a record's line are the field names, written as JSON. -/
theorem line_keys : "\x7b\"url\":".toList = '{' :: (jsonString "url".toList ++ [':']) ∧
    ",\"outcome\":".toList = ',' :: (jsonString "outcome".toList ++ [':']) ∧
    ",\"timestamp\":".toList = ',' :: (jsonString "timestamp".toList ++ [':']) ∧
    ",\"retries\":".toList = ',' :: (jsonString "retries".toList ++ [':']) ∧
    ",\"error\":".toList = ',' :: (jsonString "error".toList ++ [':']) :=
  ⟨by rfl, by rfl, by rfl, by rfl, by rfl⟩

theorem line_eq (r : ProgressRecord) : r.line =
    '{' :: (jsonString "url".toList ++ ':' :: (jsonString r.url.text.toList ++ ',' ::
      (jsonString "outcome".toList ++ ':' :: (jsonString r.outcome.name ++ ',' ::
        (jsonString "timestamp".toList ++ ':' :: (jsonString r.timestamp.text ++ ',' ::
          (jsonString "retries".toList ++ ':' :: (r.retries.toNat.repr.toList ++ ',' ::
            (jsonString "error".toList ++ ':' :: (jsonOfError r.error ++ ['}'])))))))))) := by
  obtain ⟨h1, h2, h3, h4, h5⟩ := line_keys
  unfold ProgressRecord.line
  rw [h1, h2, h3, h4, h5]
  simp only [List.append_assoc, List.cons_append, List.nil_append]

def errorValue (error : Option String) : JsonValue :=
  error.elim .null fun text => .string (some text.toList)

/-- The members of the object that a record's line writes. -/
def ProgressRecord.members (r : ProgressRecord) : List (Option (List Char) × JsonValue) :=
  [(some "url".toList, .string (some r.url.text.toList)),
    (some "outcome".toList, .string (some r.outcome.name)),
    (some "timestamp".toList, .string (some r.timestamp.text)),
    (some "retries".toList, .number r.retries.toNat.repr.toList),
    (some "error".toList, errorValue r.error)]

theorem readJsonValue_error (f : Nat) (error : Option String) (rest : List Char) :
    readJsonValue (f + 1) (jsonOfError error ++ rest) = some (errorValue error, rest) := by
  cases error with
  | none => exact readJsonValue_null f rest
  | some text => exact readJsonValue_jsonString f text.toList rest

theorem readJsonValue_line (f : Nat) (r : ProgressRecord) :
    readJsonValue (f + 7) r.line = some (.object r.members, []) := by
  have hmembers : ∀ key rest, skipJsonBlanks (jsonString key ++ rest) = jsonString key ++ rest :=
    fun key rest => skipJsonBlanks_of_head (by decide) _
  have hquote : ∀ (key rest after : List Char), jsonString key ++ rest ≠ '}' :: after := by
    intro key rest after h
    exact absurd (List.cons.inj h).1 (by decide)
  rw [line_eq, readJsonValue, skipJsonBlanks_of_head (by decide)]
  simp only [beq_iff_eq, Char.reduceEq, if_false, if_true, hmembers]
  rw [readJsonMembers_more (readJsonValue_jsonString _ _ _),
    readJsonMembers_more (readJsonValue_jsonString _ _ _),
    readJsonMembers_more (readJsonValue_jsonString _ _ _),
    readJsonMembers_more (readJsonValue_repr _ _ _),
    readJsonMembers_last (readJsonValue_error _ _ _)]
  split
  · next h => exact absurd h (hquote _ _ _)
  · simp [ProgressRecord.members]

theorem ofName_name (o : Outcome) : Outcome.ofName? o.name = some o := by
  cases o <;> decide

theorem retriesOfJson_repr (n : UInt32) : retriesOfJson? (.number n.toNat.repr.toList) = some n := by
  have hall : n.toNat.repr.toList.all isAsciiDigit = true :=
    List.all_eq_true.mpr fun c hc => isAsciiDigit_of_mem_repr hc
  have hlt : n.toNat < 4294967296 := n.toNat_lt
  rw [retriesOfJson?, hall, decimalValue_repr]
  simp [hlt]

theorem errorOfJson_errorValue (error : Option String) :
    errorOfJson? (errorValue error) = some error := by
  cases error <;> simp [errorValue, errorOfJson?]

theorem ofJson_members {r : ProgressRecord} (h : r.timestamp.Valid) :
    ProgressRecord.ofJson? (.object r.members) = some r := by
  have hretries := retriesOfJson_repr r.retries
  unfold ProgressRecord.members
  generalize JsonValue.number r.retries.toNat.repr.toList = retries at hretries ⊢
  simp [ProgressRecord.ofJson?, valuesOf, ProgressRecord.ofFields?, JsonValue.text?,
    Outcome.ofJson?, ofName_name, timestampOfJson?, read_text h, hretries, errorOfJson_errorValue]

theorem readJson_line (r : ProgressRecord) : readJson? r.line = some (.object r.members) := by
  have hlength : 6 ≤ r.line.length := by
    rw [line_eq]
    simp only [List.length_cons, List.length_append, jsonString]
    omega
  have hfuel : r.line.length + 1 = (r.line.length - 6) + 7 := by omega
  rw [readJson?, hfuel, readJsonValue_line]
  rfl

/-- The line of a record reads back as the record. -/
theorem read_line {r : ProgressRecord} (h : r.timestamp.Valid) :
    ProgressRecord.read? r.line = some r := by
  rw [ProgressRecord.read?, readJson_line]
  exact ofJson_members h

theorem line_ends (r : ProgressRecord) : ∃ s, r.line = '{' :: (s ++ ['}']) := by
  rw [line_eq]
  simp only [← List.append_assoc, ← List.cons_append]
  exact ⟨_, rfl⟩

theorem trim_line (r : ProgressRecord) : trim r.line = r.line := by
  obtain ⟨s, hs⟩ := line_ends r
  rw [hs, trim_of_ends (by decide) (by decide)]

theorem le_toNat_of_mem_jsonOfError {error : Option String} {d : Char} (h : d ∈ jsonOfError error) :
    0x20 ≤ d.toNat := by
  cases error with
  | none => exact le_toNat_of_all (by decide) h
  | some text => exact le_toNat_of_mem_jsonString h

theorem le_toNat_of_digit {c : Char} (h : isAsciiDigit c = true) : 0x20 ≤ c.toNat := by
  simp only [isAsciiDigit, Bool.and_eq_true, decide_eq_true_eq, UInt32.le_iff_toNat_le] at h
  exact Nat.le_trans (by decide) h.1

/-- A record's line has no control character, so no line end. -/
theorem le_toNat_of_mem_line {r : ProgressRecord} {d : Char} (h : d ∈ r.line) : 0x20 ≤ d.toNat := by
  rw [line_eq] at h
  simp only [List.mem_cons, List.mem_append, List.not_mem_nil, or_false] at h
  rcases h with rfl | h | rfl | h | rfl | h | rfl | h | rfl | h | rfl | h | rfl | h | rfl | h | rfl |
    h | rfl | h | rfl
  all_goals first | exact le_toNat_of_mem_jsonString h | exact le_toNat_of_mem_jsonOfError h |
    exact le_toNat_of_digit (isAsciiDigit_of_mem_repr h) | decide

theorem newline_not_mem_line (r : ProgressRecord) : '\n' ∉ r.line := by
  intro h
  exact absurd (le_toNat_of_mem_line h) (by decide)

theorem read_none {text : List Char} (h : readJson? text = none) :
    ProgressRecord.read? text = none := by
  rw [ProgressRecord.read?, h]
  rfl

/-- Whatever is cut off a record's line at its end, the closing brace is cut off. -/
theorem brace_mem_end {r : ProgressRecord} {s t : List Char} (hline : r.line = s ++ t)
    (ht : t ≠ []) : '}' ∈ t := by
  obtain ⟨u, hu⟩ := line_ends r
  have hend := congrArg List.getLast? (hline.symm.trans hu)
  rw [List.getLast?_append_of_ne_nil _ ht, ← List.cons_append, List.getLast?_concat] at hend
  exact List.mem_of_getLast? hend

theorem skipJsonBlanks_ne_nil {t : List Char} (ht : '}' ∈ t) : skipJsonBlanks t ≠ [] := by
  intro h
  have hall := List.dropWhile_eq_nil_iff.mp h '}' ht
  exact absurd hall (by decide)

/-- No proper beginning of a record's line is a record, nor is a blank end cut off it. -/
theorem read_beginning {r : ProgressRecord} {s t : List Char} (hline : r.line = '{' :: s ++ t)
    (ht : t ≠ []) : ProgressRecord.read? (trim ('{' :: s)) = none := by
  obtain ⟨cut, hcut⟩ := trimEnd_isPrefix s
  have hlast := brace_mem_end hline ht
  have hrest : skipJsonBlanks (cut ++ t) ≠ [] :=
    skipJsonBlanks_ne_nil (List.mem_append_right cut hlast)
  rw [← hcut, List.cons_append, List.append_assoc, ← List.cons_append] at hline
  rw [trim_cons (by decide)]
  exact read_none (readJson?_brace_cut (hline ▸ readJson_line r) hrest)

/-- No proper beginning of a record's line is a record as it stands. -/
theorem read_cut {r : ProgressRecord} {s t : List Char} (hline : r.line = s ++ t) (ht : t ≠ []) :
    ProgressRecord.read? s = none := by
  cases s with
  | nil => rfl
  | cons c s =>
    obtain ⟨u, hu⟩ := line_ends r
    obtain rfl : c = '{' := (List.cons.inj (hline.symm.trans hu)).1
    have hrest := skipJsonBlanks_ne_nil (brace_mem_end hline ht)
    exact read_none (readJson?_brace_cut (hline ▸ readJson_line r) hrest)

/-- A record's line is a single line. -/
theorem lines_line (r : ProgressRecord) : lines r.line = [r.line] := by
  obtain ⟨s, hs⟩ := line_ends r
  rw [lines, splitAll_line (newline_not_mem_line r), closeLines, if_neg]
  simp [hs]

/-- A beginning of a record's line with a faulty stretch at its end is no record. -/
theorem read_beginning_fault (s : List Char) :
    ProgressRecord.read? (trim ('{' :: (s ++ [replacement]))) = none := by
  rw [trim_of_ends (by decide) (by decide)]
  exact read_none (readJson?_brace_last (by decide) (by decide))

/-- A record's line is one line without control characters, and reads back as the record; no proper
beginning of it reads as any record. -/
theorem record_round_trip {r : ProgressRecord} (h : r.timestamp.Valid) :
    lines r.line = [r.line] ∧ (∀ c ∈ r.line, 0x20 ≤ c.toNat) ∧
    ProgressRecord.read? r.line = some r ∧
    ∀ s t, r.line = s ++ t → t ≠ [] → ProgressRecord.read? s = none :=
  ⟨lines_line r, fun _ hc => le_toNat_of_mem_line hc, read_line h, fun _ _ => read_cut⟩

/-- The last nanosecond of the calendar, the highest count of retries, and texts with quotes,
backslashes, line ends, a control character and characters of two, three and four bytes. -/
def extremeRecord : ProgressRecord :=
  ⟨⟨"https://a.test/\"é\\\r\n\u2028"⟩, .failure, ⟨(lastDay.number + 1) * 86400 - 1, 999999999⟩,
    4294967295, some "\x07\x7d\"😀\n"⟩

theorem record_round_trip_extreme : extremeRecord.timestamp.Valid ∧
    extremeRecord.line = ("\x7b\"url\":\"https://a.test/\\\"é\\\\\\r\\n\u2028\",\"outcome\":\"failure\"," ++
      "\"timestamp\":\"+262142-12-31T23:59:59.999999999Z\",\"retries\":4294967295," ++
      "\"error\":\"\\u0007\x7d\\\"😀\\n\"\x7d").toList ∧
    ProgressRecord.read? extremeRecord.line = some extremeRecord ∧
    ProgressRecord.read? extremeRecord.line.dropLast = none := by
  have hvalid : extremeRecord.timestamp.Valid := by decide
  obtain ⟨-, -, hread, hcut⟩ := record_round_trip hvalid
  have hline : extremeRecord.line ≠ [] := by decide +kernel
  refine ⟨hvalid, by decide +kernel, hread, ?_⟩
  exact hcut _ [extremeRecord.line.getLast hline] (List.dropLast_append_getLast hline).symm (by simp)

end Archiver
