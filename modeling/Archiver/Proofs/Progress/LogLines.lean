import Archiver.Proofs.Progress.Replay

namespace Archiver

/-- A line of a log that crashes have cut: the whole text of a record, or a part of it. -/
inductive LogLine where
  | whole (r : ProgressRecord) (valid : r.timestamp.Valid)
  | torn (r : ProgressRecord) (kept : Nat) (some : 0 < kept)
      (part : kept < (encodeUtf8 r.line).length)

/-- The bytes of a line before its line end. -/
def LogLine.text : LogLine → List UInt8
  | .whole r _ => encodeUtf8 r.line
  | .torn r kept _ _ => (encodeUtf8 r.line).take kept

def LogLine.record? : LogLine → Option ProgressRecord
  | .whole r _ => some r
  | .torn .. => none

/-- The bytes of a log, each line with its line end. -/
def logBytes (ls : List LogLine) : List UInt8 := ls.flatMap fun l => l.text ++ [0x0A]

/-- A record, with the place in the log where its text ends. -/
structure LedgerEntry where
  record : ProgressRecord
  stop : Nat

/-- The whole records of lines that begin at a place of the log. -/
def ledgerFrom (start : Nat) : List LogLine → List LedgerEntry
  | [] => []
  | l :: ls =>
    (l.record?.map fun r => ⟨r, start + l.text.length⟩).toList ++
      ledgerFrom (start + l.text.length + 1) ls

@[simp] theorem logBytes_nil : logBytes [] = [] := rfl

@[simp] theorem logBytes_cons (l : LogLine) (ls : List LogLine) :
    logBytes (l :: ls) = l.text ++ 0x0A :: logBytes ls := by
  simp [logBytes]

theorem logBytes_append (ls ms : List LogLine) :
    logBytes (ls ++ ms) = logBytes ls ++ logBytes ms := by
  simp [logBytes]

theorem text_ne_nil (l : LogLine) : l.text ≠ [] := by
  cases l with
  | whole r _ =>
    obtain ⟨s, hs⟩ := line_ends r
    rw [LogLine.text, hs, encodeUtf8_cons]
    exact List.append_ne_nil_of_left_ne_nil (encodeChar_ne_nil _) _
  | torn r kept h0 hk =>
    apply List.ne_nil_of_length_pos
    rw [LogLine.text, List.length_take]
    omega

theorem newline_not_mem_text (l : LogLine) : 0x0A ∉ l.text := by
  have hline := fun r => newline_not_mem_encodeUtf8 (newline_not_mem_line r)
  cases l with
  | whole r _ => exact hline r
  | torn r kept _ _ => exact fun h => hline r (List.mem_of_mem_take h)

theorem text_of_record {l : LogLine} {r : ProgressRecord} (h : l.record? = some r) :
    l.text = encodeUtf8 r.line := by
  cases l with
  | whole r' _ => cases h; rfl
  | torn => cases h

theorem logEntries_text (l : LogLine) : logEntries l.text = [l.record?] := by
  cases l with
  | whole r hr => exact logEntries_whole hr
  | torn r kept h0 hk => exact logEntries_torn h0 hk

/-- A log has one entry for each of its lines. -/
theorem logEntries_logBytes (ls : List LogLine) :
    logEntries (logBytes ls) = ls.map LogLine.record? := by
  induction ls with
  | nil => rfl
  | cons l ls ih =>
    rw [logBytes_cons, logEntries_append_newline, logEntries_text, ih]
    rfl

/-- The lines of a log's text. -/
def logLines (bytes : List UInt8) : List (List Char) := lines (decodeUtf8 bytes)

theorem logLines_newline (p q : List UInt8) : logLines (p ++ 0x0A :: q) =
    (splitAll (· == '\n') (decodeUtf8 p)).map dropLineReturn ++ logLines q := by
  have hn : Char.ofNat (0x0A : UInt8).toNat = '\n' := rfl
  rw [logLines, decodeUtf8_append_ascii (by decide), hn, lines_append_newline]
  rfl

theorem logLines_append (ls : List LogLine) (bytes : List UInt8) :
    logLines (logBytes ls ++ bytes) = logLines (logBytes ls) ++ logLines bytes := by
  induction ls with
  | nil => rfl
  | cons l ls ih =>
    rw [logBytes_cons, List.append_assoc, List.cons_append, logLines_newline, logLines_newline, ih,
      List.append_assoc]

theorem dropLineReturn_line (r : ProgressRecord) : dropLineReturn r.line = r.line := by
  obtain ⟨s, hs⟩ := line_ends r
  rw [hs, dropLineReturn]
  split
  · next h => simp at h
  · rfl

/-- Whole records stand in a log as lines of their own. -/
theorem logLines_whole {ls : List LogLine} {rs : List ProgressRecord}
    (h : ls.map LogLine.record? = rs.map some) : logLines (logBytes ls) = rs.map (·.line) := by
  induction ls generalizing rs with
  | nil =>
    obtain rfl : rs = [] := by simpa using h.symm
    rfl
  | cons l ls ih =>
    cases rs with
    | nil => simp at h
    | cons r rs =>
      obtain ⟨hl, hls⟩ := List.cons.inj h
      have htext := text_of_record hl
      have hsplit : splitAll (· == '\n') r.line = [r.line] := splitAll_line (newline_not_mem_line r)
      rw [logBytes_cons, logLines_newline, htext, decodeUtf8_encodeUtf8, hsplit, ih hls]
      simp [dropLineReturn_line]

theorem ledgerFrom_append (start : Nat) (ls ms : List LogLine) :
    ledgerFrom start (ls ++ ms) =
      ledgerFrom start ls ++ ledgerFrom (start + (logBytes ls).length) ms := by
  induction ls generalizing start with
  | nil => simp [ledgerFrom]
  | cons l ls ih =>
    have hnext : start + l.text.length + 1 + (logBytes ls).length =
        start + (logBytes (l :: ls)).length := by
      simp
      omega
    rw [List.cons_append, ledgerFrom, ledgerFrom, ih, hnext, List.append_assoc]

theorem ledgerFrom_records (start : Nat) (ls : List LogLine) :
    (ledgerFrom start ls).map LedgerEntry.record = ls.filterMap LogLine.record? := by
  induction ls generalizing start with
  | nil => rfl
  | cons l ls ih =>
    rw [ledgerFrom, List.map_append, ih]
    cases hr : l.record? <;> simp [hr]

theorem ledgerFrom_start {start : Nat} {ls : List LogLine} {e : LedgerEntry}
    (h : e ∈ ledgerFrom start ls) : start < e.stop := by
  induction ls generalizing start with
  | nil => simp [ledgerFrom] at h
  | cons l ls ih =>
    have hpos := List.length_pos_of_ne_nil (text_ne_nil l)
    rw [ledgerFrom, List.mem_append] at h
    rcases h with h | h
    · obtain ⟨r, _, rfl⟩ := Option.map_eq_some_iff.mp (Option.mem_toList.mp h)
      exact Nat.lt_add_of_pos_right hpos
    · have := ih h
      omega

/-- Each entry of the ledger stands for a text in the log that ends at its place. -/
theorem ledgerFrom_text {start : Nat} {ls : List LogLine} {e : LedgerEntry}
    (h : e ∈ ledgerFrom start ls) : e.stop - start ≤ (logBytes ls).length ∧
      encodeUtf8 e.record.line <:+ (logBytes ls).take (e.stop - start) := by
  induction ls generalizing start with
  | nil => simp [ledgerFrom] at h
  | cons l ls ih =>
    rw [ledgerFrom, List.mem_append] at h
    rcases h with h | h
    · obtain ⟨r, hr, rfl⟩ := Option.map_eq_some_iff.mp (Option.mem_toList.mp h)
      have htext := text_of_record hr
      have hstop : start + l.text.length - start = l.text.length := by omega
      rw [hstop, logBytes_cons, List.take_left', ← htext]
      · exact ⟨by simp, List.suffix_rfl⟩
      · rfl
    · obtain ⟨hlen, hsuffix⟩ := ih h
      have hstart := ledgerFrom_start h
      have hstop : e.stop - start =
          (l.text ++ [0x0A]).length + (e.stop - (start + l.text.length + 1)) := by
        simp
        omega
      have hbytes : logBytes (l :: ls) = (l.text ++ [0x0A]) ++ logBytes ls := by simp
      rw [hbytes, hstop, List.take_length_add_append]
      have hall : (l.text ++ [0x0A] ++ logBytes ls).length =
          (l.text ++ [0x0A]).length + (logBytes ls).length := List.length_append
      exact ⟨by omega, hsuffix.trans (List.suffix_append _ _)⟩

@[simp] theorem closeLog_nil : closeLog [] = [] := rfl

theorem closeLog_append_newline (p q : List UInt8) :
    closeLog (p ++ 0x0A :: q) = p ++ 0x0A :: closeLog q := by
  unfold closeLog isTorn
  cases q with
  | nil => simp
  | cons b q =>
    have hlast : (p ++ 0x0A :: b :: q).getLast? = (b :: q).getLast? := by
      rw [← List.singleton_append, ← List.append_assoc,
        List.getLast?_append_of_ne_nil _ (List.cons_ne_nil b q)]
    rw [hlast]
    split <;> simp

theorem closeLog_of_not_mem {bytes : List UInt8} (hne : bytes ≠ []) (hn : 0x0A ∉ bytes) :
    closeLog bytes = bytes ++ [0x0A] := by
  have hlast : bytes.getLast hne ≠ 0x0A := fun h => hn (h ▸ List.getLast_mem hne)
  have htorn : isTorn bytes = true := by
    rw [isTorn, List.getLast?_eq_some_getLast hne]
    simpa using hlast
  rw [closeLog, if_pos htorn]

theorem closeLog_logBytes (ls : List LogLine) : closeLog (logBytes ls) = logBytes ls := by
  induction ls with
  | nil => rfl
  | cons l ls ih => rw [logBytes_cons, closeLog_append_newline, ih]

/-- A line cut short of its whole text is torn. -/
theorem text_take (l : LogLine) {k : Nat} (h0 : 0 < k) (hk : k < l.text.length) :
    ∃ m : LogLine, m.text = l.text.take k ∧ m.record? = none := by
  cases l with
  | whole r _ => exact ⟨.torn r k h0 hk, rfl, rfl⟩
  | torn r kept _ hr =>
    rw [LogLine.text, List.length_take] at hk
    refine ⟨.torn r k h0 (by omega), ?_, rfl⟩
    rw [LogLine.text, LogLine.text, List.take_take, Nat.min_eq_left (by omega)]

def tornLines (ls : List LogLine) : Nat := ls.countP fun l => l.record?.isNone

theorem ledgerFrom_filter_start {start kept : Nat} {ls : List LogLine} (h : kept ≤ start) :
    (ledgerFrom start ls).filter (·.stop ≤ kept) = [] := by
  rw [List.filter_eq_nil_iff]
  intro e he
  have := ledgerFrom_start he
  simp only [decide_eq_true_eq]
  omega

theorem tornLines_singleton (l : LogLine) : tornLines [l] ≤ 1 :=
  List.countP_le_length

/-- A line that is cut anywhere and closed again is whole, torn or gone. -/
theorem text_cut (l : LogLine) (start : Nat) {kept : Nat} (hin : kept ≤ l.text.length) :
    ∃ ms, closeLog (l.text.take kept) = logBytes ms ∧
      ledgerFrom start ms = (if l.text.length ≤ kept then
        (l.record?.map fun r => ⟨r, start + l.text.length⟩).toList else []) ∧
      tornLines ms ≤ 1 := by
  have hpos := List.length_pos_of_ne_nil (text_ne_nil l)
  by_cases hzero : kept = 0
  · refine ⟨[], by simp [hzero], ?_, by simp [tornLines]⟩
    rw [if_neg (by omega)]
    rfl
  by_cases hend : kept = l.text.length
  · refine ⟨[l], ?_, by simp [ledgerFrom, hend], tornLines_singleton l⟩
    rw [hend, List.take_length, closeLog_of_not_mem (text_ne_nil l) (newline_not_mem_text l)]
    simp
  · obtain ⟨m, hm, hr⟩ := text_take l (by omega) (by omega : kept < l.text.length)
    refine ⟨[m], ?_, ?_, tornLines_singleton m⟩
    · rw [← hm, closeLog_of_not_mem (text_ne_nil m) (newline_not_mem_text m)]
      simp
    · rw [if_neg (by omega)]
      simp [ledgerFrom, hr]

/-- A log that is cut anywhere and closed again is a log, whose whole records are those whose texts
end before the cut; at most one line is newly torn. -/
theorem logBytes_cut (ls : List LogLine) (start kept : Nat) :
    ∃ ms, closeLog ((logBytes ls).take kept) = logBytes ms ∧
      ledgerFrom start ms = (ledgerFrom start ls).filter (·.stop ≤ start + kept) ∧
      tornLines ms ≤ tornLines ls + 1 := by
  induction ls generalizing start kept with
  | nil => exact ⟨[], by simp, by simp [ledgerFrom], by simp [tornLines]⟩
  | cons l ls ih =>
    have hfirst : (ledgerFrom start (l :: ls)).filter (·.stop ≤ start + kept) =
        (if l.text.length ≤ kept then (l.record?.map fun r => ⟨r, start + l.text.length⟩).toList
          else []) ++
        (ledgerFrom (start + l.text.length + 1) ls).filter (·.stop ≤ start + kept) := by
      rw [ledgerFrom, List.filter_append]
      cases l.record? <;> by_cases hk : l.text.length ≤ kept <;> simp [hk]
    by_cases hin : kept ≤ l.text.length
    · -- the cut is in the first line: no other line is left, and its newline is gone
      have htake : (logBytes (l :: ls)).take kept = l.text.take kept := by
        rw [logBytes_cons, List.take_append_of_le_length hin]
      have hrest : (ledgerFrom (start + l.text.length + 1) ls).filter (·.stop ≤ start + kept) = [] :=
        ledgerFrom_filter_start (by omega)
      obtain ⟨ms, hbytes, hledger, htorn⟩ := text_cut l start hin
      refine ⟨ms, ?_, ?_, by omega⟩
      · rw [htake, hbytes]
      · rw [hfirst, hrest, List.append_nil, hledger]
    · obtain ⟨k, rfl⟩ : ∃ k, kept = l.text.length + 1 + k := ⟨kept - (l.text.length + 1), by omega⟩
      obtain ⟨ms, hbytes, hledger, htorn⟩ := ih (start + l.text.length + 1) k
      refine ⟨l :: ms, ?_, ?_, ?_⟩
      · have htake : (logBytes (l :: ls)).take (l.text.length + 1 + k) =
            l.text ++ 0x0A :: (logBytes ls).take k := by
          rw [logBytes_cons, Nat.add_assoc, List.take_length_add_append, Nat.add_comm 1 k,
            List.take_succ_cons]
        rw [htake, closeLog_append_newline, hbytes, logBytes_cons]
      · have hplace : start + (l.text.length + 1 + k) = start + l.text.length + 1 + k := by omega
        rw [hfirst, if_pos (by omega), ledgerFrom, hledger, hplace]
      · simp only [tornLines, List.countP_cons] at htorn ⊢
        omega

end Archiver
