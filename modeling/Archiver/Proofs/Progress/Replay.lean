import Mathlib.Data.List.ReduceOption
import Archiver.Proofs.Progress.RecordLine
import Archiver.Proofs.Text.Utf8
import Archiver.Progress.Store

namespace Archiver

/-- What a line of a log says: nothing if it is blank, else its record, or `none` if it cannot be
read. -/
def entryOfLine? (line : List Char) : Option (Option ProgressRecord) :=
  match trim line with
  | [] => none
  | text => some (ProgressRecord.read? text)

/-- The entries of a log, in order. -/
def logEntries (bytes : List UInt8) : List (Option ProgressRecord) :=
  (lines (decodeUtf8 bytes)).filterMap entryOfLine?

/-- The snapshot that entries come to. -/
def Snapshot.ofEntries (entries : List (Option ProgressRecord)) : Snapshot :=
  ⟨entries.reduceOption.foldl Archiver.remember [], entries.count none⟩

theorem foldl_readLine (s : Snapshot) (ls : List (List Char)) :
    ls.foldl Snapshot.readLine s =
      ⟨(ls.filterMap entryOfLine?).reduceOption.foldl remember s.records,
        s.discarded + (ls.filterMap entryOfLine?).count none⟩ := by
  induction ls generalizing s with
  | nil => rfl
  | cons line ls ih =>
    rw [List.foldl_cons, ih, List.filterMap_cons]
    unfold Snapshot.readLine entryOfLine?
    cases ht : trim line with
    | nil => rfl
    | cons c text =>
      cases hr : ProgressRecord.read? (c :: text) with
      | none =>
        simp [hr]
        omega
      | some r => simp [hr, Snapshot.remember]

theorem ofLog_eq (bytes : List UInt8) : Snapshot.ofLog bytes = .ofEntries (logEntries bytes) := by
  rw [Snapshot.ofLog, Snapshot.ofText, foldl_readLine, Snapshot.ofEntries]
  simp [Snapshot.empty, logEntries]

theorem entryOfLine_dropLineReturn (line : List Char) :
    entryOfLine? (dropLineReturn line) = entryOfLine? line := by
  rw [entryOfLine?, trim_dropLineReturn, entryOfLine?]

theorem filterMap_closeLines (ls : List (List Char)) :
    (closeLines ls).filterMap entryOfLine? = ls.filterMap entryOfLine? := by
  fun_induction closeLines ls with
  | case1 => rfl
  | case2 last h =>
    have hl : last = [] := by simpa using h
    subst hl
    rfl
  | case3 last h => rfl
  | case4 line rest hr ih => simp [List.filterMap_cons, entryOfLine_dropLineReturn, ih]

@[simp] theorem logEntries_nil : logEntries [] = [] := rfl

/-- The entries on the two sides of a line end are read apart. -/
theorem logEntries_append_newline (p q : List UInt8) :
    logEntries (p ++ 0x0A :: q) = logEntries p ++ logEntries q := by
  have hn : Char.ofNat (0x0A : UInt8).toNat = '\n' := rfl
  have hmap : ∀ ls : List (List Char),
      (ls.map dropLineReturn).filterMap entryOfLine? = ls.filterMap entryOfLine? := by
    intro ls
    rw [List.filterMap_map]
    exact congrArg (ls.filterMap ·) (funext entryOfLine_dropLineReturn)
  rw [logEntries, decodeUtf8_append_ascii (by decide), hn, lines_append_newline,
    List.filterMap_append, hmap, ← filterMap_closeLines]
  rfl

/-- The line end that closes a torn log adds no entry. -/
theorem logEntries_closeLog (bytes : List UInt8) : logEntries (closeLog bytes) = logEntries bytes := by
  unfold closeLog
  split
  · rw [logEntries_append_newline, logEntries_nil, List.append_nil]
  · rfl

theorem ofLog_closeLog (bytes : List UInt8) :
    Snapshot.ofLog (closeLog bytes) = Snapshot.ofLog bytes := by
  rw [ofLog_eq, ofLog_eq, logEntries_closeLog]

/-- Bytes that hold no line end are one line. -/
theorem logEntries_line {bytes : List UInt8} {line : List Char} (h : decodeUtf8 bytes = line)
    (hn : '\n' ∉ line) : logEntries bytes = (entryOfLine? line).toList := by
  rw [logEntries, h, lines, filterMap_closeLines, splitAll_line hn]
  cases he : entryOfLine? line <;> simp [he]

theorem entryOfLine_of_trim {line : List Char} (h : trim line ≠ []) :
    entryOfLine? line = some (ProgressRecord.read? (trim line)) := by
  unfold entryOfLine?
  split
  · next ht => exact absurd ht h
  · rfl

/-- The whole text of a record is an entry of its own. -/
theorem logEntries_whole {r : ProgressRecord} (h : r.timestamp.Valid) :
    logEntries (encodeUtf8 r.line) = [some r] := by
  obtain ⟨s, hs⟩ := line_ends r
  have hne : trim r.line ≠ [] := by
    rw [trim_line, hs]
    exact List.cons_ne_nil _ _
  rw [logEntries_line (decodeUtf8_encodeUtf8 _) (newline_not_mem_line r), entryOfLine_of_trim hne,
    trim_line, read_line h]
  rfl

/-- The bytes of a torn line read as a beginning of the line, or as one with a fault at its end. -/
theorem decodeUtf8_torn {r : ProgressRecord} {k : Nat} (h0 : 0 < k)
    (hk : k < (encodeUtf8 r.line).length) :
    ∃ s t, r.line = '{' :: s ++ t ∧ t ≠ [] ∧
      (decodeUtf8 ((encodeUtf8 r.line).take k) = '{' :: s ∨
        decodeUtf8 ((encodeUtf8 r.line).take k) = '{' :: (s ++ [replacement])) := by
  obtain ⟨body, hbody⟩ := line_ends r
  have hbrace : encodeChar '{' = [0x7B] := rfl
  rw [hbody, encodeUtf8_cons, hbrace, List.singleton_append] at hk ⊢
  obtain ⟨k, rfl⟩ := Nat.exists_eq_succ_of_ne_zero (by omega : k ≠ 0)
  obtain ⟨j, hj, hread⟩ := decodeUtf8_take_encodeUtf8 (body ++ ['}']) (by simpa using hk)
  have hstep : ∀ rest, decodeUtf8 (0x7B :: rest) = '{' :: decodeUtf8 rest :=
    fun rest => decodeUtf8_char rfl
  refine ⟨(body ++ ['}']).take j, (body ++ ['}']).drop j, ?_, ?_, ?_⟩
  · rw [List.cons_append, List.take_append_drop]
  · simpa using hj
  · rw [List.take_succ_cons, hstep]
    rcases hread with hread | hread
    · exact Or.inl (by rw [hread])
    · exact Or.inr (by rw [hread])

/-- A part of a record's text that is neither empty nor the whole is one unreadable line. -/
theorem logEntries_torn {r : ProgressRecord} {k : Nat} (h0 : 0 < k)
    (hk : k < (encodeUtf8 r.line).length) :
    logEntries ((encodeUtf8 r.line).take k) = [none] := by
  obtain ⟨s, t, hline, ht, hread⟩ := decodeUtf8_torn h0 hk
  have hn : '\n' ∉ '{' :: s := by
    intro h
    exact newline_not_mem_line r (hline ▸ List.mem_append_left t h)
  rcases hread with hread | hread
  · have hne : trim ('{' :: s) ≠ [] := by simp [trim_cons (c := '{') (by decide)]
    rw [logEntries_line hread hn, entryOfLine_of_trim hne, read_beginning hline ht]
    rfl
  · have hne : trim ('{' :: (s ++ [replacement])) ≠ [] := by
      simp [trim_cons (c := '{') (by decide)]
    have hn' : '\n' ∉ '{' :: (s ++ [replacement]) := by
      rw [← List.cons_append, List.mem_append]
      rintro (h | h)
      · exact hn h
      · exact absurd h (by decide)
    rw [logEntries_line hread hn', entryOfLine_of_trim hne, read_beginning_fault]
    rfl

end Archiver
