import Archiver.Proofs.Progress.CaptureTable
import Archiver.Proofs.Progress.TableEnds

namespace Archiver

/-- Each of the rows that follow a text begins a line of the file. -/
def RowsBeginLines (base : List UInt8) (rows : List (List (List UInt8))) : Prop :=
  ∀ front row back, rows = front ++ row :: back → isTorn (base ++ tableBytes front) = false

variable {rows : List (List (List UInt8))} {events : List StoreEvent}
  {entries : List (ProgressRecord × Option String)}

section Lines

theorem isTorn_append_row (base : List UInt8) (rows : List (List (List UInt8)))
    (row : List (List UInt8)) : isTorn (base ++ tableBytes (rows ++ [row])) = false := by
  rw [tableBytes_append, tableBytes, tableBytes, List.flatMap_singleton, rowPieces,
    List.flatten_append, List.flatten_singleton, ← List.append_assoc, ← List.append_assoc,
    isTorn_concat]
  rfl

theorem isTorn_openCapture (left : List UInt8) :
    isTorn (openCapture left).written = isTorn left := by
  by_cases h : left = []
  · subst h
    rw [written_openCapture_nil]
    exact isTorn_append_row [] [] captureHeader
  · rw [openCapture_of_ne_nil h]
    exact congrArg isTorn (List.append_nil left)

/-- Rows begin lines unless what stands before the first of them does not end with a line. -/
theorem rowsBeginLines_iff {base : List UInt8} :
    RowsBeginLines base rows ↔ rows = [] ∨ isTorn base = false := by
  constructor
  · intro h
    cases rows with
    | nil => exact Or.inl rfl
    | cons row rows =>
      have hfirst := h [] row rows rfl
      rw [tableBytes, List.flatMap_nil, List.append_nil] at hfirst
      exact Or.inr hfirst
  · rintro (rfl | hbase) front row back hsplit
    · exact absurd hsplit (by simp)
    · rcases List.eq_nil_or_concat front with rfl | ⟨front, last, rfl⟩
      · rwa [tableBytes, List.flatMap_nil, List.append_nil]
      · rw [List.concat_eq_append]
        exact isTorn_append_row base front last

end Lines

theorem captureRows_ne_nil : ∀ row ∈ captureRows entries, row ≠ [] := by
  rw [captureRows, List.forall_mem_map]
  exact fun _ _ => List.cons_ne_nil _ _

theorem captureRows_head (h : ∀ e ∈ entries, e.1.url.text ≠ "") :
    ∀ row ∈ captureRows entries, row.head? ≠ some [] := by
  rw [captureRows, List.forall_mem_map]
  intro e he hnone
  have hurl : encodeUtf8 e.1.url.text.toList = [] := Option.some.inj hnone
  have hread := decodeUtf8?_encodeUtf8 e.1.url.text.toList
  rw [hurl] at hread
  exact h e he (String.toList_eq_nil_iff.mp (Option.some.inj hread).symm)

/-- Whatever a crash has left of a table of captures, the records appended after it follow it at
once: their rows begin lines just if it ends with a line, and they are read as rows just if it is
read as whole rows. -/
theorem captures_after_crash (hc : ∀ e ∈ events, e.isCrash = false) (log left : List UInt8) :
    let t := (events.foldl StoreEvent.apply (.open log left)).close
    let base := (openCapture left).written
    let entries := events.flatMap StoreEvent.entries
    let rows := captureRows entries
    t.capture.disk = base ++ tableBytes rows ∧
      (RowsBeginLines base rows ↔ entries = [] ∨ isTorn left = false) ∧
      ((∀ e ∈ entries, e.1.url.text ≠ "") → ∀ whole,
        readTable t.capture.disk = some (whole ++ rows) ↔ readTable base = some whole) := by
  intro t base entries rows
  have hdisk : t.capture.disk = base ++ tableBytes rows := (appended_of_events hc log left).close.2
  refine ⟨hdisk, ?_, fun hurl whole => ?_⟩
  · have hnone : rows = [] ↔ entries = [] := List.map_eq_nil_iff
    rw [rowsBeginLines_iff, isTorn_openCapture, hnone]
  · rw [hdisk]
    exact read_append_iff captureRows_ne_nil (captureRows_head hurl)

/-- The store has written one row, of which a crash leaves a part; the next row goes on in its
line. -/
theorem captures_glued :
    let first : ProgressRecord :=
      ⟨⟨"https://example.com/archives/1"⟩, .success, ⟨1714557600, 0⟩, 0, none⟩
    let second : ProgressRecord :=
      ⟨⟨"https://example.com/archives/2"⟩, .success, ⟨1714557600, 0⟩, 0, none⟩
    let file := (StoreEvent.apply (.open [] []) (.record first none)).capture.written
    let left := file.take 78
    let t := (StoreEvent.apply (.open [] left) (.record second (some "html-to-markdown"))).close
    ¬ RowsBeginLines left [second.fields (some "html-to-markdown")] ∧
      readTexts t.capture.disk = some [captureNames, ["https://example.com/archives/1".toList,
        "succhttps://example.com/archives/2".toList, "success".toList,
        "2024-05-01T10:00:00+00:00".toList, "0".toList, "html-to-markdown".toList, []]] := by
  intro first second file left t
  refine ⟨fun h => ?_, by decide +kernel⟩
  have htorn : isTorn left = true := by decide +kernel
  have hfirst := h [] _ [] rfl
  rw [tableBytes, List.flatMap_nil, List.append_nil, htorn] at hfirst
  cases hfirst

/-- A store that is opened over the text of a header and a torn row. -/
theorem captures_after_crash_torn :
    let second : ProgressRecord :=
      ⟨⟨"https://a.test/2"⟩, .failure, ⟨1714557660, 0⟩, 3, some "timeout"⟩
    let left := tableBytes [captureHeader] ++ encodeUtf8 "https://a.test/1,succ".toList
    let t := ([StoreEvent.record second none].foldl StoreEvent.apply (.open [] left)).close
    t.capture.disk = left ++ tableBytes [second.fields none] ∧ isTorn left = true ∧
      ¬ RowsBeginLines left [second.fields none] ∧
      ∀ whole, readTable t.capture.disk ≠ some (whole ++ [second.fields none]) := by
  intro second left t
  have hc : ∀ e ∈ [StoreEvent.record second none], e.isCrash = false := by simp [StoreEvent.isCrash]
  have hleft : (openCapture left).written = left := by decide +kernel
  have htorn : isTorn left = true := by decide +kernel
  have hnone : readTable left = none := by decide +kernel
  obtain ⟨hdisk, hlines, hread⟩ := captures_after_crash hc [] left
  rw [hleft] at hdisk hlines hread
  refine ⟨hdisk, htorn, fun h => ?_, fun whole h => ?_⟩
  · rcases hlines.mp h with hno | hno
    · cases hno
    · rw [htorn] at hno
      cases hno
  · have hurl : ∀ e ∈ [StoreEvent.record second none].flatMap StoreEvent.entries,
        e.1.url.text ≠ "" := by simp [StoreEvent.entries, second]
    have hwhole := (hread hurl whole).mp h
    rw [hnone] at hwhole
    cases hwhole

end Archiver
