import Archiver.Proofs.Progress.LiveView
import Archiver.Proofs.Progress.Saved
import Archiver.Proofs.Progress.Table
import Archiver.Proofs.Time.TimestampText

namespace Archiver

/-- The records that an event appends, each with the method that is written beside it. -/
def StoreEvent.entries : StoreEvent → List (ProgressRecord × Option String)
  | .record r method => [(r, method)]
  | _ => []

/-- The rows of a table of captures. -/
def captureRows (entries : List (ProgressRecord × Option String)) : List (List (List UInt8)) :=
  entries.map fun e => e.1.fields e.2

/-- A store has appended entries to a log and to a table of captures. -/
structure ProgressStore.Appended (s : ProgressStore) (log capture : List UInt8)
    (entries : List (ProgressRecord × Option String)) : Prop where
  log : s.log.written = log ++ entries.flatMap fun e => e.1.lineBytes
  capture : s.capture.written = capture ++ tableBytes (captureRows entries)
  flushed : s.pending = 0 → s.log.held = [] ∧ s.capture.held = []

variable {s : ProgressStore} {log capture : List UInt8}
  {entries : List (ProgressRecord × Option String)} {events : List StoreEvent}

section Appended

theorem openCapture_of_ne_nil (h : capture ≠ []) : openCapture capture = ⟨capture, []⟩ := by
  unfold openCapture
  rw [if_neg (by simpa using h)]

/-- A new table of captures holds its header. -/
theorem written_openCapture_nil : (openCapture []).written = tableBytes [captureHeader] := by
  rw [openCapture, if_pos List.isEmpty_nil, written_flush, written_appendAll, tableBytes,
    List.flatMap_singleton]
  rfl

theorem openCapture_ne_nil (capture : List UInt8) : (openCapture capture).written ≠ [] := by
  by_cases h : capture = []
  · subst h
    rw [written_openCapture_nil]
    decide
  · rw [openCapture_of_ne_nil h]
    simpa [Appender.written] using h

theorem appended_open (log capture : List UInt8) :
    (ProgressStore.open log capture).Appended (closeLog log) (openCapture capture).written [] := by
  refine ⟨rfl, (List.append_nil _).symm, fun _ => ⟨rfl, held_openCapture capture⟩⟩

theorem ProgressStore.Appended.record (h : s.Appended log capture entries) (r : ProgressRecord)
    (method : Option String) :
    (s.record r method).Appended log capture (entries ++ [(r, method)]) := by
  refine ⟨?_, ?_, fun hp => absurd hp (Nat.succ_ne_zero _)⟩
  · rw [record_written, h.log, List.flatMap_append, List.flatMap_singleton, List.append_assoc]
  · rw [record_capture, written_appendAll, h.capture, captureRows, captureRows, List.map_append,
      tableBytes_append, List.map_singleton, List.append_assoc]
    rw [tableBytes, tableBytes, List.flatMap_singleton]

theorem ProgressStore.Appended.checkpoint (h : s.Appended log capture entries) :
    s.checkpoint.Appended log capture entries where
  log := (checkpoint_written s).trans h.log
  capture := (written_flush s.capture).trans h.capture
  flushed := fun _ => ⟨rfl, rfl⟩

theorem ProgressStore.Appended.checkpointIfDue (h : s.Appended log capture entries)
    (interval : Nat) : (s.checkpointIfDue interval).Appended log capture entries := by
  rw [ProgressStore.checkpointIfDue]
  split
  · exact h.checkpoint
  · exact h

/-- What a store leaves on disk when it is closed is all that it has appended. -/
theorem ProgressStore.Appended.close (h : s.Appended log capture entries) :
    s.close.log.disk = log ++ entries.flatMap (fun e => e.1.lineBytes) ∧
      s.close.capture.disk = capture ++ tableBytes (captureRows entries) := by
  rw [← h.log, ← h.capture]
  unfold ProgressStore.close
  split
  · exact ⟨rfl, rfl⟩
  · next hp =>
    obtain ⟨hlog, hcapture⟩ := h.flushed (by omega)
    simp [Appender.written, hlog, hcapture]

theorem ProgressStore.Appended.reopen (h : s.Appended log capture entries)
    (hlog : isTorn log = false) (hcapture : capture ≠ []) :
    s.reopen.Appended log capture entries := by
  obtain ⟨hl, hc⟩ := h.close
  have hclosed : isTorn (log ++ entries.flatMap fun e => e.1.lineBytes) = false := by
    have hlines := isTorn_append_lines hlog (entries.map (·.1))
    rwa [List.flatMap_map] at hlines
  refine ⟨?_, ?_, fun _ => ⟨rfl, held_openCapture _⟩⟩
  · rw [ProgressStore.reopen, ProgressStore.open, hl, closeLog_of_closed hclosed]
    exact List.append_nil _
  · rw [ProgressStore.reopen, ProgressStore.open, hc,
      openCapture_of_ne_nil (List.append_ne_nil_of_left_ne_nil hcapture _)]
    exact List.append_nil _

/-- Any event but a crash adds its records to both files. -/
theorem ProgressStore.Appended.event (h : s.Appended log capture entries)
    (hlog : isTorn log = false) (hcapture : capture ≠ []) {e : StoreEvent}
    (hc : e.isCrash = false) : (e.apply s).Appended log capture (entries ++ e.entries) := by
  cases e with
  | record r method => exact h.record r method
  | checkpoint => exact (List.append_nil entries).symm ▸ h.checkpoint
  | checkpointIfDue interval => exact (List.append_nil entries).symm ▸ h.checkpointIfDue interval
  | reopen => exact (List.append_nil entries).symm ▸ h.reopen hlog hcapture
  | crash => cases hc

theorem ProgressStore.Appended.run (h : s.Appended log capture entries)
    (hlog : isTorn log = false) (hcapture : capture ≠ []) (hc : ∀ e ∈ events, e.isCrash = false) :
    (events.foldl StoreEvent.apply s).Appended log capture
      (entries ++ events.flatMap StoreEvent.entries) := by
  induction events generalizing s entries with
  | nil => simpa using h
  | cons e events ih =>
    rw [List.flatMap_cons, ← List.append_assoc]
    exact ih (h.event hlog hcapture (hc e List.mem_cons_self))
      fun x hx => hc x (List.mem_cons_of_mem _ hx)

/-- Whatever files a store is opened over, until a crash they go on with what it has appended. -/
theorem appended_of_events (hc : ∀ e ∈ events, e.isCrash = false) (log capture : List UInt8) :
    (events.foldl StoreEvent.apply (.open log capture)).Appended (closeLog log)
      (openCapture capture).written (events.flatMap StoreEvent.entries) :=
  (appended_open log capture).run (isTorn_closeLog log) (openCapture_ne_nil capture) hc

end Appended

/-- Reads a table whose cells are text. -/
def readTexts (bytes : List UInt8) : Option (List (List (List Char))) :=
  (readTable bytes).bind fun rows => rows.mapM fun row => row.mapM decodeUtf8?

def captureNames : List (List Char) :=
  ["url", "outcome", "timestamp", "retries", "method", "error"].map (·.toList)

/-- What the table of captures says of a record: a missing method or error is empty. -/
def captureTexts (r : ProgressRecord) (method : Option String) : List (List Char) :=
  [r.url.text.toList, r.outcome.name, r.timestamp.offsetText, r.retries.toNat.repr.toList,
    (method.getD "").toList, (r.error.getD "").toList]

theorem mapM_map {α β : Type} {f : α → β} {g : β → Option α} (h : ∀ a, g (f a) = some a)
    (l : List α) : (l.map f).mapM g = some l := by
  induction l with
  | nil => rfl
  | cons a l ih =>
    rw [List.map_cons, List.mapM_cons, h, ih]
    rfl

theorem readTexts_written {rows : List (List (List Char))} (h : ∀ row ∈ rows, row ≠ []) :
    readTexts (tableBytes (rows.map (·.map encodeUtf8))) = some rows := by
  have hrows : ∀ row ∈ rows.map (·.map encodeUtf8), row ≠ [] := by simpa using h
  rw [readTexts, readTable_eq_some_iff.mpr (tableText_written hrows), Option.bind_some]
  exact mapM_map (mapM_map decodeUtf8?_encodeUtf8) rows

/-- However often records are appended, brought to disk and the store is opened again, from no table
of captures on: on disk the table has its header once, as its first row, and then a row for each
line that was appended to the log, in their order. -/
theorem captures_mirror_log (hc : ∀ e ∈ events, e.isCrash = false) (log : List UInt8) :
    let s := (events.foldl StoreEvent.apply (.open log [])).close
    let entries := events.flatMap StoreEvent.entries
    let rows := entries.map fun e => captureTexts e.1 e.2
    s.log.disk = closeLog log ++ entries.flatMap (fun e => e.1.lineBytes) ∧
      readTexts s.capture.disk = some (captureNames :: rows) ∧ captureNames ∉ rows ∧
      ∀ e ∈ entries, e.1.timestamp.Valid →
        Timestamp.read? e.1.timestamp.offsetText = some e.1.timestamp := by
  intro s entries rows
  obtain ⟨hlog, hcapture⟩ := (appended_of_events hc log []).close
  refine ⟨hlog, ?_, ?_, fun e _ hv => read_offsetText hv⟩
  · have hbytes : s.capture.disk = tableBytes ((captureNames :: rows).map (·.map encodeUtf8)) := by
      rw [hcapture, written_openCapture_nil, ← tableBytes_append, List.map_cons, List.map_map]
      rfl
    rw [hbytes]
    apply readTexts_written
    rw [List.forall_mem_cons, List.forall_mem_map]
    exact ⟨List.cons_ne_nil _ _, fun _ _ => List.cons_ne_nil _ _⟩
  · intro h
    obtain ⟨e, -, he⟩ := List.mem_map.mp h
    have hname := List.cons.inj (List.cons.inj he).2
    cases houtcome : e.1.outcome <;> rw [houtcome] at hname <;> exact absurd hname.1 (by decide)

/-- A URL with a comma, an error with quotes and a line break, and a store that is opened twice. -/
theorem captures_mirror_log_quoted :
    let first : ProgressRecord :=
      ⟨⟨"https://a.test/1,2"⟩, .failure, ⟨1714557600, 0⟩, 3, some "a \"b\",\nc"⟩
    let second : ProgressRecord := ⟨⟨"https://a.test/3"⟩, .success, ⟨1714557600, 5000000⟩, 0, none⟩
    let s := ([StoreEvent.record first none, .checkpoint, .reopen,
      .record second (some "primary")].foldl StoreEvent.apply (.open [0x7B] [])).close
    s.log.disk = [0x7B, 0x0A] ++ first.lineBytes ++ second.lineBytes ∧
      readTexts s.capture.disk =
        some [captureNames, captureTexts first none, captureTexts second (some "primary")] ∧
      Timestamp.read? first.timestamp.offsetText = some first.timestamp := by
  intro first second s
  have hc : ∀ e ∈ [StoreEvent.record first none, .checkpoint, .reopen,
      .record second (some "primary")], e.isCrash = false := by simp [StoreEvent.isCrash]
  obtain ⟨hlog, hcapture, -, htime⟩ := captures_mirror_log hc [0x7B]
  have hvalid : first.timestamp.Valid := by decide
  refine ⟨?_, hcapture, htime (first, none) List.mem_cons_self hvalid⟩
  have hclosed : closeLog [0x7B] = [0x7B, 0x0A] := rfl
  rw [hlog, hclosed, List.append_assoc]
  simp [StoreEvent.entries]

end Archiver
