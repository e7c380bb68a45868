import Archiver.Proofs.Progress.CrashSafety
import Archiver.Proofs.Progress.Latest

namespace Archiver

/-- The records of a log that can be read, in order. -/
def logRecords (bytes : List UInt8) : List ProgressRecord := (logEntries bytes).reduceOption

@[simp] theorem logRecords_nil : logRecords [] = [] := rfl

@[simp] theorem logRecords_closeLog (bytes : List UInt8) :
    logRecords (closeLog bytes) = logRecords bytes := by
  rw [logRecords, logEntries_closeLog, logRecords]

/-- What a replayed log tells is what its readable records tell. -/
theorem ofLog_tells (bytes : List UInt8) : (Snapshot.ofLog bytes).Tells (logRecords bytes) := by
  rw [ofLog_eq, Snapshot.ofEntries]
  exact tells_foldl _ _

theorem isTorn_concat (bytes : List UInt8) (b : UInt8) : isTorn (bytes ++ [b]) = (b != 0x0A) := by
  simp [isTorn]

theorem isTorn_closeLog (bytes : List UInt8) : isTorn (closeLog bytes) = false := by
  unfold closeLog
  split
  · rw [isTorn_concat]
    rfl
  · next h => simpa using h

theorem closeLog_of_closed {bytes : List UInt8} (h : isTorn bytes = false) :
    closeLog bytes = bytes := by
  rw [closeLog, h]
  rfl

/-- What comes after the end of a line is read apart from what stands before it. -/
theorem logEntries_append {p : List UInt8} (h : isTorn p = false) (q : List UInt8) :
    logEntries (p ++ q) = logEntries p ++ logEntries q := by
  rcases List.eq_nil_or_concat p with rfl | ⟨front, last, rfl⟩
  · rfl
  · rw [List.concat_eq_append, isTorn_concat] at h
    obtain rfl : last = 0x0A := by simpa using h
    have hfront : logEntries (front ++ [0x0A]) = logEntries front := by
      rw [logEntries_append_newline, logEntries_nil, List.append_nil]
    rw [List.concat_eq_append, hfront, List.append_assoc, List.singleton_append,
      logEntries_append_newline]

variable {r : ProgressRecord}

theorem lineBytes_eq (r : ProgressRecord) : r.lineBytes = encodeUtf8 r.line ++ [0x0A] := by
  rw [ProgressRecord.lineBytes, encodeUtf8_append]
  rfl

theorem isTorn_append_lineBytes (bytes : List UInt8) (r : ProgressRecord) :
    isTorn (bytes ++ r.lineBytes) = false := by
  rw [lineBytes_eq, ← List.append_assoc, isTorn_concat]
  rfl

theorem isTorn_append_lines {bytes : List UInt8} (hb : isTorn bytes = false)
    (records : List ProgressRecord) :
    isTorn (bytes ++ records.flatMap ProgressRecord.lineBytes) = false := by
  induction records generalizing bytes with
  | nil => simpa using hb
  | cons r records ih =>
    rw [List.flatMap_cons, ← List.append_assoc]
    exact ih (isTorn_append_lineBytes bytes r)

theorem logEntries_lineBytes (h : r.timestamp.Valid) : logEntries r.lineBytes = [some r] := by
  rw [lineBytes_eq, logEntries_append_newline, logEntries_whole h, logEntries_nil, List.append_nil]

/-- A log that goes on with the lines of records has them as its last entries. -/
theorem logEntries_append_lines {bytes : List UInt8} (hb : isTorn bytes = false)
    {records : List ProgressRecord} (hv : ∀ r ∈ records, r.timestamp.Valid) :
    logEntries (bytes ++ records.flatMap ProgressRecord.lineBytes) =
      logEntries bytes ++ records.map some := by
  induction records generalizing bytes with
  | nil => simp
  | cons r records ih =>
    rw [List.flatMap_cons, ← List.append_assoc, ih (isTorn_append_lineBytes _ _)
      fun x hx => hv x (List.mem_cons_of_mem _ hx), logEntries_append hb,
      logEntries_lineBytes (hv r List.mem_cons_self), List.map_cons, List.append_assoc,
      List.singleton_append]

theorem logRecords_append_lines {bytes : List UInt8} (hb : isTorn bytes = false)
    {records : List ProgressRecord} (hv : ∀ r ∈ records, r.timestamp.Valid) :
    logRecords (bytes ++ records.flatMap ProgressRecord.lineBytes) = logRecords bytes ++ records := by
  have hall : (records.map some).reduceOption = records := by simp [List.reduceOption]
  rw [logRecords, logEntries_append_lines hb hv, List.reduceOption_append, hall, logRecords]

theorem ofLog_append_lines {bytes : List UInt8} (hb : isTorn bytes = false)
    {records : List ProgressRecord} (hv : ∀ r ∈ records, r.timestamp.Valid) :
    Snapshot.ofLog (bytes ++ records.flatMap ProgressRecord.lineBytes) =
      records.foldl Snapshot.remember (.ofLog bytes) := by
  rw [ofLog_eq, logEntries_append_lines hb hv, ofEntries_append, ofLog_eq]

/-- The view of a store is that of its log, which ends with a line; what is held back counts as
pending. -/
structure ProgressStore.Mirrors (s : ProgressStore) (records : List ProgressRecord) : Prop where
  closed : isTorn s.log.written = false
  records : logRecords s.log.written = records
  view : s.snapshot = .ofLog s.log.written
  flushed : s.pending = 0 → s.log.held = []

variable {s : ProgressStore} {records : List ProgressRecord}

theorem mirrors_open (log capture : List UInt8) :
    (ProgressStore.open log capture).Mirrors (logRecords log) := by
  have hwritten : (ProgressStore.open log capture).log.written = closeLog log := List.append_nil _
  refine ⟨?_, ?_, ?_, fun _ => rfl⟩
  · rw [hwritten, isTorn_closeLog]
  · rw [hwritten, logRecords_closeLog]
  · rw [hwritten, ofLog_closeLog]
    rfl

theorem ProgressStore.Mirrors.record (h : s.Mirrors records) (hr : r.timestamp.Valid)
    (method : Option String) : (s.record r method).Mirrors (records ++ [r]) := by
  have hv : ∀ x ∈ [r], x.timestamp.Valid := List.forall_mem_singleton.mpr hr
  have hwritten : (s.record r method).log.written =
      s.log.written ++ [r].flatMap ProgressRecord.lineBytes := by
    rw [record_written, List.flatMap_singleton]
  refine ⟨?_, ?_, ?_, fun hp => absurd hp (Nat.succ_ne_zero _)⟩
  · rw [record_written, isTorn_append_lineBytes]
  · rw [hwritten, logRecords_append_lines h.closed hv, h.records]
  · rw [hwritten, ofLog_append_lines h.closed hv, record_snapshot, h.view]
    rfl

theorem ProgressStore.Mirrors.checkpoint (h : s.Mirrors records) : s.checkpoint.Mirrors records where
  closed := (checkpoint_written s).symm ▸ h.closed
  records := (checkpoint_written s).symm ▸ h.records
  view := by rw [checkpoint_written, checkpoint_snapshot, h.view]
  flushed := fun _ => rfl

theorem ProgressStore.Mirrors.checkpointIfDue (h : s.Mirrors records) (interval : Nat) :
    (s.checkpointIfDue interval).Mirrors records := by
  rw [ProgressStore.checkpointIfDue]
  split
  · exact h.checkpoint
  · exact h

/-- What a store leaves on disk when it is closed is all that was written. -/
theorem ProgressStore.Mirrors.close_disk (h : s.Mirrors records) :
    s.close.log.disk = s.log.written :=
  @Archiver.close_disk ⟨s, []⟩ h.flushed

theorem ProgressStore.Mirrors.reopen_log (h : s.Mirrors records) :
    s.reopen.log = ⟨s.log.written, []⟩ := by
  rw [ProgressStore.reopen, ProgressStore.open, h.close_disk, closeLog_of_closed h.closed]

theorem ProgressStore.Mirrors.reopen (h : s.Mirrors records) : s.reopen.Mirrors records := by
  have hopen := mirrors_open s.close.log.disk s.close.capture.disk
  have hrecords : logRecords s.close.log.disk = records := by rw [h.close_disk, h.records]
  exact hrecords ▸ hopen

/-- Any event but a crash keeps the view that of the log. -/
theorem ProgressStore.Mirrors.event (h : s.Mirrors records) {e : StoreEvent} (hv : e.Valid)
    (hc : e.isCrash = false) : (e.apply s).Mirrors (records ++ e.appended) := by
  cases e with
  | record r method => exact h.record (hv r (List.mem_singleton_self r)) method
  | checkpoint => exact (List.append_nil records).symm ▸ h.checkpoint
  | checkpointIfDue interval => exact (List.append_nil records).symm ▸ h.checkpointIfDue interval
  | reopen => exact (List.append_nil records).symm ▸ h.reopen
  | crash => cases hc

theorem ProgressStore.Mirrors.events (h : s.Mirrors records) {events : List StoreEvent}
    (hv : ∀ e ∈ events, e.Valid) (hc : ∀ e ∈ events, e.isCrash = false) :
    (events.foldl StoreEvent.apply s).Mirrors (records ++ events.flatMap StoreEvent.appended) := by
  induction events generalizing s records with
  | nil => simpa using h
  | cons e events ih =>
    have hnext := h.event (hv e List.mem_cons_self) (hc e List.mem_cons_self)
    rw [List.flatMap_cons, ← List.append_assoc]
    exact ih hnext (fun x hx => hv x (List.mem_cons_of_mem _ hx))
      fun x hx => hc x (List.mem_cons_of_mem _ hx)

theorem readSnapshot_of_find {f : Files} {path : Path} {bytes : List UInt8}
    (h : f.find? path = some (.file bytes)) : f.readSnapshot path = .ok (.ofLog bytes) := by
  rw [Files.readSnapshot, h]

/-- Logs whose readable records are the same but for their order tell the same latest records, if no
two records of a URL have one time. -/
theorem latest_perm {p q : List UInt8} (hp : (logRecords p).Perm (logRecords q))
    (hd : (logRecords p).Pairwise fun a b => a.url = b.url → a.timestamp ≠ b.timestamp)
    (url : CanonicalUrl) : (Snapshot.ofLog p).latest? url = (Snapshot.ofLog q).latest? url := by
  refine Option.ext fun r => ?_
  rw [(ofLog_tells p).latest, (ofLog_tells q).latest, isLatest_perm hp hd]

/-- Whatever log a store is opened over, and however often records are appended, brought to disk and
the store is opened again: its view is the one that replaying the whole text of the log gives, it
tells the latest of the log's own records and those appended, and which record that is does not
depend on the order of records with distinct times. -/
theorem view_of_events {events : List StoreEvent} (hv : ∀ e ∈ events, e.Valid)
    (hc : ∀ e ∈ events, e.isCrash = false) (log capture : List UInt8) :
    let s := events.foldl StoreEvent.apply (.open log capture)
    let records := logRecords log ++ events.flatMap StoreEvent.appended
    logRecords s.log.written = records ∧
      (∀ (f : Files) (path : Path), f.find? path = some (.file s.log.written) →
        f.readSnapshot path = .ok s.snapshot) ∧
      s.snapshot.Tells records ∧
      ∀ p q : List UInt8, (logRecords p).Perm (logRecords q) →
        ((logRecords p).Pairwise fun a b => a.url = b.url → a.timestamp ≠ b.timestamp) →
        ∀ url, (Snapshot.ofLog p).latest? url = (Snapshot.ofLog q).latest? url := by
  intro s records
  have hmirrors : s.Mirrors records := (mirrors_open log capture).events hv hc
  refine ⟨hmirrors.records, ?_, ?_, fun p q hp hd url => latest_perm hp hd url⟩
  · intro f path hfile
    rw [hmirrors.view]
    exact readSnapshot_of_find hfile
  · rw [hmirrors.view, ← hmirrors.records]
    exact ofLog_tells _

theorem valid_record {r : ProgressRecord} (hr : r.timestamp.Valid) (method : Option String) :
    (StoreEvent.record r method).Valid := by
  intro q hq
  cases List.mem_singleton.mp hq
  exact hr

/-- Over a torn log a newer record is appended, the store is opened again, and an older record of the
same URL and one of another URL follow. -/
theorem view_of_events_late :
    let newer : ProgressRecord := ⟨⟨"https://a.test/é"⟩, .failure, ⟨1714557600, 0⟩, 3, some "timeout"⟩
    let older : ProgressRecord := ⟨⟨"https://a.test/é"⟩, .success, ⟨1714557599, 7⟩, 0, none⟩
    let other : ProgressRecord := ⟨⟨"https://a.test/2"⟩, .skipped, ⟨1714557600, 0⟩, 0, some "HTTP 404"⟩
    let log : List UInt8 := [0x7B, 0xFF, 0xC3]
    let s := [StoreEvent.record newer none, .reopen, .record older (some "primary"), .checkpoint,
      .record other none].foldl StoreEvent.apply (.open log [])
    logRecords s.log.written = [newer, older, other] ∧ s.snapshot.Tells [newer, older, other] ∧
      ∀ url, (Snapshot.ofLog (other.lineBytes ++ older.lineBytes ++ newer.lineBytes)).latest? url =
        (Snapshot.ofLog s.log.written).latest? url := by
  intro newer older other log s
  have hnewer : newer.timestamp.Valid := by decide
  have holder : older.timestamp.Valid := by decide
  have hother : other.timestamp.Valid := by decide
  have hreopen : StoreEvent.reopen.Valid := fun q hq => absurd hq List.not_mem_nil
  have hflush : StoreEvent.checkpoint.Valid := fun q hq => absurd hq List.not_mem_nil
  have hvalid : ∀ e ∈ [StoreEvent.record newer none, .reopen, .record older (some "primary"),
      .checkpoint, .record other none], e.Valid := by
    simp only [List.forall_mem_cons]
    exact ⟨valid_record hnewer _, hreopen, valid_record holder _, hflush, valid_record hother _,
      by simp⟩
  have hlog : logRecords log = [] := by decide +kernel
  obtain ⟨hrecords, -, htells, hperm⟩ :=
    view_of_events hvalid (by simp [StoreEvent.isCrash]) log []
  rw [hlog] at hrecords htells
  have hall : ∀ r ∈ [other, older, newer], r.timestamp.Valid := by
    simp only [List.forall_mem_cons]
    exact ⟨hother, holder, hnewer, by simp⟩
  have hempty : isTorn [] = false := rfl
  have hswapped : logRecords (other.lineBytes ++ older.lineBytes ++ newer.lineBytes) =
      [other, older, newer] := by
    simpa using logRecords_append_lines hempty hall
  refine ⟨hrecords, htells, fun url => hperm _ _ ?_ ?_ url⟩
  · rw [hswapped]
    exact hrecords ▸ List.reverse_perm [newer, older, other]
  · rw [hswapped]
    decide

end Archiver
