import Archiver.Proofs.Progress.LogLines
import Archiver.Proofs.Progress.StoreLaws

namespace Archiver

/-- What can happen to a store. A crash leaves some beginning of the log text on disk, and anything
in the table of captures; the store is opened again over what is left. -/
inductive StoreEvent where
  | record (r : ProgressRecord) (method : Option String)
  | checkpoint
  | checkpointIfDue (interval : Nat)
  | reopen
  | crash (kept : Nat) (capture : List UInt8)

def StoreEvent.apply (s : ProgressStore) : StoreEvent → ProgressStore
  | .record r method => s.record r method
  | .checkpoint => s.checkpoint
  | .checkpointIfDue interval => s.checkpointIfDue interval
  | .reopen => s.reopen
  | .crash kept capture => .open (s.log.written.take kept) capture

def StoreEvent.isCrash : StoreEvent → Bool
  | .crash .. => true
  | _ => false

/-- The records that an event appends. -/
def StoreEvent.appended : StoreEvent → List ProgressRecord
  | .record r _ => [r]
  | _ => []

/-- A recorded moment lies in the calendar's range. -/
def StoreEvent.Valid (e : StoreEvent) : Prop := ∀ r ∈ e.appended, r.timestamp.Valid

/-- A store, with the records whose whole text the log has kept and where each text ends. -/
structure StoreHistory where
  store : ProgressStore
  ledger : List LedgerEntry

def StoreHistory.start : StoreHistory := ⟨.open [] [], []⟩

def StoreHistory.next (h : StoreHistory) (e : StoreEvent) : StoreHistory :=
  ⟨e.apply h.store,
    match e with
    | .record r _ =>
      h.ledger ++ [⟨r, h.store.log.written.length + (encodeUtf8 r.line).length⟩]
    | .crash kept _ => h.ledger.filter (·.stop ≤ kept)
    | _ => h.ledger⟩

/-- The history of a store that began with empty files. -/
def StoreHistory.of (events : List StoreEvent) : StoreHistory :=
  events.foldl StoreHistory.next .start

/-- The log consists of the given lines, and ledger, snapshot and buffer agree with them. -/
structure StoreHistory.Holds (h : StoreHistory) (ls : List LogLine) : Prop where
  bytes : h.store.log.written = logBytes ls
  ledger : h.ledger = ledgerFrom 0 ls
  snapshot : h.store.snapshot = .ofEntries (ls.map LogLine.record?)
  flushed : h.store.pending = 0 → h.store.log.held = []

@[simp] theorem next_store (h : StoreHistory) (e : StoreEvent) :
    (h.next e).store = e.apply h.store := rfl

theorem apply_record (s : ProgressStore) (r : ProgressRecord) (method : Option String) :
    StoreEvent.apply s (.record r method) = s.record r method := rfl

theorem next_record_ledger (h : StoreHistory) (r : ProgressRecord) (method : Option String) :
    (h.next (.record r method)).ledger =
      h.ledger ++ [⟨r, h.store.log.written.length + (encodeUtf8 r.line).length⟩] := rfl

theorem ofEntries_concat (entries : List (Option ProgressRecord)) (r : ProgressRecord) :
    Snapshot.ofEntries (entries ++ [some r]) = (Snapshot.ofEntries entries).remember r := by
  simp [Snapshot.ofEntries, Snapshot.remember, List.reduceOption_append]

theorem ofEntries_discarded (ls : List LogLine) :
    (Snapshot.ofEntries (ls.map LogLine.record?)).discarded = tornLines ls := by
  rw [Snapshot.ofEntries, tornLines, List.count, List.countP_map]
  apply List.countP_congr
  intro l _
  cases hr : l.record? <;> simp [hr]

theorem ofEntries_records (ls : List LogLine) :
    (ls.map LogLine.record?).reduceOption = ls.filterMap LogLine.record? := by
  simp [List.reduceOption, List.filterMap_map]

theorem holds_start : StoreHistory.start.Holds [] where
  bytes := rfl
  ledger := rfl
  snapshot := rfl
  flushed := fun _ => rfl

theorem close_disk {h : StoreHistory} (hf : h.store.pending = 0 → h.store.log.held = []) :
    h.store.close.log.disk = h.store.log.written := by
  unfold ProgressStore.close
  split
  · rfl
  · next hp =>
    have hheld := hf (by omega)
    simp [Appender.written, hheld]

/-- A store opened over a log that closes to the given lines. -/
theorem holds_open {log capture : List UInt8} {ls : List LogLine} {ledger : List LedgerEntry}
    (hb : closeLog log = logBytes ls) (hl : ledger = ledgerFrom 0 ls) :
    (StoreHistory.mk (.open log capture) ledger).Holds ls where
  bytes := by
    rw [← hb]
    exact List.append_nil _
  ledger := hl
  snapshot := by
    have hlog : Snapshot.ofLog log = .ofEntries (ls.map LogLine.record?) := by
      rw [← ofLog_closeLog, hb, ofLog_eq, logEntries_logBytes]
    exact hlog
  flushed := fun _ => rfl

theorem holds_flush {h : StoreHistory} {ls : List LogLine} (hh : h.Holds ls) :
    (StoreHistory.mk h.store.checkpoint h.ledger).Holds ls where
  bytes := (written_flush h.store.log).trans hh.bytes
  ledger := hh.ledger
  snapshot := hh.snapshot
  flushed := fun _ => rfl

theorem logBytes_whole {r : ProgressRecord} (hr : r.timestamp.Valid) :
    logBytes [.whole r hr] = r.lineBytes := by
  rw [logBytes_cons, logBytes_nil, LogLine.text, ProgressRecord.lineBytes, encodeUtf8_append]
  rfl

theorem holds_record {h : StoreHistory} {ls : List LogLine} (hh : h.Holds ls) {r : ProgressRecord}
    (hr : r.timestamp.Valid) (method : Option String) :
    (h.next (.record r method)).Holds (ls ++ [.whole r hr]) where
  bytes := by
    rw [next_store, apply_record, record_written, logBytes_append, hh.bytes, logBytes_whole]
  ledger := by
    rw [next_record_ledger, ledgerFrom_append, ← hh.bytes, ← hh.ledger, Nat.zero_add]
    rfl
  snapshot := by
    rw [next_store, apply_record, record_snapshot, hh.snapshot, List.map_append, List.map_singleton, LogLine.record?, ofEntries_concat]
  flushed := fun hp => absurd hp (Nat.succ_ne_zero _)

/-- Any event but a crash leaves the lines as they are and adds those of its records. -/
theorem holds_next {h : StoreHistory} {ls : List LogLine} (hh : h.Holds ls) {e : StoreEvent}
    (hv : e.Valid) (hc : e.isCrash = false) :
    ∃ ms : List LogLine, ms.map LogLine.record? = e.appended.map some ∧
      (h.next e).Holds (ls ++ ms) := by
  cases e with
  | record r method =>
    have hr : r.timestamp.Valid := hv r (by simp [StoreEvent.appended])
    exact ⟨[.whole r hr], rfl, holds_record hh hr method⟩
  | checkpoint =>
    refine ⟨[], rfl, ?_⟩
    rw [List.append_nil]
    exact holds_flush hh
  | checkpointIfDue interval =>
    refine ⟨[], rfl, ?_⟩
    rw [List.append_nil]
    by_cases hd : h.store.isDue interval = true
    · have hs : h.next (.checkpointIfDue interval) = ⟨h.store.checkpoint, h.ledger⟩ :=
        congrArg (StoreHistory.mk · h.ledger) (if_pos hd)
      rw [hs]
      exact holds_flush hh
    · have hs : h.next (.checkpointIfDue interval) = h :=
        congrArg (StoreHistory.mk · h.ledger) (if_neg hd)
      rw [hs]
      exact hh
  | reopen =>
    refine ⟨[], rfl, ?_⟩
    rw [List.append_nil]
    apply holds_open _ hh.ledger
    rw [close_disk hh.flushed, hh.bytes, closeLog_logBytes]
  | crash => simp [StoreEvent.isCrash] at hc

/-- A crash leaves a log of lines again, of which at most one is newly torn. -/
theorem holds_crash {h : StoreHistory} {ls : List LogLine} (hh : h.Holds ls) (kept : Nat)
    (capture : List UInt8) : ∃ ms : List LogLine,
      (h.next (.crash kept capture)).Holds ms ∧ tornLines ms ≤ tornLines ls + 1 := by
  obtain ⟨ms, hbytes, hledger, htorn⟩ := logBytes_cut ls 0 kept
  refine ⟨ms, holds_open ?_ ?_, htorn⟩
  · rw [hh.bytes, hbytes]
  · rw [hh.ledger, hledger, Nat.zero_add]

theorem holds_run {h : StoreHistory} {ls : List LogLine} (hh : h.Holds ls) {more : List StoreEvent}
    (hv : ∀ e ∈ more, e.Valid) (hc : ∀ e ∈ more, e.isCrash = false) :
    ∃ ms : List LogLine, ms.map LogLine.record? = (more.flatMap StoreEvent.appended).map some ∧
      (more.foldl StoreHistory.next h).Holds (ls ++ ms) := by
  induction more generalizing h ls with
  | nil => exact ⟨[], rfl, by simpa using hh⟩
  | cons e more ih =>
    obtain ⟨ms, hms, hnext⟩ := holds_next hh (hv e (by simp)) (hc e (by simp))
    obtain ⟨ns, hns, hrun⟩ := ih hnext (fun e he => hv e (by simp [he])) fun e he => hc e (by simp [he])
    refine ⟨ms ++ ns, ?_, ?_⟩
    · rw [List.map_append, hms, hns, List.flatMap_cons, List.map_append]
    · rw [← List.append_assoc]
      exact hrun

/-- Whatever happens to a store that began empty, its log consists of whole and torn lines. -/
theorem holds_of {events : List StoreEvent} (hv : ∀ e ∈ events, e.Valid) :
    ∃ ls, (StoreHistory.of events).Holds ls := by
  have hrun : ∀ {h : StoreHistory} {ls : List LogLine}, h.Holds ls →
      ∃ ms, (events.foldl StoreHistory.next h).Holds ms := by
    induction events with
    | nil => exact fun hh => ⟨_, hh⟩
    | cons e events ih =>
      intro h ls hh
      -- a crash may change the lines that are there, so they are found anew after each event
      have hnext : ∃ ms, (h.next e).Holds ms := by
        by_cases hc : e.isCrash = true
        · cases e with
          | crash kept capture =>
            obtain ⟨ms, hms, _⟩ := holds_crash hh kept capture
            exact ⟨ms, hms⟩
          | _ => simp [StoreEvent.isCrash] at hc
        · obtain ⟨ms, _, hms⟩ := holds_next hh (hv e (by simp)) (by simpa using hc)
          exact ⟨_, hms⟩
      obtain ⟨ms, hms⟩ := hnext
      exact ih (fun e he => hv e (by simp [he])) hms
  exact hrun holds_start

theorem foldl_next_store (h : StoreHistory) (more : List StoreEvent) :
    (more.foldl StoreHistory.next h).store = more.foldl StoreEvent.apply h.store := by
  induction more generalizing h with
  | nil => rfl
  | cons e more ih => exact ih (h.next e)

theorem ofEntries_append (entries : List (Option ProgressRecord)) (rs : List ProgressRecord) :
    Snapshot.ofEntries (entries ++ rs.map some) =
      rs.foldl Snapshot.remember (Snapshot.ofEntries entries) := by
  induction rs generalizing entries with
  | nil => simp
  | cons r rs ih =>
    rw [List.map_cons, List.append_cons, ih, ofEntries_concat, List.foldl_cons]

/-- The records whose whole text lies in the first `kept` bytes of the log. -/
def StoreHistory.wholeRecords (h : StoreHistory) (kept : Nat) : List ProgressRecord :=
  (h.ledger.filter (·.stop ≤ kept)).map (·.record)

/-- What a store holds that was opened after a crash left `kept` bytes of the log. -/
structure StoreHistory.Recovered (h : StoreHistory) (kept : Nat) (s : ProgressStore) : Prop where
  /-- The ledger says where in the log the texts of its records stand. -/
  texts : ∀ e ∈ h.ledger, e.stop ≤ h.store.log.written.length ∧
    encodeUtf8 e.record.line <:+ h.store.log.written.take e.stop
  records : (logEntries (h.store.log.written.take kept)).reduceOption = h.wholeRecords kept
  view : s.snapshot.records = (h.wholeRecords kept).foldl remember []
  discarded : s.snapshot.discarded ≤ h.store.snapshot.discarded + 1

theorem recovered_of_holds {h : StoreHistory} {ls : List LogLine} (hh : h.Holds ls) (kept : Nat)
    (capture : List UInt8) :
    h.Recovered kept (.open (h.store.log.written.take kept) capture) := by
  obtain ⟨ms, hms, htorn⟩ := holds_crash hh kept capture
  have hsnapshot : Snapshot.ofLog (h.store.log.written.take kept) =
      .ofEntries (ms.map LogLine.record?) := hms.snapshot
  have hentries : logEntries (h.store.log.written.take kept) = ms.map LogLine.record? := by
    have hclosed : closeLog (h.store.log.written.take kept) = logBytes ms := by
      have hbytes := hms.bytes
      rwa [next_store, StoreEvent.apply, ProgressStore.open, Appender.written, List.append_nil]
        at hbytes
    rw [← logEntries_closeLog, hclosed, logEntries_logBytes]
  have hwhole : ms.filterMap LogLine.record? = h.wholeRecords kept := by
    rw [← ledgerFrom_records 0, ← hms.ledger]
    rfl
  refine ⟨?_, ?_, ?_, ?_⟩
  · intro e he
    rw [hh.ledger] at he
    simpa [hh.bytes] using ledgerFrom_text he
  · rw [hentries, ofEntries_records, hwhole]
  · rw [ProgressStore.open, hsnapshot, Snapshot.ofEntries, ofEntries_records, hwhole]
  · rw [ProgressStore.open, hsnapshot, ofEntries_discarded, hh.snapshot, ofEntries_discarded]
    exact htorn

/-- A store opened again after any events but crashes has all records appended since, each as a
line of its own. -/
theorem reopen_of_holds {h : StoreHistory} {ls : List LogLine} (hh : h.Holds ls)
    {more : List StoreEvent} (hv : ∀ e ∈ more, e.Valid) (hc : ∀ e ∈ more, e.isCrash = false) :
    logLines (more.foldl StoreEvent.apply h.store).reopen.log.disk =
        logLines (logBytes ls) ++ (more.flatMap StoreEvent.appended).map (·.line) ∧
      (more.foldl StoreEvent.apply h.store).reopen.snapshot =
        (more.flatMap StoreEvent.appended).foldl Snapshot.remember h.store.snapshot := by
  obtain ⟨ms, hms, hrun⟩ := holds_run hh hv hc
  have hdisk := close_disk hrun.flushed
  rw [hrun.bytes, foldl_next_store] at hdisk
  have hreopen : (more.foldl StoreEvent.apply h.store).reopen.log.disk = logBytes (ls ++ ms) := by
    rw [ProgressStore.reopen, ProgressStore.open, hdisk, closeLog_logBytes]
  have hsnapshot : (more.foldl StoreEvent.apply h.store).reopen.snapshot =
      .ofEntries ((ls ++ ms).map LogLine.record?) := by
    rw [ProgressStore.reopen, ProgressStore.open, hdisk, ofLog_eq, logEntries_logBytes]
  constructor
  · rw [hreopen, logBytes_append, logLines_append, logLines_whole hms]
  · rw [hsnapshot, List.map_append, hms, ofEntries_append, ← hh.snapshot]

/-- After any events and crashes, a crash anywhere in the log text loses no whole record and reads
no torn one, and what is appended afterwards is there when the store is opened next. -/
theorem open_after_crash {events more : List StoreEvent} (hv : ∀ e ∈ events, e.Valid)
    (hm : ∀ e ∈ more, e.Valid) (hc : ∀ e ∈ more, e.isCrash = false) (kept : Nat)
    (capture : List UInt8) :
    let h := StoreHistory.of events
    let s := ProgressStore.open (h.store.log.written.take kept) capture
    let t := (more.foldl StoreEvent.apply s).reopen
    h.Recovered kept s ∧
      logLines t.log.disk =
        logLines s.log.disk ++ (more.flatMap StoreEvent.appended).map (·.line) ∧
      t.snapshot = (more.flatMap StoreEvent.appended).foldl Snapshot.remember s.snapshot := by
  intro h s t
  obtain ⟨ls, hls⟩ := holds_of hv
  obtain ⟨ms, hms, _⟩ := holds_crash hls kept capture
  have hdisk : s.log.disk = logBytes ms := by
    rw [← hms.bytes]
    exact (List.append_nil _).symm
  have hreopen := reopen_of_holds hms hm hc
  rw [← hdisk] at hreopen
  exact ⟨recovered_of_holds hls kept capture, hreopen⟩

/-- A record is cut after 60 bytes, another is appended and cut in its own line, and a third one
follows. -/
theorem open_after_crash_twice :
    let r : ProgressRecord := ⟨⟨"https://a.test/é"⟩, .failure, ⟨1714557600, 0⟩, 3, some "timeout"⟩
    let h := StoreHistory.of [.record r none, .crash 60 [], .record r (some "article")]
    let s := ProgressStore.open (h.store.log.written.take 100) []
    let t := ([StoreEvent.record r none, .checkpoint].foldl StoreEvent.apply s).reopen
    h.Recovered 100 s ∧ logLines t.log.disk = logLines s.log.disk ++ [r.line] ∧
      t.snapshot = s.snapshot.remember r := by
  intro r h s t
  have hr : r.timestamp.Valid := by decide
  have hrecord : ∀ method, (StoreEvent.record r method).Valid := by
    intro method q hq
    cases List.mem_singleton.mp hq
    exact hr
  have hcrash : (StoreEvent.crash 60 []).Valid := fun q hq => absurd hq List.not_mem_nil
  have hflush : StoreEvent.checkpoint.Valid := fun q hq => absurd hq List.not_mem_nil
  exact open_after_crash
    (by simp only [List.forall_mem_cons]; exact ⟨hrecord _, hcrash, hrecord _, by simp⟩)
    (by simp only [List.forall_mem_cons]; exact ⟨hrecord _, hflush, by simp⟩)
    (by simp [StoreEvent.isCrash]) 100 []

end Archiver
