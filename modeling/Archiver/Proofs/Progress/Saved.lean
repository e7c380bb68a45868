import Mathlib.Data.List.Infix
import Archiver.Proofs.Progress.StoreLaws

namespace Archiver

variable {a : Appender} {piece : List UInt8} {interval : Nat}

theorem disk_isPrefix_written (a : Appender) : a.disk <+: a.written := List.prefix_append _ _

theorem disk_isPrefix_spill (a : Appender) (count : Nat) : a.disk <+: (a.spill count).disk :=
  List.prefix_append _ _

theorem disk_isPrefix_flush (a : Appender) : a.disk <+: a.flush.disk := List.prefix_append _ _

/-- What is on disk stays there. -/
theorem disk_isPrefix_append (a : Appender) (piece : List UInt8) :
    a.disk <+: (a.append piece).disk := by
  have hroom :
      a.disk <+: (if bufferSize < a.held.length + piece.length then a.flush else a).disk := by
    split
    · exact disk_isPrefix_flush a
    · exact List.prefix_refl _
  unfold Appender.append
  simp only
  split
  · exact (hroom.trans (disk_isPrefix_written _)).trans (List.prefix_append _ _)
  · exact hroom

theorem written_appendAll (pieces : List (List UInt8)) (a : Appender) :
    (a.appendAll pieces).written = a.written ++ pieces.flatten := by
  induction pieces generalizing a with
  | nil => simp [Appender.appendAll]
  | cons piece pieces ih =>
    have hrest : (a.appendAll (piece :: pieces)).written =
        (a.append piece).written ++ pieces.flatten := ih (a.append piece)
    rw [hrest, written_append, List.flatten_cons, List.append_assoc]

/-- The row of a record in the table of captures. -/
def ProgressRecord.rowBytes (r : ProgressRecord) (method : Option String) : List UInt8 :=
  (rowPieces (r.fields method)).flatten

variable {s t : ProgressStore} {r : ProgressRecord} {method : Option String}

theorem record_capture (s : ProgressStore) (r : ProgressRecord) (method : Option String) :
    (s.record r method).capture = s.capture.appendAll (rowPieces (r.fields method)) := by
  simp only [ProgressStore.record]

theorem record_pending (s : ProgressStore) (r : ProgressRecord) (method : Option String) :
    (s.record r method).pending = s.pending + 1 := by
  simp only [ProgressStore.record]

theorem held_openCapture (bytes : List UInt8) : (openCapture bytes).held = [] := by
  unfold openCapture
  split <;> rfl

/-- What one step does to the log on disk: it holds more of it, with so many more records pending, or it
holds all that was written. -/
def ProgressStore.Forward (s t : ProgressStore) (more : Nat) : Prop :=
  (s.log.disk <+: t.log.disk ∧ s.pending + more ≤ t.pending) ∨ t.log.disk = t.log.written

theorem forward_of_same (h : t = s) : s.Forward t 0 :=
  Or.inl ⟨h ▸ List.prefix_refl _, h ▸ Nat.le_refl _⟩

theorem forward_tryCheckpoint {more : Nat} (hdisk : s.log.disk <+: t.log.disk)
    (hpending : s.pending + more ≤ t.pending) (fault : Option FlushFault) :
    s.Forward (t.tryCheckpoint fault).1 more := by
  cases fault with
  | none => exact Or.inr (written_flush t.log).symm
  | some fault =>
    cases fault with
    | log bytes => exact Or.inl ⟨hdisk.trans (disk_isPrefix_spill t.log bytes), hpending⟩
    | table bytes => exact Or.inr (written_flush t.log).symm

/-- True if a record gets into both files. -/
def isEntered : Option LogFault → Bool
  | some (.line _) | some (.row _ _) => false
  | _ => true

theorem forward_record (s : ProgressStore) (fault : Option FlushFault) (interval : Nat)
    (r : ProgressRecord) (method : Option String) :
    s.Forward ((s.record r method).tryCheckpointIfDue fault interval).1 1 := by
  have hdisk : s.log.disk <+: (s.record r method).log.disk := by
    rw [record_log]
    exact disk_isPrefix_append s.log r.lineBytes
  have hpending : s.pending + 1 ≤ (s.record r method).pending :=
    Nat.le_of_eq (record_pending s r method).symm
  unfold ProgressStore.tryCheckpointIfDue
  split
  · exact forward_tryCheckpoint hdisk hpending fault
  · exact Or.inl ⟨hdisk, hpending⟩

theorem forward_append (s : ProgressStore) (fault : Option LogFault) (interval : Nat)
    (r : ProgressRecord) (method : Option String) :
    s.Forward (s.append fault interval r method).1 (isEntered fault).toNat := by
  unfold ProgressStore.append
  cases fault with
  | none => exact forward_record s none interval r method
  | some fault =>
    cases fault with
    | line bytes => exact Or.inl ⟨disk_isPrefix_spill s.log bytes, Nat.le_refl _⟩
    | row pieces bytes => exact Or.inl ⟨disk_isPrefix_append s.log r.lineBytes, Nat.le_refl _⟩
    | flush cause => exact forward_record s (some cause) interval r method

/-- An append that succeeds is one of the record and of a checkpoint if it is due. -/
theorem append_succeeds {fault : Option LogFault}
    (h : (s.append fault interval r method).2 = true) :
    isEntered fault = true ∧
      (s.append fault interval r method).1 = (s.record r method).checkpointIfDue interval := by
  unfold ProgressStore.append at h ⊢
  have hdue : ∀ cause, ((s.record r method).tryCheckpointIfDue cause interval).2 = true →
      ((s.record r method).tryCheckpointIfDue cause interval).1 =
        (s.record r method).checkpointIfDue interval := by
    intro cause hheld
    generalize htried : (s.record r method).tryCheckpointIfDue cause interval = tried at hheld ⊢
    obtain ⟨t, held⟩ := tried
    rcases tryCheckpointIfDue_cases htried with ⟨-, hstore⟩ | ⟨hfails, -⟩
    · exact hstore
    · exact absurd (hfails.symm.trans hheld) Bool.false_ne_true
  cases fault with
  | none => exact ⟨rfl, hdue none h⟩
  | some fault =>
    cases fault with
    | line bytes => cases h
    | row pieces bytes => cases h
    | flush cause => exact ⟨rfl, hdue (some cause) h⟩

theorem capture_checkpointIfDue (s : ProgressStore) (interval : Nat) :
    (s.checkpointIfDue interval).capture.written = s.capture.written := by
  unfold ProgressStore.checkpointIfDue
  split
  · exact written_flush s.capture
  · rfl

theorem capture_record (s : ProgressStore) (r : ProgressRecord) (method : Option String) :
    (s.record r method).capture.written = s.capture.written ++ r.rowBytes method := by
  rw [record_capture, written_appendAll, ProgressRecord.rowBytes]

end Archiver
