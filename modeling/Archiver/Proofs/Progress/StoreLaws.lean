import Archiver.Progress.Faults

namespace Archiver

variable (s : ProgressStore) (r : ProgressRecord) (method : Option String) (interval : Nat)

theorem record_log : (s.record r method).log = s.log.append r.lineBytes := by
  simp only [ProgressStore.record]

@[simp] theorem record_written :
    (s.record r method).log.written = s.log.written ++ r.lineBytes := by
  rw [record_log, written_append]

@[simp] theorem record_snapshot : (s.record r method).snapshot = s.snapshot.remember r := by
  simp only [ProgressStore.record]

@[simp] theorem checkpoint_written : s.checkpoint.log.written = s.log.written :=
  written_flush s.log

@[simp] theorem checkpoint_snapshot : s.checkpoint.snapshot = s.snapshot := rfl

@[simp] theorem checkpointIfDue_written :
    (s.checkpointIfDue interval).log.written = s.log.written := by
  unfold ProgressStore.checkpointIfDue
  split
  · exact checkpoint_written s
  · rfl

@[simp] theorem checkpointIfDue_snapshot : (s.checkpointIfDue interval).snapshot = s.snapshot := by
  unfold ProgressStore.checkpointIfDue
  split <;> rfl

variable (fault : Option FlushFault)

@[simp] theorem tryCheckpoint_written :
    (s.tryCheckpoint fault).1.log.written = s.log.written := by
  cases fault with
  | none => exact checkpoint_written s
  | some fault =>
    cases fault with
    | log bytes => exact written_spill s.log bytes
    | table bytes => exact written_flush s.log

@[simp] theorem tryCheckpoint_snapshot : (s.tryCheckpoint fault).1.snapshot = s.snapshot := by
  cases fault with
  | none => rfl
  | some fault => cases fault <;> rfl

@[simp] theorem tryCheckpointIfDue_written :
    (s.tryCheckpointIfDue fault interval).1.log.written = s.log.written := by
  unfold ProgressStore.tryCheckpointIfDue
  split
  · exact tryCheckpoint_written s fault
  · rfl

@[simp] theorem tryCheckpointIfDue_snapshot :
    (s.tryCheckpointIfDue fault interval).1.snapshot = s.snapshot := by
  unfold ProgressStore.tryCheckpointIfDue
  split
  · exact tryCheckpoint_snapshot s fault
  · rfl

variable {s fault interval}

/-- A checkpoint fails only over one of its files. -/
theorem tryCheckpoint_cases {t : ProgressStore} {held : Bool} (h : s.tryCheckpoint fault = (t, held)) :
    (held = true ∧ t = s.checkpoint) ∨
      (held = false ∧ ∃ cause, fault = some cause ∧ t = (s.tryCheckpoint (some cause)).1) := by
  cases fault with
  | none =>
    cases h
    exact Or.inl ⟨rfl, rfl⟩
  | some cause =>
    refine Or.inr ⟨?_, cause, rfl, (congrArg Prod.fst h).symm⟩
    cases cause <;> exact (congrArg Prod.snd h).symm

theorem tryCheckpointIfDue_cases {t : ProgressStore} {held : Bool}
    (h : s.tryCheckpointIfDue fault interval = (t, held)) :
    (held = true ∧ t = s.checkpointIfDue interval) ∨
      (held = false ∧ ∃ cause, fault = some cause ∧ t = (s.tryCheckpoint (some cause)).1) := by
  unfold ProgressStore.tryCheckpointIfDue at h
  unfold ProgressStore.checkpointIfDue
  split at h
  · next hdue =>
    rw [if_pos hdue]
    exact tryCheckpoint_cases h
  · next hdue =>
    cases h
    rw [if_neg hdue]
    exact Or.inl ⟨rfl, rfl⟩

/-- Where nothing fails, an append succeeds. -/
theorem append_held (s : ProgressStore) (interval : Nat) (r : ProgressRecord)
    (method : Option String) : (s.append none interval r method).2 = true := by
  unfold ProgressStore.append ProgressStore.tryCheckpointIfDue
  simp only
  split <;> rfl

/-- The line of a record gets into the log or not. The append succeeds only if it does, and then the
view has the record as well. -/
theorem append_cases (s : ProgressStore) (fault : Option LogFault) (interval : Nat)
    (r : ProgressRecord) (method : Option String) :
    ((s.append fault interval r method).2 = true ∧
      (s.append fault interval r method).1.log.written = s.log.written ++ r.lineBytes ∧
      (s.append fault interval r method).1.snapshot = s.snapshot.remember r) ∨
    ((s.append fault interval r method).2 = false ∧
      ((s.append fault interval r method).1.log.written = s.log.written ++ r.lineBytes ∨
        (s.append fault interval r method).1.log.written = s.log.written)) := by
  unfold ProgressStore.append
  cases fault with
  | none => cases ((s.record r method).tryCheckpointIfDue none interval).2 <;> simp
  | some fault =>
    cases fault with
    | line bytes => simp
    | row pieces bytes => simp
    | flush cause =>
      cases ((s.record r method).tryCheckpointIfDue (some cause) interval).2 <;> simp

end Archiver
