import Archiver.Progress.Store

namespace Archiver

/-- Where a checkpoint fails: over the log after so many bytes of its buffer, or over the table once
the log is on disk. -/
inductive FlushFault where
  | log (bytes : Nat)
  | table (bytes : Nat)
deriving DecidableEq

/-- Where the append of a record fails. -/
inductive LogFault where
  /-- Room for the line cannot be made after so many bytes of the buffer. -/
  | line (bytes : Nat)
  /-- The line is in, and its row breaks off after so many pieces. -/
  | row (pieces bytes : Nat)
  /-- Both are in, and the checkpoint fails if it is due. -/
  | flush (fault : FlushFault)
deriving DecidableEq

/-- Brings both files to disk unless one of them fails; false if so. -/
def ProgressStore.tryCheckpoint (s : ProgressStore) : Option FlushFault → ProgressStore × Bool
  | none => (s.checkpoint, true)
  | some (.log bytes) => ({ s with log := s.log.spill bytes }, false)
  | some (.table bytes) => ({ s with log := s.log.flush, capture := s.capture.leak bytes }, false)

def ProgressStore.tryCheckpointIfDue (s : ProgressStore) (fault : Option FlushFault) (interval : Nat) :
    ProgressStore × Bool :=
  if s.isDue interval then s.tryCheckpoint fault else (s, true)

/-- Appends a record and brings it to disk if that is due; false if one of the files fails. -/
def ProgressStore.append (s : ProgressStore) (fault : Option LogFault) (interval : Nat)
    (r : ProgressRecord) (method : Option String) : ProgressStore × Bool :=
  match fault with
  | none => (s.record r method).tryCheckpointIfDue none interval
  | some (.line bytes) => ({ s with log := s.log.spill bytes }, false)
  | some (.row pieces bytes) =>
    let written := (rowPieces (r.fields method)).dropLast.take pieces
    ({ s with
      log := s.log.append r.lineBytes
      capture := (s.capture.appendAll written).leak bytes }, false)
  | some (.flush fault) => (s.record r method).tryCheckpointIfDue (some fault) interval

end Archiver
