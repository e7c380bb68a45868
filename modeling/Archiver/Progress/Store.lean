import Archiver.Progress.Capture
import Archiver.Progress.Snapshot
import Archiver.Storage.Appender
import Archiver.Storage.Files

namespace Archiver

/-- The log of progress, the table of captures beside it, what the log says so far, and how many
records were appended since both were last flushed. -/
structure ProgressStore where
  log : Appender
  capture : Appender
  snapshot : Snapshot
  pending : Nat
deriving DecidableEq, Inhabited

/-- True if a log does not end with the end of a line. -/
def isTorn (bytes : List UInt8) : Bool := bytes.getLast?.any (· != 0x0A)

/-- Ends the line that a torn log ends in. -/
def closeLog (bytes : List UInt8) : List UInt8 := if isTorn bytes then bytes ++ [0x0A] else bytes

/-- A new table starts with its header. -/
def openCapture (bytes : List UInt8) : Appender :=
  if bytes.isEmpty then ((Appender.mk [] []).appendAll (rowPieces captureHeader)).flush
  else ⟨bytes, []⟩

/-- Opens the store over what its two files hold. -/
def ProgressStore.open (log capture : List UInt8) : ProgressStore :=
  ⟨⟨closeLog log, []⟩, openCapture capture, Snapshot.ofLog log, 0⟩

def ProgressRecord.lineBytes (r : ProgressRecord) : List UInt8 := encodeUtf8 (r.line ++ ['\n'])

/-- Appends a record to both files. -/
def ProgressStore.record (s : ProgressStore) (r : ProgressRecord) (method : Option String) :
    ProgressStore :=
  ⟨s.log.append r.lineBytes, s.capture.appendAll (rowPieces (r.fields method)),
    s.snapshot.remember r, s.pending + 1⟩

/-- Brings both files to disk. -/
def ProgressStore.checkpoint (s : ProgressStore) : ProgressStore :=
  { s with log := s.log.flush, capture := s.capture.flush, pending := 0 }

def ProgressStore.isDue (s : ProgressStore) (interval : Nat) : Bool := max interval 1 ≤ s.pending

/-- Brings both files to disk once enough records are pending. -/
def ProgressStore.checkpointIfDue (s : ProgressStore) (interval : Nat) : ProgressStore :=
  if s.isDue interval then s.checkpoint else s

/-- What is pending reaches the disk when the store is closed. -/
def ProgressStore.close (s : ProgressStore) : ProgressStore :=
  if 0 < s.pending then s.checkpoint else s

def ProgressStore.reopen (s : ProgressStore) : ProgressStore :=
  .open s.close.log.disk s.close.capture.disk

/-- Why the files of progress cannot be used. -/
inductive ProgressError where
  | unreadable
  | unwritable
deriving DecidableEq, Inhabited

/-- The bytes of a file that may be missing, but must not be a directory. -/
def Files.fileToAppend (f : Files) (path : Path) : Except ProgressError (List UInt8) :=
  match f.find? path with
  | some .directory => .error .unreadable
  | some (.file bytes) => .ok bytes
  | none => if isFileName (path.getLastD "") then .ok [] else .error .unwritable

/-- Writes back what has reached the disk. -/
def ProgressStore.save (s : ProgressStore) (log capture : Path) (f : Files) : Files :=
  (f.put log (.file s.log.disk)).put capture (.file s.capture.disk)

/-- Opens the store at two paths, with the directories it needs. -/
def Files.openStore (f : Files) (log capture : Path) : Except ProgressError (Files × ProgressStore) :=
  match (f.makeDirectories log.dropLast).bind (·.makeDirectories capture.dropLast) with
  | .error _ => .error .unwritable
  | .ok f => do
    let logBytes ← f.fileToAppend log
    let captureBytes ← f.fileToAppend capture
    let s := ProgressStore.open logBytes captureBytes
    return (s.save log capture f, s)

/-- Replays the log at a path without touching it; a missing log is empty. -/
def Files.readSnapshot (f : Files) (log : Path) : Except ProgressError Snapshot :=
  match f.find? log with
  | none => .ok .empty
  | some .directory => .error .unreadable
  | some (.file bytes) => .ok (Snapshot.ofLog bytes)

end Archiver
