import Archiver.Config.Basic
import Archiver.Fetch.Session
import Archiver.Progress.Faults
import Archiver.Timestamp

namespace Archiver

/-- How a run works: its batches, its pace and what it does with a page. Times are in
milliseconds. -/
structure Plan where
  batchSize : Nat
  batchDelay : Nat
  saveInterval : Nat
  workers : Nat
  interval : Nat
  policy : RetryPolicy
  leastContent : Nat
  archiveRoot : String

def Plan.of (config : Config) : Plan :=
  let h := config.harvest
  { batchSize := max h.batchSize 1
    batchDelay := h.batchDelay
    saveInterval := h.saveInterval
    workers := max h.workers 1
    interval := h.baseDelay
    policy := ⟨h.baseDelay, h.multiplier, h.maxRetries⟩
    leastContent := h.leastContent
    archiveRoot := config.output.archiveDir }

/-- How a run knows before each batch that its session is still valid. -/
inductive SessionCheck where
  | notNeeded
  | answers (valid : Nat → Bool)
  | probe (probe : SessionProbe)

/-- When a run uses its files of progress: to append a record after so many others, or for the
checkpoint after so many batches. -/
inductive LogUse where
  | append (earlier : Nat)
  | checkpoint (batches : Nat)
deriving DecidableEq

/-- What a run meets: the site, its session, the time at which a stop is asked for, the time at
which its clock starts, and where its files of progress fail. -/
structure Surroundings where
  site : Site
  session : SessionCheck
  stopAt : Option Nat
  start : Timestamp
  logFault : LogUse → Option LogFault

/-- Where the checkpoint after so many batches fails. -/
def Surroundings.flushFault (around : Surroundings) (batches : Nat) : Option FlushFault :=
  match around.logFault (.checkpoint batches) with
  | some (.flush fault) => some fault
  | _ => none

end Archiver
