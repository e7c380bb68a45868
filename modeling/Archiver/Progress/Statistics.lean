import Archiver.Decimal
import Archiver.Progress.Snapshot

namespace Archiver

def floatOfCount (n : Nat) : Float := (UInt64.ofNat n).toFloat

/-- The percentage of what was attempted that succeeded; of nothing, all succeeded. -/
def successRate (succeeded attempted : Nat) : Float :=
  if attempted = 0 then 100.0 else floatOfCount succeeded / floatOfCount attempted * 100.0

/-- True for a rate that asks for a warning. -/
def isLowRate (rate : Float) : Bool := rate < 70.0

/-- What a log of progress comes to. -/
structure Statistics where
  urls : Nat
  counts : OutcomeCounts
  discarded : Nat
  unfinished : List ProgressRecord
deriving Inhabited

def Snapshot.statistics (s : Snapshot) : Statistics :=
  ⟨s.size, s.counts, s.discarded, s.unfinished⟩

def Statistics.rate (s : Statistics) : Float := successRate s.counts.success s.counts.total

/-- A rate with one place. -/
def rateText (rate : Float) : String := String.ofList (fixedText 1 rate)

def ProgressRecord.summary (r : ProgressRecord) : String :=
  "  [" ++ String.ofList r.outcome.name ++ "] " ++ r.url.text ++ " (" ++ toString r.retries.toNat ++
  " retries)" ++ r.error.elim "" (": " ++ ·)

/-- The lines that tell a reader what the log says. -/
def Statistics.report (s : Statistics) : List String :=
  ["=== Harvest Statistics ===", "", "Overview:",
    "  URLs recorded: " ++ toString s.urls,
    "  Success: " ++ toString s.counts.success,
    "  Failure: " ++ toString s.counts.failure,
    "  Skipped: " ++ toString s.counts.skipped] ++
  (if 0 < s.discarded then ["  Unreadable log lines: " ++ toString s.discarded] else []) ++ [""] ++
  (if s.unfinished.isEmpty then []
    else ("Not archived (" ++ toString s.unfinished.length ++ "):") ::
      (s.unfinished.map ProgressRecord.summary ++ [""])) ++
  ["Success Rate: " ++ rateText s.rate ++ "% (" ++ toString s.counts.success ++ " / " ++
    toString s.counts.total ++ " URLs archived)"]

end Archiver
