import Archiver.Config.Basic
import Archiver.Decimal
import Archiver.Harvest.Run

namespace Archiver

def commaList (items : List String) : String := String.intercalate ", " items

def SessionSettings.summary (s : SessionSettings) : List String :=
  ["", "Session:", "  Probe: " ++ s.probeUrl ++ " (marker '" ++ s.marker ++ "')"] ++
  (s.cookieFile.map fun path => "  Cookies: " ++ path).toList

def Source.summary (s : Source) : String :=
  "  - " ++ s.name ++ " [" ++ s.kind.name ++ "] " ++ s.url

/-- The lines that show what a configuration would harvest. -/
def Config.summary (c : Config) : List String :=
  let h := c.harvest
  ["=== Sumi-Harvest Dry Run ===", "",
    "Harvest Configuration:",
    "  Base delay: " ++ toString h.baseDelay ++ "ms",
    "  Max retries: " ++ toString h.maxRetries.toNat,
    "  Backoff multiplier: " ++ String.ofList (shortestText h.multiplier),
    "  Batch size: " ++ toString h.batchSize,
    "  Batch delay: " ++ toString h.batchDelay ++ "ms",
    "  Save interval: " ++ toString h.saveInterval,
    "  Diff mode: " ++ (if h.diffMode then "true" else "false"),
    "  Workers: " ++ toString h.workers,
    "  Min content length: " ++ toString h.leastContent,
    "", "User Agent:", "  " ++ c.identity.header,
    "", "Output:",
    "  URL list: " ++ c.output.urlListPath,
    "  Progress log: " ++ c.output.progressPath,
    "  Capture log: " ++ c.output.capturePath,
    "  Archive: " ++ c.output.archiveDir] ++
  c.session.elim ["", "Session: none (always valid)"] SessionSettings.summary ++
  ["", "Article hosts: " ++ commaList c.discovery.hosts,
    "Article prefixes: " ++ commaList c.discovery.paths,
    "", "Sources (" ++ toString c.sources.length ++ "):"] ++
  c.sources.map Source.summary ++
  ["", "✓ Configuration is valid"]

def RunOutcome.text : RunOutcome → String
  | .completed => "completed"
  | .cancelled => "cancelled"
  | .sessionExpired batch => "session expired before batch " ++ toString batch

/-- The lines that tell what a run of so many milliseconds came to. -/
def Report.summary (r : Report) (outcome : RunOutcome) (millis : Nat) : List String :=
  let seconds := (UInt64.ofNat millis).toFloat / 1000.0
  ["=== Harvest Run ===", "",
    "  Outcome: " ++ outcome.text,
    "  Frontier: " ++ toString r.frontierSize,
    "  Already done: " ++ toString r.alreadyDone,
    "  Attempted: " ++ toString r.attempted,
    "  Succeeded: " ++ toString r.succeeded,
    "  Failed: " ++ toString r.failed,
    "  Skipped: " ++ toString r.skipped,
    "  Batches: " ++ toString r.batches,
    "  Duration: " ++ String.ofList (fixedText 1 seconds) ++ "s",
    "  Success Rate: " ++ rateText r.rate ++ "%"]

end Archiver
