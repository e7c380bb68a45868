import Archiver.Cli.Arguments
import Archiver.Cli.Report
import Archiver.Config.Check
import Archiver.Discovery.Walk
import Archiver.Fetch.Cookies
import Archiver.Harvest.Schedule
import Archiver.Progress.UrlList

namespace Archiver

/-- What a command leaves behind: its exit code, what it prints, and the files. -/
structure CommandResult where
  exit : UInt8
  printed : List String
  complaint : Option String
  files : Files

def succeed (files : Files) (printed : List String) : CommandResult := ⟨0, printed, none, files⟩

def giveUp (exit : UInt8) (files : Files) (complaint : String) : CommandResult :=
  ⟨exit, [], some complaint, files⟩

/-- The exit codes of a command that does not succeed. -/
def exitFailure : UInt8 := 1
def exitMisuse : UInt8 := 2
def exitNoUrls : UInt8 := 2
def exitSessionExpired : UInt8 := 3
def exitCancelled : UInt8 := 130

def RunOutcome.exit : RunOutcome → UInt8
  | .completed => 0
  | .sessionExpired _ => exitSessionExpired
  | .cancelled => exitCancelled

/-- True for a text that can be sent as a header. -/
def isHeaderText (s : String) : Bool := s.toList.all isHeaderChar

def showStatistics (c : Config) (files : Files) : CommandResult :=
  match files.readSnapshot (Path.ofText c.output.progressPath) with
  | .error _ => giveUp exitFailure files ("Failed to read progress log " ++ c.output.progressPath)
  | .ok s =>
    succeed files (["Progress log: " ++ c.output.progressPath, ""] ++ s.statistics.report)

/-- Harvests a frontier and tells what came of it. -/
def runHarvest (c : Config) (full : Bool) (site : Site) (start : Timestamp)
    (frontier : List FrontierEntry) (files : Files) : CommandResult :=
  let logPath := Path.ofText c.output.progressPath
  let capturePath := Path.ofText c.output.capturePath
  match SessionCheck.of c with
  | .error e => giveUp exitFailure files e.message
  | .ok session =>
    match files.openStore logPath capturePath with
    | .error _ => giveUp exitFailure files "Progress store error"
    | .ok (files, store) =>
      let around : Surroundings := ⟨site, session, none, start, fun _ => none⟩
      let r := harvest (.of c) around (c.harvest.diffMode && !full) false frontier files store
      let files := r.shared.store.close.save logPath capturePath r.shared.files
      match r.phase with
      | .ended (.ok outcome) =>
        ⟨outcome.exit, r.report.summary outcome r.shared.now, none, files⟩
      | _ => giveUp exitFailure files "Harvest failed"

/-- Discovers the frontier and writes it down, or reads the one written down before. -/
def findFrontier (c : Config) (a : Arguments) (site : Site) (files : Files) :
    Except CommandResult (List FrontierEntry × Files) :=
  let path := c.output.urlListPath
  if a.has .fromList then
    match files.loadUrlList (Path.ofText path) with
    | .error _ => .error (giveUp exitFailure files ("Failed to read URL list " ++ path))
    | .ok urls => .ok (entriesOfList urls, files)
  else
    match Discoverer.of c site with
    | .error e => .error (giveUp exitFailure files e.message)
    | .ok d =>
      match d.build c.sources (.start c.harvest.baseDelay) with
      | (_, .error e) => .error (giveUp exitNoUrls files e.message)
      | (_, .ok entries) =>
        match files.writeUrlList (Path.ofText path) (entries.map (·.url)) with
        | .error _ => .error (giveUp exitFailure files ("Failed to write URL list " ++ path))
        | .ok files => .ok (entries, files)

def runConfig (c : Config) (a : Arguments) (site : Site) (start : Timestamp) (files : Files) :
    CommandResult :=
  if a.has .dryRun then succeed files c.summary
  else if a.has .stats then showStatistics c files
  else if !isHeaderText c.identity.header then giveUp exitFailure files "Failed to build HTTP client"
  else
    match findFrontier c a site files with
    | .error result => result
    | .ok ([], files) => giveUp exitNoUrls files "No URLs to harvest"
    | .ok (frontier, files) =>
      if a.has .discoverOnly then
        succeed files ["Discovered " ++ toString frontier.length ++ " URL(s); list written to " ++
          c.output.urlListPath]
      else runHarvest c (a.has .full) site start frontier files

def usage : String := "Usage: sumi-harvest [OPTIONS] <CONFIG>"

/-- Carries out a command line over the files that it may read. -/
def runCommand (arguments : List String) (site : Site) (start : Timestamp) (files : Files) :
    CommandResult :=
  match Invocation.read arguments with
  | .version => succeed files ["sumi-harvest 1.0.0"]
  | .help => succeed files [usage]
  | .misuse => giveUp exitMisuse files usage
  | .run config a =>
    match Config.load (files.bytes? (Path.ofText config)) with
    | .error e => giveUp exitFailure files e.message
    | .ok c => runConfig c a site start files

/-- The paths at which a command may find files of an earlier run. -/
def Config.paths (c : Config) : List String :=
  [c.output.urlListPath, c.output.progressPath, c.output.capturePath, c.output.archiveDir]

end Archiver
