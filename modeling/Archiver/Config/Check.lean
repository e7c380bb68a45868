import Archiver.Config.Read
import Archiver.Digest
import Archiver.Text.Alphanumeric
import Archiver.Text.Utf8
import Archiver.Url.Parse

namespace Archiver

/-- A demand on a configuration, with the error that breaking it is. -/
def demand (holds : Bool) (e : ConfigError) : Except ConfigError Unit :=
  if holds then .ok () else .error e

def maxWorkers : Nat := 4

def HarvestSettings.check (h : HarvestSettings) : Except ConfigError Unit := do
  demand (1 ≤ h.batchSize) (.batchSize h.batchSize)
  demand (1 ≤ h.saveInterval) (.saveInterval h.saveInterval)
  demand (h.multiplier.isFinite && !(h.multiplier < 1.0)) (.multiplier h.multiplier)
  demand (1 ≤ h.workers && h.workers ≤ maxWorkers) (.workers h.workers)
  demand (1 ≤ h.leastContent) .leastContent
  demand (1 ≤ h.timeout) .timeout

/-- An address has one at sign, something in front of it, and a dot behind it. -/
def isEmail (s : List Char) : Bool :=
  match splitFirst (· == '@') s with
  | none => false
  | some (name, domain) =>
    !name.isEmpty && !domain.isEmpty && !domain.contains '@' && domain.contains '.'

def Identity.check (i : Identity) : Except ConfigError Unit := do
  demand (!i.name.isEmpty) .namelessCrawler
  demand (i.name.toList.all fun c => isAlphanumeric c || c == '-') (.crawlerName i.name)
  match Url.parse i.contactUrl.toList with
  | .error cause => .error (.contactUrl cause)
  | .ok _ => demand (isEmail i.contactEmail.toList) (.email i.contactEmail)

def OutputSettings.check (o : OutputSettings) : Except ConfigError Unit := do
  demand (!o.indexDir.isEmpty) (.emptyPath "index_dir")
  demand (!o.archiveDir.isEmpty) (.emptyPath "archive_dir")
  demand (!o.urlListFile.isEmpty) (.emptyPath "url_list_file")
  demand (!o.progressFile.isEmpty) (.emptyPath "progress_file")
  demand (!o.captureFile.isEmpty) (.emptyPath "capture_log_file")

def checkWebUrl (field value : String) : Except ConfigError Unit :=
  match Url.parse value.toList with
  | .error cause => .error (.badUrl field value cause)
  | .ok u => demand (isWebScheme u.scheme) (.notWeb field value)

def checkSelector (field value : String) : Except ConfigError Unit :=
  demand (Selectors.parse? value.toList).isSome (.selector field)

def SessionSettings.check (s : SessionSettings) : Except ConfigError Unit := do
  checkWebUrl "probe_url" s.probeUrl
  checkSelector "marker_selector" s.marker

def checkDomain (domain : List Char) : Except ConfigError Unit := do
  let found := String.ofList domain
  let isEnd := fun c : Option Char => c == some '.' || c == some '-'
  demand (!domain.isEmpty) .emptyDomain
  demand (domain.all fun c => isAlphanumeric c || c == '.' || c == '-') (.domainCharacters found)
  demand (!(isEnd domain.head? || isEnd domain.getLast?)) (.domainEnds found)
  demand (!occursIn ['.', '.'] domain) (.domainDots found)
  demand (domain.contains '.') (.domainWithoutDot found)

/-- A host pattern is a domain, or `*.` and a domain. -/
def checkPattern (pattern : List Char) : Except ConfigError Unit :=
  if pattern.isEmpty then .error .emptyPattern
  else checkDomain ((after? ['*', '.'] pattern).getD pattern)

def checkPath (path : String) : Except ConfigError Unit :=
  demand (path.toList.head? == some '/' && 2 ≤ utf8Length path.toList) (.badPath path)

def DiscoverySettings.check (d : DiscoverySettings) : Except ConfigError Unit := do
  demand (!d.hosts.isEmpty) .noHosts
  d.hosts.forM fun host => checkPattern host.toList
  demand (!d.paths.isEmpty) .noPrefixes
  d.paths.forM checkPath
  checkSelector "next_selector" d.nextSelector
  demand (1 ≤ d.maxPages) (.maxPages d.maxPages.toNat)

def Source.check (s : Source) : Except ConfigError Unit := do
  demand (!(trim s.name.toList).isEmpty) (.namelessSource s.url)
  checkWebUrl "source url" s.url

/-- The first demand that a configuration breaks, section by section. -/
def Config.check (c : Config) : Except ConfigError Unit := do
  c.harvest.check
  c.identity.check
  c.output.check
  match c.session with
  | some session => session.check
  | none => pure ()
  c.discovery.check
  demand (!c.sources.isEmpty) .noSources
  c.sources.forM Source.check

/-- Reads and checks the text of a configuration. -/
def Config.parse (s : List Char) : Except ConfigError Config :=
  match (Toml.parse? s).bind Config.ofToml? with
  | none => .error .malformed
  | some c => c.check.map fun _ => c

/-- The text of a configuration file. -/
def configText (bytes : Option (List UInt8)) : Except ConfigError (List Char) :=
  match bytes.bind decodeUtf8? with
  | none => .error .unreadable
  | some s => .ok s

/-- Reads and checks the bytes of a configuration file. -/
def Config.load (bytes : Option (List UInt8)) : Except ConfigError Config :=
  (configText bytes).bind Config.parse

/-- The digest of a configuration file, whether or not its text is a configuration. -/
def configHash (bytes : Option (List UInt8)) : Except ConfigError (List Char) :=
  (configText bytes).map digestText

end Archiver
