import Archiver.Css.Parse
import Archiver.Fetch.Retry
import Archiver.Storage.Files
import Archiver.Url.Basic

namespace Archiver

/-- How requests are paced, repeated and saved; delays are in milliseconds, the timeout in seconds. -/
structure HarvestSettings where
  baseDelay : Nat
  maxRetries : UInt32
  multiplier : Float
  batchSize : Nat
  batchDelay : Nat
  saveInterval : Nat
  diffMode : Bool
  workers : Nat
  leastContent : Nat
  timeout : Nat
deriving Inhabited

/-- Who the archiver says it is. -/
structure Identity where
  name : String
  version : String
  contactUrl : String
  contactEmail : String
deriving Inhabited

/-- The text sent with every request. -/
def Identity.header (i : Identity) : String :=
  i.name ++ "/" ++ i.version ++ " (+" ++ i.contactUrl ++ "; " ++ i.contactEmail ++ ")"

structure OutputSettings where
  indexDir : String
  archiveDir : String
  urlListFile : String
  progressFile : String
  captureFile : String
deriving Inhabited

def OutputSettings.urlListPath (o : OutputSettings) : String := joinPath o.indexDir o.urlListFile

def OutputSettings.progressPath (o : OutputSettings) : String := joinPath o.indexDir o.progressFile

def OutputSettings.capturePath (o : OutputSettings) : String := joinPath o.indexDir o.captureFile

/-- The page that shows whether a session is still logged in. -/
structure SessionSettings where
  probeUrl : String
  marker : String
  cookieFile : Option String
deriving Inhabited

structure DiscoverySettings where
  hosts : List String
  paths : List String
  nextSelector : String
  maxPages : UInt32
  maxPageRetries : UInt32
  pageRetryDelay : Nat
deriving Inhabited

inductive SourceKind where
  | listing
  | category
deriving DecidableEq, Inhabited

def SourceKind.name : SourceKind → String
  | .listing => "listing"
  | .category => "category"

/-- A page that addresses are discovered from. -/
structure Source where
  kind : SourceKind
  name : String
  url : String
deriving DecidableEq, Inhabited

structure Config where
  harvest : HarvestSettings
  identity : Identity
  output : OutputSettings
  session : Option SessionSettings
  discovery : DiscoverySettings
  sources : List Source
deriving Inhabited

/-- Why a configuration is refused. -/
inductive ConfigError where
  | unreadable
  | malformed
  | batchSize (found : Nat)
  | saveInterval (found : Nat)
  | multiplier (found : Float)
  | workers (found : Nat)
  | leastContent
  | timeout
  | namelessCrawler
  | crawlerName (found : String)
  | contactUrl (cause : UrlError)
  | email (found : String)
  | emptyPath (field : String)
  | badUrl (field found : String) (cause : UrlError)
  | notWeb (field found : String)
  | selector (field : String)
  | noHosts
  | emptyPattern
  | emptyDomain
  | domainCharacters (found : String)
  | domainEnds (found : String)
  | domainDots (found : String)
  | domainWithoutDot (found : String)
  | noPrefixes
  | badPath (found : String)
  | maxPages (found : Nat)
  | noSources
  | namelessSource (url : String)
  | marker (found : String)
deriving Inhabited

/-- The kinds of refusal that are told apart. -/
inductive ConfigErrorKind where
  | reading
  | parsing
  | validation
  | url
  | pattern
deriving DecidableEq

def ConfigError.kind : ConfigError → ConfigErrorKind
  | .unreadable => .reading
  | .malformed => .parsing
  | .contactUrl _ | .badUrl _ _ _ | .notWeb _ _ => .url
  | .emptyPattern | .emptyDomain | .domainCharacters _ | .domainEnds _ | .domainDots _
  | .domainWithoutDot _ => .pattern
  | _ => .validation

/-- What is wrong, without the kind of refusal. -/
def ConfigError.detail : ConfigError → String
  | .unreadable => "unreadable"
  | .malformed => "malformed"
  | .batchSize n => "batch_size must be >= 1, got " ++ toString n
  | .saveInterval n => "save_interval must be >= 1, got " ++ toString n
  | .multiplier x =>
    "backoff_multiplier must be a finite number >= 1.0, got " ++ String.ofList (shortestText x)
  | .workers n => "workers must be between 1 and 4, got " ++ toString n
  | .leastContent => "min_content_length must be >= 1"
  | .timeout => "request_timeout must be >= 1 second"
  | .namelessCrawler => "crawler_name cannot be empty"
  | .crawlerName s =>
    "crawler_name must contain only alphanumeric characters and hyphens, got '" ++ s ++ "'"
  | .contactUrl cause => "Invalid contact_url: " ++ cause.message
  | .email s => "Invalid email format: '" ++ s ++ "'"
  | .emptyPath field => field ++ " cannot be empty"
  | .badUrl field s cause => "Invalid " ++ field ++ " '" ++ s ++ "': " ++ cause.message
  | .notWeb field s => field ++ " '" ++ s ++ "' must use HTTP or HTTPS"
  | .selector field => "Invalid CSS selector for " ++ field
  | .noHosts => "article_hosts must list at least one host"
  | .emptyPattern => "Domain pattern cannot be empty"
  | .emptyDomain => "Domain cannot be empty"
  | .domainCharacters s => "Domain '" ++ s ++ "' contains invalid characters"
  | .domainEnds s => "Domain '" ++ s ++ "' cannot start or end with '.' or '-'"
  | .domainDots s => "Domain '" ++ s ++ "' cannot contain consecutive dots"
  | .domainWithoutDot s => "Domain '" ++ s ++ "' must contain at least one dot (e.g., 'example.com')"
  | .noPrefixes => "article_prefixes must list at least one path prefix"
  | .badPath s => "Article prefix '" ++ s ++ "' must start with '/' and name a path"
  | .maxPages n => "max_pages must be >= 1, got " ++ toString n
  | .noSources => "At least one [[source]] must be configured"
  | .namelessSource url => "Source '" ++ url ++ "' must have a name"
  | .marker s => "session.marker-selector '" ++ s ++ "' is not a valid CSS selector"

def ConfigErrorKind.heading : ConfigErrorKind → String
  | .reading => "Failed to read config file: "
  | .parsing => "Failed to parse TOML: "
  | .validation => "Validation error: "
  | .url => "Invalid URL in config: "
  | .pattern => "Invalid domain pattern: "

def ConfigError.message (e : ConfigError) : String := e.kind.heading ++ e.detail

end Archiver
