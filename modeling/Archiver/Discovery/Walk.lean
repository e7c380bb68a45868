import Archiver.Config.Basic
import Archiver.Discovery.CategoryPage
import Archiver.Discovery.Frontier
import Archiver.Discovery.Locations
import Archiver.Fetch.Site
import Archiver.Url.Shape

namespace Archiver

/-- What discovery goes by. -/
structure Discoverer where
  site : Site
  shape : ArticleShape
  nextSelector : Selectors
  maxPages : Nat
  policy : RetryPolicy

/-- A client on its way through the sources, with what it has found. -/
structure Search where
  client : Client
  found : DiscoveredSet

/-- Why a source gave nothing. -/
inductive SourceError where
  | unreachable (cause : Unreachable)
  | badUrl (url : String)
deriving DecidableEq

def Discoverer.load (d : Discoverer) (s : Search) (url : String) :
    Search × Except Unreachable String :=
  let (client, body) := Client.load d.site d.policy s.client url
  ({ s with client := client }, body)

/-- Adds an address if it has the shape of an article's. -/
def Discoverer.accept (d : Discoverer) (source : String) (s : Search) (url : CanonicalUrl) : Search :=
  if d.shape.matches url then { s with found := s.found.insert url source } else s

def Discoverer.acceptLocation (d : Discoverer) (source : String) (s : Search)
    (location : List Char) : Search :=
  match CanonicalUrl.normalize location with
  | .error _ => s
  | .ok url => d.accept source s url

/-- Adds what a listing lists itself, without the listings it leads to. -/
def Discoverer.acceptLocations (d : Discoverer) (source : String) (s : Search)
    (locations : List (List Char)) : Search :=
  (locations.filter fun l => !isNestedListing l).foldl (d.acceptLocation source) s

/-- Adds what a nested listing lists; one that cannot be loaded is passed over, and one nested in
it is not followed. -/
def Discoverer.followNested (d : Discoverer) (source : String) (s : Search)
    (location : List Char) : Search :=
  match d.load s (String.ofList location) with
  | (s, .error _) => s
  | (s, .ok document) => d.acceptLocations source s (extractLocations document.toList)

/-- Reads a listing, then each listing nested in it. -/
def Discoverer.readListing (d : Discoverer) (source : Source) (s : Search) :
    Search × Except SourceError Unit :=
  match d.load s source.url with
  | (s, .error cause) => (s, .error (.unreachable cause))
  | (s, .ok document) =>
    let locations := extractLocations document.toList
    let s := d.acceptLocations source.name s locations
    ((locations.filter isNestedListing).foldl (d.followNested source.name) s, .ok ())

/-- Walks on from a page, as long as pages are left and no page comes again. A page that cannot be
loaded ends the walk, and is an error only if it is the first. -/
def Discoverer.walk (d : Discoverer) (source : String) :
    Nat → List (List Char) → Url → Search → Search × Except SourceError Unit
  | 0, _, _, s => (s, .ok ())
  | left + 1, visited, url, s =>
    if visited.contains url.text then (s, .ok ())
    else
      match d.load s (String.ofList url.text) with
      | (s, .error cause) => (s, if visited.isEmpty then .error (.unreachable cause) else .ok ())
      | (s, .ok body) =>
        let page := readCategoryPage body.toList url d.nextSelector
        let s := page.links.foldl (d.accept source) s
        match page.next with
        | none => (s, .ok ())
        | some next => d.walk source left (url.text :: visited) next s

def Discoverer.readCategory (d : Discoverer) (source : Source) (s : Search) :
    Search × Except SourceError Unit :=
  match Url.parse source.url.toList with
  | .error _ => (s, .error (.badUrl source.url))
  | .ok url => d.walk source.name d.maxPages [] url s

def Discoverer.readSource (d : Discoverer) (source : Source) (s : Search) :
    Search × Except SourceError Unit :=
  match source.kind with
  | .listing => d.readListing source s
  | .category => d.readCategory source s

/-- Reads the sources in turn, and counts those that gave an error. -/
def Discoverer.readSources (d : Discoverer) : List Source → Search → Search × Nat
  | [], s => (s, 0)
  | source :: rest, s =>
    match d.readSource source s with
    | (s, .ok _) => d.readSources rest s
    | (s, .error _) =>
      let (s, failed) := d.readSources rest s
      (s, failed + 1)

/-- Every source failed, or none listed an article. -/
inductive NothingFound where
  | nothingFound
deriving DecidableEq

def NothingFound.message : NothingFound → String
  | .nothingFound => "Discovery failed: no URLs found"

/-- The frontier of a list of sources, the newest article first. -/
def Discoverer.build (d : Discoverer) (sources : List Source) (c : Client) :
    Client × Except NothingFound (List FrontierEntry) :=
  let (s, failed) := d.readSources sources ⟨c, .empty⟩
  (s.client,
    if failed = sources.length || s.found.size = 0 then .error .nothingFound
    else .ok s.found.sorted)

/-- Discovery as a configuration wants it. -/
def Discoverer.of (config : Config) (site : Site) : Except ConfigError Discoverer :=
  let settings := config.discovery
  match Selectors.parse? settings.nextSelector.toList with
  | none => .error (.selector "next_selector")
  | some nextSelector => .ok {
      site := site
      shape := .of (settings.hosts.map String.toList) (settings.paths.map String.toList)
      nextSelector := nextSelector
      maxPages := settings.maxPages.toNat
      policy := ⟨settings.pageRetryDelay, config.harvest.multiplier, settings.maxPageRetries⟩ }

end Archiver
