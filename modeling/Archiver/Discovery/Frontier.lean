import Archiver.Url.Canonical

namespace Archiver

/-- One address to harvest, with the source that listed it first. -/
structure FrontierEntry where
  url : CanonicalUrl
  source : String
  articleId : Option Nat
deriving DecidableEq, Inhabited

def FrontierEntry.of (url : CanonicalUrl) (source : String) : FrontierEntry :=
  ⟨url, source, url.articleId⟩

/-- The entries found so far, in the order of their finding; no two have one address. -/
structure DiscoveredSet where
  entries : List FrontierEntry

def DiscoveredSet.empty : DiscoveredSet := ⟨[]⟩

def DiscoveredSet.contains (s : DiscoveredSet) (url : CanonicalUrl) : Bool :=
  s.entries.any (·.url == url)

/-- Adds an address that is not yet known. -/
def DiscoveredSet.insert (s : DiscoveredSet) (url : CanonicalUrl) (source : String) : DiscoveredSet :=
  if s.contains url then s else ⟨s.entries ++ [FrontierEntry.of url source]⟩

def DiscoveredSet.size (s : DiscoveredSet) : Nat := s.entries.length

/-- Newer articles come first: by descending id, then those without an id; ties by address. -/
def FrontierEntry.notAfter (a b : FrontierEntry) : Bool :=
  match a.articleId, b.articleId with
  | some i, some j => i > j || (i == j && !decide (b.url.text < a.url.text))
  | some _, none => true
  | none, some _ => false
  | none, none => !decide (b.url.text < a.url.text)

def sortFrontier (entries : List FrontierEntry) : List FrontierEntry :=
  entries.mergeSort FrontierEntry.notAfter

def DiscoveredSet.sorted (s : DiscoveredSet) : List FrontierEntry := sortFrontier s.entries

/-- The entries of a list of addresses written earlier, in its order. -/
def entriesOfList (urls : List CanonicalUrl) : List FrontierEntry :=
  urls.map fun url => FrontierEntry.of url "url-list"

end Archiver
