import Archiver.Url.Canonical

namespace Archiver

/-- A pattern names one host, or with `*.` in front a domain and all hosts below it. -/
def hostMatches (pattern host : List Char) : Bool :=
  match after? ['*', '.'] pattern with
  | some domain => host == domain || endsWith ('.' :: domain) host
  | none => host == pattern

/-- What the address of an article looks like. -/
structure ArticleShape where
  hosts : List (List Char)
  paths : List (List Char)

/-- The shape for host patterns in any case and path beginnings with or without their last slash. -/
def ArticleShape.of (hosts paths : List (List Char)) : ArticleShape :=
  ⟨hosts.map lowercase, paths.map fun p => if endsWith ['/'] p then p else p ++ ['/']⟩

/-- A path is an article's if it adds one segment to a known beginning. -/
def ArticleShape.matchesPath (shape : ArticleShape) (path : List Char) : Bool :=
  shape.paths.any fun start =>
    match after? start path with
    | some rest => !rest.isEmpty && !rest.contains '/'
    | none => false

def ArticleShape.matches (shape : ArticleShape) (c : CanonicalUrl) : Bool :=
  match c.url with
  | .error _ => false
  | .ok u =>
    match u.hostText with
    | none => false
    | some host => shape.hosts.any (hostMatches · host) && shape.matchesPath u.path

end Archiver
