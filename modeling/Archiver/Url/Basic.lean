import Archiver.Url.Address
import Archiver.Url.Idna
import Archiver.Url.Percent

namespace Archiver

/-- Why a text is no URL. -/
inductive UrlError where
  | noHost
  | badName
  | badPort
  | badIpv4
  | badIpv6
  | badHostCharacter
  | noBase
  | baseWithoutPath
deriving DecidableEq

def UrlError.message : UrlError → String
  | .noHost => "empty host"
  | .badName => "invalid international domain name"
  | .badPort => "invalid port number"
  | .badIpv4 => "invalid IPv4 address"
  | .badIpv6 => "invalid IPv6 address"
  | .badHostCharacter => "invalid domain character"
  | .noBase => "relative URL without a base"
  | .baseWithoutPath => "relative URL with a cannot-be-a-base base"

inductive Host where
  | name (text : List Char)
  | ipv4 (address : Nat)
  | ipv6 (pieces : List Nat)
deriving DecidableEq

def Host.text : Host → List Char
  | .name text => text
  | .ipv4 address => ipv4Text address
  | .ipv6 pieces => '[' :: (ipv6Text pieces ++ [']'])

/-- What stands between the two slashes and the path. The host may be empty outside the web
schemes, and the port is absent where it is the scheme's own. -/
structure Authority where
  user : List Char
  password : Option (List Char)
  host : Option Host
  port : Option Nat
deriving DecidableEq

def Authority.text (a : Authority) : List Char :=
  let login := a.user ++ (a.password.map (':' :: ·)).getD []
  (if login.isEmpty then [] else login ++ ['@']) ++ (a.host.map Host.text).getD [] ++
    (a.port.map fun p => ':' :: p.repr.toList).getD []

/-- A parsed URL, every part in its percent-encoded form. -/
structure Url where
  scheme : List Char
  authority : Option Authority
  path : List Char
  query : Option (List Char)
  fragment : Option (List Char)
deriving DecidableEq

/-- A path that could be taken for a host gets a dot segment in front. -/
def Url.text (u : Url) : List Char :=
  let place := match u.authority with
    | some a => '/' :: '/' :: (a.text ++ u.path)
    | none => if startsWith ['/', '/'] u.path then '/' :: '.' :: u.path else u.path
  u.scheme ++ ':' :: (place ++ (u.query.map ('?' :: ·)).getD [] ++
    (u.fragment.map ('#' :: ·)).getD [])

def Url.host (u : Url) : Option Host := u.authority.bind (·.host)

def Url.hostText (u : Url) : Option (List Char) := u.host.map Host.text

/-- The schemes whose URLs always have a path of segments. -/
def isSpecialScheme (scheme : List Char) : Bool :=
  ["http", "https", "ws", "wss", "ftp", "file"].any fun s => s.toList == scheme

def isFileScheme (scheme : List Char) : Bool := scheme == "file".toList

def isWebScheme (scheme : List Char) : Bool :=
  scheme == "http".toList || scheme == "https".toList

def defaultPort (scheme : List Char) : Option Nat :=
  if scheme == "http".toList || scheme == "ws".toList then some 80
  else if scheme == "https".toList || scheme == "wss".toList then some 443
  else if scheme == "ftp".toList then some 21
  else none

/-- True if the URL has no segments that another could be relative to. -/
def Url.isRootless (u : Url) : Bool :=
  u.authority.isNone && !startsWith ['/'] u.path

end Archiver
