import Archiver.Json
import Archiver.Progress.Record
import Archiver.Url.Parse

namespace Archiver

/-- One cookie as a browser exports it. -/
structure ExportedCookie where
  name : List Char
  value : List Char
  domain : List Char
  path : Option (List Char)
  secure : Bool
deriving DecidableEq, Inhabited

def JsonValue.bool? : JsonValue → Option Bool
  | .bool b => some b
  | _ => none

/-- A text, or null for none. -/
def JsonValue.textOrNull? : JsonValue → Option (Option (List Char))
  | .null => some none
  | .string (some text) => some (some text)
  | _ => none

/-- The value of a key that an object gives at most once. -/
def memberOnce? (key : String) (members : List (Option (List Char) × JsonValue)) :
    Option (Option JsonValue) :=
  match valuesOf key members with
  | [] => some none
  | [value] => some (some value)
  | _ => none

def ExportedCookie.ofFields? (name value domain path secure : Option JsonValue) :
    Option ExportedCookie := do
  return {
    name := ← name.bind JsonValue.text?
    value := ← value.bind JsonValue.text?
    domain := ← domain.bind JsonValue.text?
    path := ← (path.map JsonValue.textOrNull?).getD (some none)
    secure := ← (secure.map JsonValue.bool?).getD (some false) }

/-- An object with the fields of a cookie, or an array of their values in order; path and secure
may be left out. -/
def ExportedCookie.ofJson? : JsonValue → Option ExportedCookie
  | .array values =>
    if values.length ≤ 5 then
      ExportedCookie.ofFields? values[0]? values[1]? values[2]? values[3]? values[4]?
    else none
  | .object members => do
    if members.all (·.1.isSome) then
      ExportedCookie.ofFields? (← memberOnce? "name" members) (← memberOnce? "value" members)
        (← memberOnce? "domain" members) (← memberOnce? "path" members)
        (← memberOnce? "secure" members)
    else none
  | _ => none

def readCookieExport? (s : List Char) : Option (List ExportedCookie) :=
  match readJson? s with
  | some (.array items) => items.mapM ExportedCookie.ofJson?
  | _ => none

/-- The hosts a cookie is sent to. -/
inductive CookieScope where
  | host (name : List Char)
  | domain (name : List Char)
deriving DecidableEq

def CookieScope.name : CookieScope → List Char
  | .host name => name
  | .domain name => name

structure Cookie where
  name : List Char
  value : List Char
  scope : CookieScope
  path : List Char
  secureOnly : Bool
deriving DecidableEq

/-- The attributes of a cookie text; a later one takes the place of an earlier. A lifetime counts, but
not a date of expiry, for which there would have to be a clock. -/
structure CookieAttributes where
  domain : Option (List Char)
  path : Option (List Char)
  secure : Bool
  ended : Option Bool
deriving Inhabited

/-- A text up to the first equals sign, and from there on if there is one, both trimmed. -/
def splitPair (s : List Char) : List Char × Option (List Char) :=
  match splitFirst (· == '=') s with
  | none => (trim s, none)
  | some (name, value) => (trim name, some (trim value))

/-- A lifetime in seconds has ended if it is zero or negative; a text that is no number says
nothing. -/
def lifetimeEnded? (value : List Char) : Option Bool :=
  match value with
  | '-' :: digits => if digits.all isAsciiDigit then some true else none
  | digits =>
    if digits.all isAsciiDigit then some (!digits.isEmpty && decimalValue digits == 0) else none

def CookieAttributes.add (a : CookieAttributes) (part : List Char) : CookieAttributes :=
  let (name, value) := splitPair part
  match String.ofList (name.map asciiLower), value with
  | "secure", _ => { a with secure := true }
  | "domain", some value => if value.isEmpty then a else { a with domain := some value }
  | "path", some value => { a with path := some value }
  | "max-age", some value => { a with ended := (lifetimeEnded? value).or a.ended }
  | _, _ => a

def CookieAttributes.read (attributes : List (List Char)) : CookieAttributes :=
  attributes.foldl CookieAttributes.add ⟨none, none, false, none⟩

/-- True for a host that is a domain or lies below it; an IPv4 address lies below nothing. -/
def domainCovers (domain : List Char) : Host → Bool
  | .ipv4 address => domain == ipv4Text address
  | host => domain == host.text || endsWith ('.' :: domain) host.text

def CookieScope.covers : CookieScope → Host → Bool
  | .host name, h => name == h.text
  | .domain name, h => domainCovers name h

/-- The ASCII form of a domain; an IPv6 address in its brackets has only its letters lowered. -/
def canonicalDomain? (domain : List Char) : Option (List Char) :=
  if domain.head? == some '[' then some (domain.map asciiLower) else hostToAscii? domain

/-- The scope of a cookie set by a host; a domain that does not cover the host is refused. -/
def scopeOf? (host : Host) (domain : Option (List Char)) : Option CookieScope :=
  match domain with
  | none => some (.host host.text)
  | some domain =>
    match canonicalDomain? (trim domain) with
    | none => none
    | some name =>
      let name := (after? ['.'] name).getD name
      if name.isEmpty then some (.host host.text)
      else if domainCovers name host then some (.domain name)
      else none

/-- Cookies in the order they were first set. -/
structure CookieJar where
  cookies : List Cookie

def Cookie.replaces (new old : Cookie) : Bool :=
  new.name == old.name && new.scope.name == old.scope.name && new.path == old.path

/-- Puts a cookie in the place of the one that it replaces, or behind all others. -/
def putCookie (new : Cookie) : List Cookie → List Cookie
  | [] => [new]
  | old :: rest => if new.replaces old then new :: rest else old :: putCookie new rest

/-- Takes a cookie text that a host sets; one whose time has ended only drops what it replaces. -/
def CookieJar.set (jar : CookieJar) (host : Host) (text : List Char) : CookieJar :=
  match splitAll (· == ';') text with
  | [] => jar
  | pair :: attributes =>
    match splitPair pair with
    | (_, none) => jar
    | (name, some value) =>
      let a := CookieAttributes.read attributes
      match scopeOf? host a.domain with
      | none => jar
      | some scope =>
        let path := (a.path.filter fun p => p.head? == some '/').getD ['/']
        let new : Cookie := ⟨name, value, scope, path, a.secure⟩
        if name.isEmpty then jar
        else if a.ended == some true then ⟨jar.cookies.filter fun old => !new.replaces old⟩
        else ⟨putCookie new jar.cookies⟩

/-- The text that sets an exported cookie for its domain and path. -/
def ExportedCookie.text (c : ExportedCookie) (host : List Char) : List Char :=
  c.name ++ '=' :: c.value ++ "; Domain=".toList ++ host ++ "; Path=".toList ++ c.path.getD ['/']

/-- Takes an exported cookie as its own domain would set it; a domain that is no host is left
out. -/
def CookieJar.take (jar : CookieJar) (c : ExportedCookie) : CookieJar :=
  let host := c.domain.dropWhile (· == '.')
  let scheme := if c.secure then "https://" else "http://"
  match Url.parse (scheme.toList ++ host ++ ['/']) with
  | .error _ => jar
  | .ok origin =>
    match origin.host with
    | none => jar
    | some h => jar.set h (c.text host)

def CookieJar.ofExport (cookies : List ExportedCookie) : CookieJar :=
  cookies.foldl CookieJar.take ⟨[]⟩

/-- The jar that a cookie file holds; a file that cannot be read gives none. -/
def CookieJar.load? (bytes : Option (List UInt8)) : Option CookieJar :=
  ((bytes.bind decodeUtf8?).bind readCookieExport?).map CookieJar.ofExport

/-- A cookie's path covers itself and what lies below it. -/
def pathCovers (path request : List Char) : Bool :=
  match after? path request with
  | none => false
  | some rest => rest.isEmpty || endsWith ['/'] path || rest.head? == some '/'

/-- True if what is sent to a URL cannot be overheard. -/
def Url.isPrivate (u : Url) : Bool :=
  u.scheme == "https".toList ||
  match u.host with
  | some (.name text) => text == "localhost".toList
  | some (.ipv4 address) => address / 16777216 == 127
  | some (.ipv6 pieces) => pieces == [0, 0, 0, 0, 0, 0, 0, 1]
  | none => false

def Cookie.isFor (c : Cookie) (u : Url) : Bool :=
  u.host.any c.scope.covers && pathCovers c.path u.path && (!c.secureOnly || u.isPrivate)

def Cookie.pair (c : Cookie) : List Char := c.name ++ '=' :: c.value

/-- True for a character that a header may carry. -/
def isHeaderChar (c : Char) : Bool := c == '\t' || (0x20 ≤ c.val && c.val != 0x7F)

/-- The pairs sent to a URL; a pair that no header may carry keeps all of them back. -/
def CookieJar.pairs (jar : CookieJar) (u : Url) : List (List Char) :=
  let pairs := (jar.cookies.filter fun c => c.isFor u).map Cookie.pair
  if pairs.all fun pair => pair.all isHeaderChar then pairs else []

end Archiver
