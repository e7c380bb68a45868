import Archiver.Url.Basic

namespace Archiver

/-- Control characters and spaces at the ends do not count, nor tabs and line ends anywhere. -/
def cleanUrlInput (s : List Char) : List Char :=
  let outer := fun (c : Char) => c.val ≤ 0x20
  let s := s.dropWhile outer
  let s := (s.reverse.dropWhile outer).reverse
  s.filter fun c => c != '\t' && c != '\n' && c != '\r'

def isSchemeChar (c : Char) : Bool :=
  isAsciiLetter c || isAsciiDigit c || c == '+' || c == '-' || c == '.'

/-- The scheme in lower case and the text after its colon. -/
def splitScheme (s : List Char) : Option (List Char × List Char) :=
  match s with
  | c :: _ =>
    if isAsciiLetter c then
      match s.dropWhile isSchemeChar with
      | ':' :: rest => some ((s.takeWhile isSchemeChar).map asciiLower, rest)
      | _ => none
    else none
  | [] => none

def isSlash (c : Char) : Bool := c == '/' || c == '\\'

/-- True for the characters that end the authority. -/
def endsAuthority (special : Bool) (c : Char) : Bool :=
  c == '/' || c == '?' || c == '#' || (special && c == '\\')

def parseHostText (special : Bool) (s : List Char) : Except UrlError Host :=
  match s with
  | '[' :: inner =>
    match inner.reverse with
    | ']' :: body =>
      match readIpv6? body.reverse with
      | some pieces => .ok (.ipv6 pieces)
      | none => .error .badIpv6
    | _ => .error .badIpv6
  | _ =>
    if special then
      match (decodeUtf8? (percentDecode s)).bind hostToAscii? with
      | none => .error .badName
      | some name =>
        if name.isEmpty then .error .noHost
        else if endsInNumber name then
          match readIpv4? name with
          | some address => .ok (.ipv4 address)
          | none => .error .badIpv4
        else .ok (.name name)
    else if s.any fun c => ['\x00', '\t', '\n', '\r', ' ', '#', '/', ':', '<', '>', '?', '@', '[',
        '\\', ']', '^', '|'].contains c then .error .badHostCharacter
    else .ok (.name (percentEncode isPlainAscii s))

/-- The host's text, up to a colon outside brackets or the end of the authority. -/
def takeHostText (special : Bool) : Bool → List Char → List Char × List Char
  | _, [] => ([], [])
  | inside, c :: rest =>
    if endsAuthority special c || (c == ':' && !inside) then ([], c :: rest)
    else
      let inside := if c == '[' then true else if c == ']' then false else inside
      let (host, after) := takeHostText special inside rest
      (c :: host, after)

/-- The digits after a colon and the text after them. -/
def parsePort (scheme s : List Char) : Except UrlError (Option Nat × List Char) :=
  let digits := s.takeWhile isAsciiDigit
  let rest := s.dropWhile isAsciiDigit
  let ends := match rest with
    | [] => true
    | c :: _ => c == '/' || c == '\\' || c == '?' || c == '#'
  if 65535 < decimalValue digits || !ends then .error .badPort
  else if digits.isEmpty || some (decimalValue digits) == defaultPort scheme then .ok (none, rest)
  else .ok (some (decimalValue digits), rest)

/-- Splits at the last `@` before the end of the authority. -/
def splitLogin (special : Bool) (s : List Char) : Option (List Char × List Char) :=
  let area := s.takeWhile fun c => !endsAuthority special c
  if area.contains '@' then
    let host := (area.reverse.takeWhile (· != '@')).reverse
    some (area.take (area.length - host.length - 1), host ++ s.drop area.length)
  else none

/-- User name and password; an empty password is none. -/
def parseLogin (s : List Char) : List Char × Option (List Char) :=
  match splitFirst (· == ':') s with
  | none => (percentEncode staysInUserinfo s, none)
  | some (user, password) =>
    (percentEncode staysInUserinfo user,
      if password.isEmpty then none else some (percentEncode staysInUserinfo password))

/-- Reads the authority after the two slashes. -/
def parseAuthority (scheme s : List Char) : Except UrlError (Authority × List Char) := do
  let special := isSpecialScheme scheme
  let (login, s) ← match splitLogin special s with
    | none => .ok (none, s)
    | some (login, rest) =>
      if login.isEmpty && (rest.head?.any (endsAuthority special)) then .error UrlError.noHost
      else .ok (some login, rest)
  let (hostText, rest) := takeHostText special false s
  if hostText.isEmpty && special then .error .noHost
  else
    let host ← if hostText.isEmpty then .ok none else (parseHostText special hostText).map some
    let (user, password) := parseLogin (login.getD [])
    let hasLogin := !user.isEmpty || password.isSome
    if host.isNone && (hasLogin || rest.head? == some ':') then .error .noHost
    else
      let (port, rest) ← match rest with
        | ':' :: digits => parsePort scheme digits
        | _ => .ok (none, rest)
      .ok (⟨user, password, host, port⟩, rest)

def isDot (s : List Char) : Bool := s.map asciiLower == ['%', '2', 'e'] || s == ['.']

def isDoubleDot (s : List Char) : Bool :=
  let s := s.map asciiLower
  s == ['.', '.'] || s == ".%2e".toList || s == "%2e.".toList || s == "%2e%2e".toList

/-- A letter and a colon or a bar. -/
def isDriveLetter (s : List Char) : Bool :=
  match s with
  | [c, mark] => isAsciiLetter c && (mark == ':' || mark == '|')
  | _ => false

/-- The segments without the last, last first; a drive letter stays. -/
def popSegment : List (List Char) → List (List Char)
  | [] => []
  | last :: front => if isDriveLetter last then last :: front else front

/-- Adds the segments of a path to those read before, both last first. Dot segments are resolved;
a final one leaves an empty segment. -/
def addSegments (file : Bool) : List (List Char) → List (List Char) → List (List Char)
  | stack, [] => stack
  | stack, segment :: rest =>
    let final := rest.isEmpty
    if isDoubleDot segment then
      let stack := popSegment stack
      addSegments file (if final then [] :: stack else stack) rest
    else if isDot segment then
      addSegments file (if final then [] :: stack else stack) rest
    else
      let segment := percentEncode staysInPath segment
      let segment := match segment with
        | [c, '|'] => if file && stack.isEmpty && isAsciiLetter c then [c, ':'] else segment
        | _ => segment
      addSegments file (segment :: stack) rest

def pathOfStack (stack : List (List Char)) : List Char :=
  stack.reverse.flatMap ('/' :: ·)

/-- Splits the text of a path from the query and fragment after it. -/
def takePath (s : List Char) : List Char × List Char :=
  (s.takeWhile fun c => c != '?' && c != '#', s.dropWhile fun c => c != '?' && c != '#')

/-- A path relative to the segments in `stack`, and the text after it. -/
def parsePathFrom (scheme : List Char) (stack : List (List Char)) (s : List Char) :
    List Char × List Char :=
  let (text, rest) := takePath s
  let separates := fun (c : Char) => c == '/' || (isSpecialScheme scheme && c == '\\')
  let file := isFileScheme scheme
  let path := pathOfStack (addSegments file stack (splitAll separates text))
  (if file then '/' :: path.dropWhile (· == '/') else path, rest)

/-- The path after an authority; only URLs of special schemes always have one. -/
def parsePathStart (scheme s : List Char) : List Char × List Char :=
  match s with
  | [] => if isSpecialScheme scheme then (['/'], []) else ([], [])
  | c :: rest =>
    if c == '/' || (isSpecialScheme scheme && c == '\\') then parsePathFrom scheme [] rest
    else if !isSpecialScheme scheme && (c == '?' || c == '#') then ([], s)
    else parsePathFrom scheme [] s

/-- Reads the query and the fragment. -/
def parseTail (scheme s : List Char) : Option (List Char) × Option (List Char) :=
  let fragment := match s.dropWhile (· != '#') with
    | _ :: f => some (percentEncode staysInFragment f)
    | [] => none
  let query := match s.takeWhile (· != '#') with
    | '?' :: q => some (percentEncode (staysInQuery (isSpecialScheme scheme)) q)
    | _ => none
  (query, fragment)

def withTail (scheme : List Char) (authority : Option Authority) (parts : List Char × List Char) :
    Url :=
  let (query, fragment) := parseTail scheme parts.2
  ⟨scheme, authority, parts.1, query, fragment⟩

/-- A URL from the authority on. -/
def parseFromAuthority (scheme s : List Char) : Except UrlError Url := do
  let (authority, rest) ← parseAuthority scheme s
  .ok (withTail scheme (some authority) (parsePathStart scheme rest))

/-- The segments of a path, last first, without the last. -/
def baseStack (path : List Char) : List (List Char) :=
  match splitAll (· == '/') path with
  | _ :: segments => (segments.reverse).drop 1
  | [] => []

/-- True if the text begins with a drive letter that ends there or before a slash. -/
def startsWithDriveLetter (s : List Char) : Bool :=
  isDriveLetter (s.take 2) && match s.drop 2 with
    | [] => true
    | c :: _ => isSlash c || c == '?' || c == '#'

def fileAuthority (host : Option Host) : Option Authority := some ⟨[], none, host, none⟩

def dropFragment (u : Url) : Url := { u with fragment := none }

/-- The rest of a URL relative to a base of segments. -/
def parseRelative (base : Url) (s : List Char) : Except UrlError Url :=
  let fromParts := fun (parts : List Char × List Char) =>
    Except.ok (withTail base.scheme base.authority parts)
  match s with
  | [] => .ok (dropFragment base)
  | '?' :: _ => fromParts (base.path, s)
  | '#' :: _ => .ok { base with fragment := (parseTail base.scheme s).2 }
  | c :: rest =>
    if isSlash c then
      match rest with
      | d :: after =>
        if isSlash d then
          parseFromAuthority base.scheme
            (if c == '/' && d == '/' then after else after.dropWhile isSlash)
        else fromParts (parsePathFrom base.scheme [] rest)
      | [] => fromParts (parsePathFrom base.scheme [] rest)
    else fromParts (parsePathFrom base.scheme (baseStack base.path) s)

/-- The host of a file URL; a drive letter in its place begins the path. -/
def parseFileHost (s : List Char) : Except UrlError (Option Host × List Char) :=
  let text := s.takeWhile fun c => !endsAuthority true c
  if isDriveLetter text then .ok (none, s)
  else if text.isEmpty then .ok (none, s.drop text.length)
  else do
    let host ← parseHostText true text
    .ok (if host == .name "localhost".toList then none else some host, s.drop text.length)

/-- The rest of a URL of the file scheme. -/
def parseFile (base : Option Url) (s : List Char) : Except UrlError Url :=
  let scheme := "file".toList
  let fromParts := fun (host : Option Host) (parts : List Char × List Char) =>
    Except.ok (withTail scheme (fileAuthority host) parts)
  match s with
  | a :: b :: rest =>
    if isSlash a && isSlash b then do
      let (host, rest) ← parseFileHost rest
      let parts := parsePathStart scheme rest
      let first := ((splitAll (· == '/') parts.1).drop 1).headD []
      fromParts (if isDriveLetter first then none else host) parts
    else fileFrom base (a :: b :: rest)
  | s => fileFrom base s
where
  fileFrom (base : Option Url) (s : List Char) : Except UrlError Url :=
    let scheme := "file".toList
    let fromParts := fun (host : Option Host) (parts : List Char × List Char) =>
      Except.ok (withTail scheme (fileAuthority host) parts)
    match s, base with
    | c :: rest, base =>
      if isSlash c then
        let first := base.map fun b => ((splitAll (· == '/') b.path).drop 1).headD []
        if startsWithDriveLetter rest then fromParts none (parsePathFrom scheme [] rest)
        else match first with
          | none => fromParts none (parsePathFrom scheme [] rest)
          | some first =>
            if isDriveLetter first then fromParts none (parsePathFrom scheme [first] rest)
            else fromParts (base.bind (·.host)) (parsePathFrom scheme [] rest)
      else match base with
        | none => fromParts none (parsePathFrom scheme [] s)
        | some base =>
          if c == '?' || c == '#' then parseRelative base s
          else if startsWithDriveLetter s then fromParts none (parsePathFrom scheme [] s)
          else parseRelative base s
    | [], some base => .ok (dropFragment base)
    | [], none => fromParts none (parsePathFrom scheme [] [])

/-- Reads a URL, relative to a base if there is one. -/
def Url.resolve (base : Option Url) (input : List Char) : Except UrlError Url :=
  let s := cleanUrlInput input
  match splitScheme s with
  | some (scheme, rest) =>
    if isFileScheme scheme then
      parseFile (base.filter fun b => isFileScheme b.scheme) rest
    else if isSpecialScheme scheme then
      let slashes := (rest.takeWhile isSlash).length
      match base with
      | some b =>
        if slashes < 2 && b.scheme == scheme then parseRelative b rest
        else parseFromAuthority scheme (rest.dropWhile isSlash)
      | none => parseFromAuthority scheme (rest.dropWhile isSlash)
    else match rest with
      | '/' :: '/' :: after => parseFromAuthority scheme after
      | '/' :: after => .ok (withTail scheme none (parsePathFrom scheme [] after))
      | _ =>
        let (text, tail) := takePath rest
        .ok (withTail scheme none (percentEncode isPlainAscii text, tail))
  | none =>
    match base with
    | none => .error .noBase
    | some base =>
      if s.head? == some '#' then .ok { base with fragment := (parseTail base.scheme s).2 }
      else if base.isRootless then .error .baseWithoutPath
      else if isFileScheme base.scheme then parseFile (some base) s
      else parseRelative base s

def Url.parse (input : List Char) : Except UrlError Url := Url.resolve none input

end Archiver
