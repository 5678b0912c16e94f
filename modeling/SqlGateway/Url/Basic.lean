import SqlGateway.Url.Host

/-! Addresses of databases.

        scheme "://" [user [":" password] "@"] host [":" port] path ["?" query] ["#" fragment]
        scheme ":" path ["?" query] ["#" fragment]

    Reading follows the living standard for schemes without rules of their own: the scheme is put in
    lower case, blanks around the text and line ends inside it are dropped, dots in a path are
    resolved, and every part is percent-encoded by its own set. An empty password is no password.
    The schemes of the web, where they occur, lower-case the host, drop their usual port and always
    have a path. -/

namespace SqlGateway

open Number (isDigit natText)
open Text (percentEncode)

/-- An address in parts, each in its encoded form. -/
structure Url where
  scheme : String
  hasAuthority : Bool
  user : String
  password : Option String
  host : String
  port : Option Nat
  path : String
  query : Option String
  fragment : Option String
  deriving DecidableEq, Repr

namespace Url

/-- Usual ports of the schemes of the web. -/
def webPorts : List (String × Nat) :=
  [("http", 80), ("https", 443), ("ws", 80), ("wss", 443), ("ftp", 21)]

def isWeb (scheme : String) : Bool := webPorts.any (·.1 == scheme)

def inFragmentSet (c : Char) : Bool := " \"<>\x60".toList.contains c

def inQuerySet (c : Char) : Bool := " \"#<>".toList.contains c

def inPathSet (c : Char) : Bool := inFragmentSet c || "#?\x7b\x7d".toList.contains c

def inUserSet (c : Char) : Bool := inPathSet c || "/:;=@[\\]^|".toList.contains c

def isSchemePart (c : Char) : Bool := c.isAlphanum || c == '+' || c == '-' || c == '.'

/-- Scheme and what follows its colon. -/
def splitScheme? (cs : List Char) : Option (String × List Char) :=
  match cs.takeWhile isSchemePart, cs.dropWhile isSchemePart with
  | c :: more, ':' :: rest =>
    if c.isAlpha then some (String.ofList ((c :: more).map Char.toLower), rest) else none
  | _, _ => none

/-- Does a path, a query or a fragment start here? -/
def endsAuthority (web : Bool) (c : Char) : Bool :=
  c == '/' || c == '?' || c == '#' || (web && c == '\\')

/-- Cut a text after its last at sign. -/
def splitUserinfo (cs : List Char) : Option (List Char × List Char) :=
  let tail := (cs.reverse.takeWhile (· != '@')).reverse
  if tail.length = cs.length then none else some (cs.take (cs.length - tail.length - 1), tail)

/-- User and password before the at sign. -/
def readUserinfo (cs : List Char) : String × Option String :=
  let encode (part : List Char) : String := String.ofList (percentEncode inUserSet part)
  let password := (cs.dropWhile (· != ':')).drop 1
  (encode (cs.takeWhile (· != ':')), if password.isEmpty then none else some (encode password))

/-- Characters of the host; a colon in brackets belongs to it. -/
def splitHost : Bool → List Char → List Char × List Char
  | _, [] => ([], [])
  | inside, c :: rest =>
    if c = ':' ∧ !inside then ([], c :: rest)
    else
      let within := if c = '[' then true else if c = ']' then false else inside
      let (host, tail) := splitHost within rest
      (c :: host, tail)

/-- The port after its colon; no digits are no port. -/
def readPort (cs : List Char) : Except Defect (Option Nat) :=
  if !cs.all isDigit || 65535 < Number.digitsValue 0 cs then .error .invalidPort
  else .ok (if cs.isEmpty then none else some (Number.digitsValue 0 cs))

/-- Is the segment one dot, plain or encoded? -/
def isSingleDot (segment : String) : Bool := [".", "%2e"].contains (Text.lower segment)

/-- Resolve dots in the segments of a path; `above` holds the segments so far, last one first. -/
def resolveDots : List String → List String → List String
  | above, [] => above.reverse
  | above, segment :: rest =>
    if isDoubleDot segment then
      resolveDots (if rest.isEmpty then "" :: above.drop 1 else above.drop 1) rest
    else if isSingleDot segment then resolveDots (if rest.isEmpty then "" :: above else above) rest
    else resolveDots (segment :: above) rest
where
  /-- Two dots, each plain or encoded. -/
  isDoubleDot (segment : String) : Bool :=
    ["..", "%2e.", ".%2e", "%2e%2e"].contains (Text.lower segment)

/-- A path after its first slash. -/
def readSegments (web : Bool) (cs : List Char) : String :=
  let parts := Text.splitChars '/' (if web then cs.map fun c => if c = '\\' then '/' else c else cs)
  let segments := parts.map fun part => String.ofList (percentEncode inPathSet part)
  "/" ++ "/".intercalate (resolveDots [] segments)

/-- Query and fragment after a path. -/
def readTail (web : Bool) (cs : List Char) : Option String × Option String :=
  let encode (inSet : Char → Bool) (part : List Char) : String :=
    String.ofList (percentEncode inSet part)
  let inSet (c : Char) : Bool := inQuerySet c || (web && c == '\'')
  let fragment := match cs.dropWhile (· != '#') with
    | '#' :: rest => some (encode inFragmentSet rest)
    | _ => none
  match cs with
  | '?' :: rest => (some (encode inSet (rest.takeWhile (· != '#'))), fragment)
  | _ => (none, fragment)

/-- Host and port of an authority. -/
def readLocation (web : Bool) (cs : List Char) : Except Defect (String × Option Nat) := do
  let (hostChars, afterHost) := splitHost false cs
  if web && hostChars.isEmpty then throw .emptyHost
  let host ← readHost (if web then hostChars.map Char.toLower else hostChars)
  if host.isEmpty && !afterHost.isEmpty then throw .emptyHost
  return (host, ← readPort (afterHost.drop 1))

/-- Does the path end here? -/
def endsPath (c : Char) : Bool := c == '?' || c == '#'

/-- The path behind an authority. -/
def readPath (web : Bool) (rest : List Char) : String :=
  match rest.takeWhile fun c => !endsPath c with
  | [] => if web then "/" else ""
  | _ :: more => readSegments web more

/-- Put an address together from what stands before the at sign, after it and behind the authority;
    a user needs a host. -/
def compose (scheme : String) (userinfo location rest : List Char) : Except Defect Url := do
  let web := isWeb scheme
  let (user, password) := readUserinfo userinfo
  let (host, port) ← readLocation web location
  if host.isEmpty && (!user.isEmpty || password.isSome) then throw .emptyHost
  let (query, fragment) := readTail web (rest.dropWhile fun c => !endsPath c)
  return { scheme, hasAuthority := true, user, password, host
           port := port.filter fun n => (webPorts.lookup scheme) != some n
           path := readPath web rest
           query, fragment }

/-- Read what follows the double slash of an authority. -/
def readAuthority (scheme : String) (cs : List Char) : Except Defect Url :=
  let authority := cs.takeWhile fun c => !endsAuthority (isWeb scheme) c
  let rest := cs.dropWhile fun c => !endsAuthority (isWeb scheme) c
  match splitUserinfo authority with
  | some (userinfo, location) =>
    if userinfo.isEmpty && location.isEmpty && !rest.isEmpty then .error .emptyHost
    else compose scheme userinfo location rest
  | none => compose scheme [] authority rest

/-- Read an address without authority. -/
def readPlain (scheme : String) (cs : List Char) : Url :=
  let pathChars := cs.takeWhile fun c => !endsPath c
  let path :=
    match pathChars with
    | '/' :: more =>
      let p := readSegments false more
      if "//".toList.isPrefixOf p.toList then "/." ++ p else p
    | _ => String.ofList (percentEncode (fun _ => false) pathChars)
  let (query, fragment) := readTail false (cs.dropWhile fun c => !endsPath c)
  { scheme, hasAuthority := false, user := "", password := none, host := "", port := none
    path, query, fragment }

/-- Is it a blank that does not count around an address? -/
def isEdge (c : Char) : Bool := c.toNat ≤ 0x20

/-- Is the character kept inside an address? -/
def isKept (c : Char) : Bool := c != '\t' && c != '\n' && c != '\r'

/-- The text without blanks around it and without line ends and tabs inside. -/
def cleaned (cs : List Char) : List Char :=
  (((cs.dropWhile isEdge).reverse.dropWhile isEdge).reverse).filter isKept

/-- Read what follows the colon of a scheme. -/
def readRest (scheme : String) (rest : List Char) : Except Defect Url :=
  if isWeb scheme then readAuthority scheme (rest.dropWhile fun c => c == '/' || c == '\\')
  else
    match rest with
    | '/' :: '/' :: more => readAuthority scheme more
    | _ => .ok (readPlain scheme rest)

/-- Read an address. -/
def ofText (s : String) : Except Defect Url :=
  match splitScheme? (cleaned s.toList) with
  | none => .error .relative
  | some (scheme, rest) => readRest scheme rest

/-- Text of an address. -/
def text (u : Url) : String :=
  let password := (u.password.map (":" ++ ·)).getD ""
  let userinfo := if u.user.isEmpty && u.password.isNone then "" else u.user ++ password ++ "@"
  let port := (u.port.map fun n => ":" ++ natText n).getD ""
  let authority := if u.hasAuthority then "//" ++ userinfo ++ u.host ++ port else ""
  u.scheme ++ ":" ++ authority ++ u.path ++ (u.query.map ("?" ++ ·)).getD "" ++
    (u.fragment.map ("#" ++ ·)).getD ""

/-- The address with asterisks in place of a password. -/
def masked (u : Url) : Url := { u with password := u.password.map fun _ => "****" }

/-- An address fit for showing: the masked address, or a remark if the text is none. -/
def maskedText (s : String) : String :=
  match ofText s with
  | .ok u => u.masked.text
  | .error _ => "<unparseable url>"

end Url

end SqlGateway
