import Steward.Text.Line
import Steward.Web.Host

/-!
URLs in their written form: scheme and host in lower case, no default port, no dot segments, and percent
signs for the bytes that may not stand for themselves. The schemes of the web and that of files have paths
of segments and take a backslash for a slash; another scheme may have a path that is no hierarchy.
-/
namespace Steward.Web

open Steward.Text

structure Url where
  scheme : String
  /-- Whether two slashes stand behind the scheme. -/
  hasAuthority : Bool
  user : List Char
  /-- Not empty. -/
  password : Option (List Char)
  /-- Not empty. -/
  host : Option String
  /-- Other than the scheme's own. -/
  port : Option Nat
  path : List Char
  query : Option (List Char)
  fragment : Option (List Char)
deriving DecidableEq

inductive SchemeKind where
  | web
  | file
  | other
deriving DecidableEq

/-- The ports of the schemes of the web. -/
def webPorts : List (String × Nat) := [("http", 80), ("https", 443), ("ws", 80), ("wss", 443), ("ftp", 21)]

def kindOf (scheme : String) : SchemeKind :=
  if scheme = "file" then .file
  else if (webPorts.lookup scheme).isSome then .web
  else .other

namespace Url

def bare (scheme : String) : Url :=
  { scheme, hasAuthority := false, user := [], password := none, host := none, port := none, path := []
    query := none, fragment := none }

/-- User name and password, with the sign that divides them from the host. -/
def credentials (u : Url) : String :=
  match u.user, u.password with
  | [], none => ""
  | user, none => String.ofList user ++ "@"
  | user, some password => String.ofList user ++ ":" ++ String.ofList password ++ "@"

def text (u : Url) : String :=
  let authority := u.credentials ++ u.host.getD "" ++ match u.port with
    | some n => ":" ++ padded 1 n
    | none => ""
  -- A path with two slashes in front would be taken for an authority.
  let front :=
    if u.hasAuthority then "//" ++ authority
    else if ['/', '/'].isPrefixOf u.path then "/."
    else ""
  let behind (mark : String) (part : Option (List Char)) : String :=
    match part with
    | some cs => mark ++ String.ofList cs
    | none => ""
  u.scheme ++ ":" ++ front ++ String.ofList u.path ++ behind "?" u.query ++ behind "#" u.fragment

/-- Takes user name and password out, unless they are no texts. -/
def withoutUser (u : Url) : Url :=
  match unescaped? u.user with
  | none => u
  | some user =>
    if user.isEmpty && (u.password.bind unescaped?).isNone then u
    else { u with user := [], password := none }

end Url

/-- Drops controls and spaces around a URL and line breaks and tabs inside it. -/
def cleanUrl (s : String) : List Char :=
  let edge (c : Char) : Bool := c.toNat ≤ 0x20
  (dropEndWhile edge (s.toList.dropWhile edge)).filter fun c => c != '\t' && c != '\n' && c != '\r'

def isSchemeChar (c : Char) : Bool := c.isAlphanum || c = '+' || c = '-' || c = '.'

/-- The scheme in lower case and what follows its colon. -/
def cutScheme (cs : List Char) : Option (String × List Char) :=
  match cutAt ':' cs with
  | some (scheme, rest) =>
    if (scheme.head?.any Char.isAlpha) && scheme.all isSchemeChar then
      some (lower (String.ofList scheme), rest)
    else none
  | none => none

def SchemeKind.isSlash (k : SchemeKind) (c : Char) : Bool := c = '/' || (k ≠ .other && c = '\\')

def isTailMark (c : Char) : Bool := c = '?' || c = '#'

/-- Whether an authority ends here. -/
def SchemeKind.endsAuthority (k : SchemeKind) (c : Char) : Bool := k.isSlash c || isTailMark c

/-! Paths. A path is kept in reverse while it grows, and begins with a slash. -/

def isDot (segment : List Char) : Bool := ["." , "%2e"].contains (lower (String.ofList segment))

def isDoubleDot (segment : List Char) : Bool :=
  ["..", ".%2e", "%2e.", "%2e%2e"].contains (lower (String.ofList segment))

/-- The letter of a drive, with a colon or a bar. -/
def isDrive : List Char → Bool
  | [letter, mark] => letter.isAlpha && (mark = ':' || mark = '|')
  | _ => false

def isWrittenDrive (segment : List Char) : Bool := isDrive segment && segment.getLast? = some ':'

/-- Takes the last segment away; that of a file's drive stays. -/
def dropSegment (k : SchemeKind) (rev : List Char) : List Char :=
  let segment (rev : List Char) : List Char := (rev.takeWhile (· ≠ '/')).reverse
  let before := rev.drop 1
  let rev := if before.contains '/' && !isDrive (segment before) then before else rev
  if k = .file && isWrittenDrive (segment rev) then rev else rev.dropWhile (· ≠ '/')

/-- Adds an escaped segment, with a slash behind it unless it is the last one; and whether it was the drive
of a file, which gets a colon. At the front of a file's path a slash is put behind a drive. -/
def addSegment (k : SchemeKind) (rev segment : List Char) (isLast : Bool) : List Char × Bool :=
  let ended (rev : List Char) : List Char := if isLast then rev else '/' :: rev
  if isDoubleDot segment then
    let rev := dropSegment k rev
    (if rev.head? = some '/' then rev else ended rev, false)
  else if isDot segment then (rev, false)
  else if k = .file && isDrive segment then (ended (':' :: segment.take 1 ++ rev), true)
  else if k = .file && rev = ['/'] && isWrittenDrive (segment.take 2) then
    (ended ((segment.drop 2).reverse ++ '/' :: (segment.take 2).reverse ++ rev), false)
  else (ended (segment.reverse ++ rev), false)

def addSegments (k : SchemeKind) (rev : List Char) : List (List Char) → List Char × Bool
  | [] => (rev, false)
  | [last] => addSegment k rev last true
  | segment :: rest =>
    let (rev, isDrive) := addSegment k rev segment false
    let (rev, more) := addSegments k rev rest
    (rev, isDrive || more)

/-- A path that goes on behind a slash, and whether it begins with a drive. -/
def readPath (k : SchemeKind) (cs : List Char) : List Char × Bool :=
  let (rev, hasDrive) := addSegments k ['/'] ((cs.splitOnP k.isSlash).map (escape .path))
  let path := rev.reverse
  (if k = .file then '/' :: path.dropWhile (· = '/') else path, hasDrive)

/-- Cuts at the first mark, which goes with neither part. -/
def cutMark (mark : Char) (cs : List Char) : List Char × Option (List Char) :=
  match cutAt mark cs with
  | some (before, after) => (before, some after)
  | none => (cs, none)

/-- Adds the query and the fragment that stand behind a path. -/
def Url.withTail (u : Url) (k : SchemeKind) (tail : List Char) : Url :=
  let (front, fragment) := cutMark '#' tail
  let queryPart : UrlPart := if k = .other then .query else .webQuery
  let query := match front with
    | '?' :: query => some (escape queryPart query)
    | _ => none
  { u with query, fragment := fragment.map (escape .fragment) }

/-- Splits off what stands behind a path. -/
def cutTail (cs : List Char) : List Char × List Char :=
  (cs.takeWhile fun c => !isTailMark c, cs.dropWhile fun c => !isTailMark c)

/-- What stands before the last at sign, and what stands behind it. -/
def cutUser (authority : List Char) : Option (List Char) × List Char :=
  match cutAt '@' authority.reverse with
  | some (host, user) => (some user.reverse, host.reverse)
  | none => (none, authority)

def Url.withUser (u : Url) (cs : List Char) : Url :=
  let (user, password) := cutMark ':' cs
  { u with
    user := escape .userInfo user
    password := (password.filter fun p => !p.isEmpty).map (escape .userInfo) }

/-- The host, and what is left behind it; a colon in brackets does not end it. -/
def takeHost (isInside : Bool) : List Char → List Char × List Char
  | [] => ([], [])
  | c :: cs =>
    if c = ':' && !isInside then ([], c :: cs)
    else
      let (host, rest) := takeHost (if c = '[' then true else if c = ']' then false else isInside) cs
      (c :: host, rest)

/-- The port behind a host; none when it is not written or the scheme's own. -/
def readPort? (scheme : String) : List Char → Option (Option Nat)
  | [] => some none
  | [_] => some none
  | _ :: digits =>
    ((digits? digits).filter (· < 0x10000)).map fun n => if webPorts.lookup scheme = some n then none else some n

/-- A URL from behind the two slashes in front of its authority, which is not that of a file. -/
def readAuthority? (scheme : String) (cs : List Char) : Option Url := do
  let k := kindOf scheme
  let authority := cs.takeWhile fun c => !k.endsAuthority c
  let rest := cs.dropWhile fun c => !k.endsAuthority c
  let (user, hostPort) := cutUser authority
  let (host, port) := takeHost false hostPort
  -- In the port, every scheme takes a backslash for a slash.
  let (port, rest) := (port.takeWhile (· ≠ '\\'), port.dropWhile (· ≠ '\\') ++ rest)
  let u := { Url.bare scheme with hasAuthority := true }.withUser (user.getD [])
  let written ← if k = .web then webHost? host else opaqueHost? host
  let port ← readPort? scheme port
  let (path, tail) := cutTail rest
  let isBare := written.isEmpty
  if isBare && (!u.credentials.isEmpty || hostPort.head? = some ':' || (user = some [] && !rest.isEmpty)) then none
  else
    let path := match path with
      | [] => if k = .other then [] else ['/']
      | c :: more => (readPath k (if k.isSlash c then more else c :: more)).1
    return { u with host := if isBare then none else some written, port, path }.withTail k tail

/-- The host of a file and what is left behind it. The local host is none, and neither is a drive. -/
def fileHost? (cs : List Char) : Option (Option String × List Char) :=
  let host := cs.takeWhile fun c => !SchemeKind.file.endsAuthority c
  if isDrive host then some (none, cs)
  else if host.isEmpty then some (none, cs)
  else (webHost? host).map fun written =>
    (if written = "localhost" then none else some written, cs.drop host.length)

/-- A URL of a file from behind its colon. -/
def readFile? (cs : List Char) : Option Url :=
  let u := { Url.bare "file" with hasAuthority := true }
  let isSlash := SchemeKind.file.isSlash
  let finish (host : Option String) (cs : List Char) : Url :=
    let (front, tail) := cutTail cs
    let (path, hasDrive) := readPath .file front
    { u with host := if hasDrive then none else host, path }.withTail .file tail
  match cs with
  | a :: b :: rest =>
    if isSlash a && isSlash b then
      (fileHost? rest).map fun
        | (none, rest) => finish none rest
        | (some host, c :: rest) => finish (some host) (if isSlash c then rest else c :: rest)
        | (some host, []) => finish (some host) []
    else some (finish none (if isSlash a then b :: rest else a :: b :: rest))
  | [a] => some (finish none (if isSlash a then [] else [a]))
  | [] => some (finish none [])

/-- A URL of any other scheme from behind its colon. -/
def readOther? (scheme : String) : List Char → Option Url
  | '/' :: '/' :: rest => readAuthority? scheme rest
  | '/' :: rest =>
    let (path, tail) := cutTail rest
    some ({ Url.bare scheme with path := (readPath .other path).1 }.withTail .other tail)
  | cs =>
    let (path, tail) := cutTail cs
    some ({ Url.bare scheme with path := escape .opaquePart path }.withTail .other tail)

def Url.read? (s : String) : Option Url := do
  let (scheme, rest) ← cutScheme (cleanUrl s)
  match kindOf scheme with
  | .file => readFile? rest
  | .web => readAuthority? scheme (rest.dropWhile SchemeKind.web.isSlash)
  | .other => readOther? scheme rest

end Steward.Web
