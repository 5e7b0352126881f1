import AttachmentIntake.Text.Blank
import AttachmentIntake.Web.Host

/-!
Absolute web addresses as clients read and write them: a scheme, mostly a host, and a path.
-/

namespace AttachmentIntake.Web

structure Address where
  scheme : String
  /-- As they are written, as all parts are. -/
  user : String
  password : Option String
  /-- Without one there is no `//` either. -/
  host : Option String
  port : Option Nat
  path : String
  query : Option String
  fragment : Option String
  deriving DecidableEq, Repr

namespace Address

def credentials (a : Address) : String :=
  if a.user.isEmpty && a.password.isNone then ""
  else a.user ++ (a.password.map (":" ++ ·)).getD "" ++ "@"

def text (a : Address) : String :=
  let authority :=
    match a.host with
    | some host => "//" ++ a.credentials ++ host ++ (a.port.map fun p => ":" ++ toString p).getD ""
    | none => if "//".isPrefixOf a.path then "/." else ""
  a.scheme ++ ":" ++ authority ++ a.path ++ (a.query.map ("?" ++ ·)).getD "" ++
    (a.fragment.map ("#" ++ ·)).getD ""

def isText (part : String) : Bool := (Text.Utf8.text? (Percent.bytes part.toList)).isSome

/-- Takes user name and password out of an address, unless they cannot be used as they are no
text. -/
def withoutCredentials (a : Address) : Address :=
  if isText a.user && (!a.user.isEmpty || a.password.any isText) then
    { a with user := "", password := none }
  else a

def target (a : Address) : String := a.path ++ (a.query.map ("?" ++ ·)).getD ""

/-- Schemes that always have a host, and their ports. -/
def ports : List (String × Nat) :=
  [("http", 80), ("https", 443), ("ws", 80), ("wss", 443), ("ftp", 21)]

def isLetter (c : Char) : Bool := c.isAlpha

def scheme? (cs : List Char) : Option (String × List Char) :=
  let (name, rest) := cs.span fun c => c.isAlphanum || c ∈ ['+', '-', '.']
  match name, rest with
  | first :: _, ':' :: rest =>
    if isLetter first then some (String.ofList (name.map Char.toLower), rest) else none
  | _, _ => none

/-! ### Parts in order -/

/-- The host and what stands behind the colon after it; a colon in brackets is none. -/
def splitPort (cs : List Char) : List Char × Option (List Char) :=
  let (bracketed, rest) :=
    match cs.head?, Text.splitFirst? ']' cs with
    | some '[', some (inner, rest) => (inner ++ [']'], rest)
    | some '[', none => (cs, [])
    | _, _ => ([], cs)
  match Text.splitFirst? ':' rest with
  | some (host, port) => (bracketed ++ host, some port)
  | none => (bracketed ++ rest, none)

def port? (cs : List Char) : Option (Option Nat) :=
  if cs.isEmpty then some none
  else if cs.all Char.isDigit then
    let n := Bytes.decimal (cs.map fun c => c.toNat.toUInt8)
    if n < 65536 then some (some n) else none
  else none

def pathEscapes : List Char := [' ', '"', '#', '<', '>', '?', '\x60', '\x7b', '\x7d']

def userEscapes : List Char := pathEscapes ++ ['/', ':', ';', '=', '@', '[', '\\', ']', '^', '|']

def userInfo (cs : List Char) : String × Option String :=
  let written (cs : List Char) : String := String.ofList (Percent.escape userEscapes cs)
  match Text.splitFirst? ':' cs with
  | some (name, []) => (written name, none)
  | some (name, password) => (written name, some (written password))
  | none => (written cs, none)

/-- What stands between the slashes and the path. -/
structure Authority where
  user : String
  password : Option String
  host : String
  port : Option Nat
  /-- A backslash ends a port. -/
  rest : List Char

/-- Reads an authority, of which the port is left out if it is the scheme's own. Only where nothing
depends on it the host may be empty; `isLast` says that nothing follows. -/
def authority? (scheme : String) (isSpecial isLast : Bool) (cs : List Char) :
    Option Authority := do
  let (named, place) :=
    match Text.splitLast? '@' cs with
    | some (named, place) => (some named, place)
    | none => (none, cs)
  let (user, password) := userInfo (named.getD [])
  let (host, port) := splitPort place
  let isNeeded := isSpecial || port.isSome || !user.isEmpty || password.isSome ||
    (named = some [] && !isLast)
  if host.isEmpty && isNeeded then none
  let host ← if host.isEmpty then some "" else Host.read? isSpecial host
  let (digits, rest) := (port.getD []).span (· ≠ '\\')
  let port ← port? digits
  let port := if port = ports.lookup scheme then none else port
  some { user, password, host, port, rest }

def cutPath (cs : List Char) : List Char × Option (List Char) × Option (List Char) :=
  let (front, fragment) :=
    match Text.splitFirst? '#' cs with
    | some (a, b) => (a, some b)
    | none => (cs, none)
  match Text.splitFirst? '?' front with
  | some (path, query) => (path, some query, fragment)
  | none => (front, none, fragment)

def isSingleDot (cs : List Char) : Bool :=
  ["." , "%2e"].contains (String.ofList (cs.map Char.toLower))

def isDoubleDot (cs : List Char) : Bool :=
  ["..", ".%2e", "%2e.", "%2e%2e"].contains (String.ofList (cs.map Char.toLower))

/-- Whether a segment is a letter and a colon or a bar, as a drive is named. -/
def isDrive : List Char → Bool
  | [letter, mark] => isLetter letter && (mark = ':' || mark = '|')
  | _ => false

/-- Resolves the dots among the segments, the latest segment first in `done`. A drive is not left by
two dots, and as the first segment of a file it is written with a colon. -/
def resolved (isFile : Bool) (done : List (List Char)) : List (List Char) → List (List Char)
  | [] => done.reverse
  | segment :: later =>
    if isDoubleDot segment then
      let kept := if done.head?.any isDrive then done else done.tail
      resolved isFile (if later.isEmpty then [] :: kept else kept) later
    else if isSingleDot segment then
      resolved isFile (if later.isEmpty then [] :: done else done) later
    else
      let segment := Percent.escape pathEscapes segment
      let segment :=
        if isFile && done.isEmpty && isDrive segment then segment.take 1 ++ [':'] else segment
      resolved isFile (segment :: done) later

def segments (isSpecial : Bool) (cs : List Char) : List (List Char) :=
  (if isSpecial then cs.map fun c => if c = '\\' then '/' else c else cs).splitOn '/'

def joined (segments : List (List Char)) : List Char := '/' :: ['/'].intercalate segments

def isSlash (c : Char) : Bool := c = '/' || c = '\\'

def afterSlash (isSpecial : Bool) (cs : List Char) : List Char :=
  match cs with
  | c :: rest => if c = '/' || (isSpecial && isSlash c) then rest else cs
  | [] => []

def segmentedPath (isSpecial : Bool) (cs : List Char) : String :=
  String.ofList (joined (resolved false [] (segments isSpecial (afterSlash isSpecial cs))))

def build (scheme : String) (isSpecial : Bool) (host : Option String) (path : String)
    (query fragment : Option (List Char)) : Address :=
  let queryEscapes := [' ', '"', '#', '<', '>'] ++ if isSpecial then ['\''] else []
  { scheme, user := "", password := none, host, port := none, path
    query := query.map fun q => String.ofList (Percent.escape queryEscapes q)
    fragment := fragment.map fun f =>
      String.ofList (Percent.escape [' ', '"', '<', '>', '\x60'] f) }

def withHost? (scheme : String) (isSpecial : Bool) (cs : List Char) : Option Address := do
  let ends (c : Char) : Bool := c = '/' || c = '?' || c = '#' || (isSpecial && c = '\\')
  let (place, rest) := cs.span fun c => !ends c
  let authority ← authority? scheme isSpecial rest.isEmpty place
  let (path, query, fragment) := cutPath (authority.rest ++ rest)
  let path := if path.isEmpty && !isSpecial then "" else segmentedPath isSpecial path
  some {
    build scheme isSpecial (some authority.host) path query fragment with
    user := authority.user
    password := authority.password
    port := authority.port }

/-- The host of a file and the path after its first slash. A drive is no host. -/
def filePlace? (cs : List Char) : Option (String × List Char) :=
  match cs with
  | a :: b :: rest =>
    if isSlash a && isSlash b then
      let (place, path) := rest.span fun c => !isSlash c
      if place.isEmpty || isDrive place then some ("", rest)
      else (Host.read? true place).map fun host =>
        if host = "localhost" then ("", path) else (host, afterSlash true path)
    else some ("", afterSlash true cs)
  | _ => some ("", afterSlash true cs)

/-- The address of a file, with a host only if it is another one and no drive is named. Slashes in
front of the path count once. -/
def file? (cs : List Char) : Option Address := do
  let (front, query, fragment) := cutPath cs
  let (host, path) ← filePlace? front
  let kept := resolved true [] (segments true path)
  let host := if kept.head?.any isDrive then "" else host
  let path := '/' :: (joined kept).dropWhile (· = '/')
  some (build "file" true (some host) (String.ofList path) query fragment)

/-- Blanks at the ends and line breaks anywhere are not part of an address. -/
def cleaned (cs : List Char) : List Char :=
  let isOuter (c : Char) : Bool := c.toNat ≤ 0x20
  let inner := ((cs.dropWhile isOuter).reverse.dropWhile isOuter).reverse
  inner.filter fun c => c ≠ '\t' && c ≠ '\n' && c ≠ '\r'

def parse? (s : String) : Option Address := do
  let (scheme, rest) ← scheme? (cleaned s.toList)
  if scheme = "file" then file? rest
  else if (ports.lookup scheme).isSome then withHost? scheme true (rest.dropWhile isSlash)
  else
    match rest with
    | '/' :: '/' :: rest => withHost? scheme false rest
    | _ =>
      let (path, query, fragment) := cutPath rest
      let path :=
        if rest.head? = some '/' then segmentedPath false path
        else String.ofList (Percent.escape [] path)
      some (build scheme false none path query fragment)

end Address

end AttachmentIntake.Web
