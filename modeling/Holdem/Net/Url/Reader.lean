import Holdem.Net.Url
import Holdem.Text.Integer

/-!
# Reading web addresses

The text of an address is cleared of blanks at its ends and of line breaks, and then read from left
to right: the scheme, the authority after two slashes, the path up to a question mark, the query up
to a number sign, and the fragment. How strictly each is read depends on the scheme. Dot segments of
a path are resolved, and every character that may not stand for itself is encoded.
-/

namespace Holdem.Url

/-- How the addresses of a scheme are read. -/
inductive Manner where
  /-- The address has a host, and a backslash is a slash. -/
  | web
  /-- The address may name a host, and its path may name a drive. -/
  | file
  /-- All else, where most is kept as it is given. -/
  | other
  deriving DecidableEq

def Manner.ofScheme (scheme : String) : Manner :=
  if scheme ∈ ["http", "https", "ws", "wss", "ftp"] then .web
  else if scheme = "file" then .file
  else .other

def impliedNumber? (scheme : String) : Option Nat :=
  if scheme = "http" || scheme = "ws" then some 80
  else if scheme = "https" || scheme = "wss" then some 443
  else if scheme = "ftp" then some 21
  else none

def fragmentReserved : List Char := [' ', '"', '<', '>', '\x60']

def pathReserved : List Char := fragmentReserved ++ ['#', '?', '\x7b', '\x7d']

/-- What the name and the password of a user encode. -/
def userReserved : List Char :=
  pathReserved ++ ['/', ':', ';', '=', '@', '[', '\\', ']', '^', '|']

def queryReserved (manner : Manner) : List Char :=
  [' ', '"', '#', '<', '>'] ++ if manner = .other then [] else ['\x27']

def isSlash (manner : Manner) (c : Char) : Bool :=
  c = '/' || (c = '\\' && manner ≠ .other)

/-- Whether a character ends the path: a query or a fragment follows. -/
def endsPath (c : Char) : Bool := c = '?' || c = '#'

/-- Whether a segment stands for the place it is in. -/
def isHere (segment : List Char) : Bool :=
  Text.lower (String.ofList segment) ∈ [".", "%2e"]

/-- Whether a segment stands for the place above. -/
def isAbove (segment : List Char) : Bool :=
  Text.lower (String.ofList segment) ∈ ["..", ".%2e", "%2e.", "%2e%2e"]

/-- Whether a segment names a drive, above which no path leads. -/
def isDrive : List Char → Bool
  | [letter, mark] => letter.isAlpha && (mark = ':' || mark = '|')
  | _ => false

/-- Resolves dot segments; `above` are the segments so far, the last one first. -/
def resolve (above : List (List Char)) : List (List Char) → List (List Char)
  | [] => above.reverse
  | segment :: rest =>
    if isAbove segment then
      let above := if above.head?.any isDrive then above else above.drop 1
      resolve (if rest.isEmpty then [] :: above else above) rest
    else if isHere segment then resolve (if rest.isEmpty then [] :: above else above) rest
    else resolve (segment :: above) rest

/-- The segments of a path without its first slash. -/
def resolved (manner : Manner) (letters : List Char) : List (List Char) :=
  resolve [] (letters.splitOnP (isSlash manner))

def pathOf (segments : List (List Char)) : UrlPath :=
  .segments (segments.map (Text.percentEncode pathReserved))

/-- The user in an authority, if one is named. -/
def readUser? (letters : List Char) : Option UrlUser :=
  let (name, password) := Text.cut ':' letters
  if name.isEmpty && password.isEmpty then none
  else
    some
      { name := Text.percentEncode userReserved name
        password := Text.percentEncode userReserved password }

/-- What stands before and after the last `@`. -/
def splitUser (letters : List Char) : List Char × List Char :=
  let after := letters.reverse.takeWhile (· ≠ '@')
  ((letters.take (letters.length - after.length - 1)), after.reverse)

/-- The host and what follows it from the first colon outside brackets on. -/
def splitHost (inBrackets : Bool) : List Char → List Char × List Char
  | [] => ([], [])
  | c :: rest =>
    if c = ':' && !inBrackets then ([], c :: rest)
    else
      let (host, rest) := splitHost (if c = '[' then true else c ≠ ']' && inBrackets) rest
      (c :: host, rest)

/-- The number after a host, and what follows it from a backslash on. -/
def readNumber (scheme : String) (letters : List Char) :
    Except UrlFault (Option Nat × List Char) := do
  let (digits, rest) := (letters.drop 1).span (· ≠ '\\')
  match Text.magnitude 65535 .tooLarge digits 0 with
  | .error _ => throw .invalidNumber
  | .ok number =>
    let isImplied := digits.isEmpty || some number = impliedNumber? scheme
    return (if isImplied then none else some number, rest)

/-- Reads an authority. What it leaves is the beginning of the path, and `isEnd` tells that nothing
follows it in the text. An authority may be left empty only outside the web. -/
def readAuthority (scheme : String) (isEnd : Bool) (letters : List Char) :
    Except UrlFault (UrlAuthority × List Char) := do
  let manner := Manner.ofScheme scheme
  let (named, place) := splitUser letters
  let user := readUser? named
  let (host, numbered) := splitHost false place
  if host.isEmpty then
    let isLoneMark := letters.head? = some '@' && named.isEmpty
    if manner = .web || user.isSome || !numbered.isEmpty || (isLoneMark && !isEnd) then
      throw .emptyHost
    else return ({ host := none }, [])
  else
    let host ← if manner = .web then Host.read host else Host.readKept host
    let (portNumber, rest) ← readNumber scheme numbered
    return ({ user, host := some host, portNumber }, rest)

/-- Reads what follows the two slashes of a scheme other than `file`. -/
def readAfterSlashes (scheme : String) (letters : List Char) :
    Except UrlFault (UrlAuthority × UrlPath × List Char) := do
  let manner := Manner.ofScheme scheme
  let (authority, rest) := letters.span fun c => !(isSlash manner c || endsPath c)
  let (authority, left) ← readAuthority scheme rest.isEmpty authority
  let (path, rest) := (left ++ rest).span fun c => !endsPath c
  let segments :=
    match path with
    | [] => if manner = .web then [[]] else []
    | c :: path => resolved manner (if isSlash manner c then path else c :: path)
  return (authority, pathOf segments, rest)

/-- The host of a file, and its path. A drive is no host, and the own machine is not named. -/
def readFileHost (letters : List Char) : Except UrlFault (Option Host × List Char) := do
  let (host, path) := letters.span fun c => !isSlash .file c
  if isDrive host then return (none, letters)
  else if host.isEmpty then return (none, path.drop 1)
  else
    match ← Host.read host with
    | .name "localhost" => return (none, path.drop 1)
    | host => return (some host, path.drop 1)

/-- Reads what follows the scheme `file`. A path that names a drive needs no host, and one has no
empty segments at its start. -/
def readFile (letters : List Char) : Except UrlFault (UrlAuthority × UrlPath × List Char) := do
  let (place, rest) := letters.span fun c => !endsPath c
  let (slashes, bare) := (place.take 2, place.drop 2)
  let (host, path) ←
    if slashes.length = 2 && slashes.all (isSlash .file) then readFileHost bare
    else if slashes.head?.any (isSlash .file) then pure (none, place.drop 1)
    else pure (none, place)
  let segments := resolved .file path
  let host := if segments.any isDrive then none else host
  let segments := segments.map fun segment =>
    if isDrive segment then segment.take 1 ++ [':'] else segment
  let segments := segments.dropWhile (·.isEmpty)
  return ({ host }, pathOf (if segments.isEmpty then [[]] else segments), rest)

/-- The scheme, in small letters, and what follows its colon. -/
def readScheme (letters : List Char) : Except UrlFault (String × List Char) :=
  let (scheme, rest) := letters.span fun c => c.isAlphanum || c = '+' || c = '-' || c = '.'
  if (scheme.head?.any Char.isAlpha) && rest.head? = some ':' then
    .ok (Text.lower (String.ofList scheme), rest.drop 1)
  else .error .relative

/-- The authority and the path that follow a scheme, and the rest. -/
def readPlace (scheme : String) (letters : List Char) :
    Except UrlFault (Option UrlAuthority × UrlPath × List Char) := do
  match Manner.ofScheme scheme with
  | .web =>
    let (authority, path, rest) ← readAfterSlashes scheme (letters.dropWhile (isSlash .web))
    return (some authority, path, rest)
  | .file =>
    let (authority, path, rest) ← readFile letters
    return (some authority, path, rest)
  | .other =>
    match letters with
    | '/' :: '/' :: letters =>
      let (authority, path, rest) ← readAfterSlashes scheme letters
      return (some authority, path, rest)
    | _ =>
      let (path, rest) := letters.span fun c => !endsPath c
      match path with
      | '/' :: path => return (none, pathOf (resolved .other path), rest)
      | _ => return (none, .plain (Text.percentEncode [] path), rest)

/-- The text without the blanks at its ends and the line breaks and tabs within. -/
def cleared (text : String) : List Char :=
  let isMargin (c : Char) : Bool := c.toNat ≤ 0x20
  (Text.dropEnd isMargin (text.toList.dropWhile isMargin)).filter fun c =>
    !(c = '\t' || c = '\n' || c = '\r')

def read (text : String) : Except UrlFault Url := do
  let (scheme, letters) ← readScheme (cleared text)
  let (authority, path, rest) ← readPlace scheme letters
  let (query, fragment) := rest.span (· ≠ '#')
  let reserved := queryReserved (Manner.ofScheme scheme)
  return {
    scheme, authority, path
    query := if query.isEmpty then none else some (Text.percentEncode reserved (query.drop 1))
    fragment :=
      if fragment.isEmpty then none
      else some (Text.percentEncode fragmentReserved (fragment.drop 1)) }

end Holdem.Url
