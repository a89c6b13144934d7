import Holdem.Net.Host

/-!
# Web addresses

An address in its parts, each in normal form, and the text of the whole, in which a failed request
is reported.
-/

namespace Holdem

/-- The path of an address: segments, each after a slash, or one text without structure. -/
inductive UrlPath where
  | segments (parts : List String)
  | plain (whole : String)
  deriving DecidableEq

namespace UrlPath

def text : UrlPath → String
  | .segments parts => String.join (parts.map ("/" ++ ·))
  | .plain whole => whole

end UrlPath

/-- Who asks: a name and a password, both encoded. Either may be empty, but not both. -/
structure UrlUser where
  name : String
  password : String
  deriving DecidableEq

namespace UrlUser

def text (user : UrlUser) : String :=
  user.name ++ (if user.password.isEmpty then "" else ":" ++ user.password) ++ "@"

end UrlUser

/-- What stands between the two slashes and the path. -/
structure UrlAuthority where
  user : Option UrlUser := none
  host : Option Host
  /-- The number after the host's colon, unless it is the scheme's own. -/
  portNumber : Option Nat := none
  deriving DecidableEq

namespace UrlAuthority

def text (authority : UrlAuthority) : String :=
  ((authority.user.map (·.text)).getD "") ++ ((authority.host.map (·.text)).getD "") ++
    match authority.portNumber with
    | some number => ":" ++ toString number
    | none => ""

end UrlAuthority

structure Url where
  scheme : String
  authority : Option UrlAuthority
  path : UrlPath
  query : Option String := none
  fragment : Option String := none
  deriving DecidableEq

namespace Url

def host? (url : Url) : Option Host := url.authority >>= (·.host)

/-- The beginning of the text, up to the path. A path that starts with two slashes is kept apart
from a scheme by a segment without effect, as it would be taken for a host. -/
def start (url : Url) : String :=
  url.scheme ++ ":" ++
    match url.authority, url.path with
    | some authority, _ => "//" ++ authority.text
    | none, .segments ("" :: _ :: _) => "/."
    | none, _ => ""

def text (url : Url) : String :=
  url.start ++ url.path.text ++
    (match url.query with
      | some query => "?" ++ query
      | none => "") ++
    match url.fragment with
    | some fragment => "#" ++ fragment
    | none => ""

/-- The address without its user, who is told to the host in another way. A user whose name is no
text stays, as does a lone password that is none. -/
def withoutUser (url : Url) : Url :=
  let tellable (user : UrlUser) : Bool :=
    match Text.percentDecode? user.name.toList with
    | none => false
    | some name => !name.isEmpty || (Text.percentDecode? user.password.toList).isSome
  { url with
    authority := url.authority.map fun authority =>
      { authority with user := authority.user.filter fun user => !tellable user } }

end Url

end Holdem
