import Holdem.Json.Printer
import Holdem.Json.Reader
import Holdem.Net.Url.Reader

/-!
# Exchanges over the web

A request goes out and a response comes back, or the exchange fails: the text given is no address,
or no request can be sent to the address, or the request could not be carried. Who carries the
request says only why it could not be carried; the wording around that, with the address in normal
form, is the same for everyone.
-/

namespace Holdem

inductive HttpMethod where
  | get
  | post
  deriving DecidableEq

def HttpMethod.name : HttpMethod → String
  | .get => "GET"
  | .post => "POST"

structure HttpRequest where
  method : HttpMethod
  url : String
  headers : List (String × String) := []
  body : Option Json := none

structure HttpResponse where
  status : Nat
  /-- The body as text; a body that breaks off has none. -/
  body : Option String

namespace HttpResponse

def isSuccess (response : HttpResponse) : Bool :=
  200 ≤ response.status && response.status < 300

def json? (response : HttpResponse) : Option Json :=
  response.body.bind Json.parse

end HttpResponse

/-- Why no request can be sent to an address. -/
inductive UrlRefusal where
  | scheme
  | form
  deriving DecidableEq

def UrlRefusal.message : UrlRefusal → String
  | .scheme => "URL scheme is not allowed"
  | .form => "Parsed Url is not a valid Uri"

namespace Url

/-- The most bytes of an address in a request. -/
def maxSize : Nat := 65534

/-- The characters of a host's name that a request cannot contain. -/
def unsendable : List Char := ['"', '\x60', '\x7b', '\x7d']

/-- Why no request can be sent to the address, if so. -/
def refusal? (url : Url) : Option UrlRefusal :=
  if url.host?.isNone || !(url.scheme = "http" || url.scheme = "https") then some .scheme
  else if (url.host?.any fun host => host.text.toList.any unsendable.contains) ||
      maxSize < url.text.utf8ByteSize then
    some .form
  else none

end Url

/-- Why an exchange failed: what happened, and the reasons behind it, the nearest first. -/
structure ExchangeFault where
  reason : String
  causes : List String
  deriving DecidableEq

namespace ExchangeFault

/-- The failure of a request to no web address. -/
def ofUrl (fault : UrlFault) : ExchangeFault where
  reason := "builder error"
  causes := [fault.message]

/-- The failure of a request to an address that none can be sent to. -/
def ofRefusal (url : Url) (refusal : UrlRefusal) : ExchangeFault where
  reason := "builder error for url (" ++ url.text ++ ")"
  causes := [refusal.message]

/-- The failure to carry a request to an address. -/
def ofCarrier (url : Url) (causes : List String) : ExchangeFault where
  reason := "error sending request for url (" ++ url.text ++ ")"
  causes

/-- The reasons of a carrier without a network. It can look up no name but that of its own machine,
and reach no address. -/
def withoutNetwork (url : Url) : List String :=
  let unreachable := ["tcp connect error", "Network is unreachable (os error 101)"]
  "client error (Connect)" ::
    match url.host? with
    | some (.name name) =>
      if name = "localhost" then unreachable
      else
        ["dns error", "failed to lookup address information: Temporary failure in name resolution"]
    | _ => unreachable

/-- What is said of a body that cannot be read. -/
def unreadableBody : String := "error decoding response body"

end ExchangeFault

def HttpRequest.exchange {m : Type → Type} [Monad m]
    (carry : Url → HttpRequest → m (Except (List String) HttpResponse)) (request : HttpRequest) :
    m (Except ExchangeFault HttpResponse) := do
  match (Url.read request.url).map Url.withoutUser with
  | .error fault => return .error (.ofUrl fault)
  | .ok url =>
    match url.refusal? with
    | some refusal => return .error (.ofRefusal url refusal)
    | none => return (← carry url request).mapError (.ofCarrier url)

end Holdem
