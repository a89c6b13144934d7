import Holdem.Coordinator.Call
import Holdem.Net.Exchange

/-!
# The coordinator's web interface

Each kind of call has a method and a path below the coordinator's address. The credentials travel in
headers and the body as JSON. A reply is taken only from a successful response; the body of any
other response is the reason of a fault.
-/

namespace Holdem

/-- The coordinator's address without slashes at its end. -/
def coordinatorBase (url : String) : String :=
  String.ofList (Text.dropEnd (· = '/') url.toList)

namespace CoordinatorCall

/-- The method of a call: what only reads is got, everything else posted. -/
def method : CoordinatorCall → HttpMethod
  | .state _ | .cards _ _ | .openTables | .lobby _ | .chainConfig | .committee => .get
  | _ => .post

def tablePath (tableId : UInt32) : String :=
  "/table/" ++ toString tableId.toNat

def path : CoordinatorCall → String
  | .deal tableId _ => tablePath tableId ++ "/request-deal"
  | .reveal tableId street => tablePath tableId ++ "/request-reveal/" ++ street.name
  | .showdown tableId => tablePath tableId ++ "/request-showdown"
  | .act tableId _ => tablePath tableId ++ "/player-action"
  | .state tableId => tablePath tableId ++ "/state"
  | .cards tableId address => tablePath tableId ++ "/player/" ++ address ++ "/cards"
  | .create _ => "/tables/create"
  | .join tableId => tablePath tableId ++ "/join"
  | .openTables => "/tables/open"
  | .lobby tableId => tablePath tableId ++ "/lobby"
  | .chainConfig => "/chain-config"
  | .committee => "/committee/status"

def title : CoordinatorCall → String
  | .deal _ _ => "request-deal"
  | .reveal _ _ => "request-reveal"
  | .showdown _ => "request-showdown"
  | .act _ _ => "player-action"
  | .state _ => "table state"
  | .cards _ _ => "player cards"
  | .create _ => "create table"
  | .join _ => "join table"
  | .openTables => "open tables"
  | .lobby _ => "lobby"
  | .chainConfig => "chain config"
  | .committee => "committee status"

def body? : CoordinatorCall → Option Json
  | .deal _ body => some (Wire.encode body)
  | .act _ action => some (Wire.encode action.request)
  | .create body => some (Wire.encode body)
  | _ => none

def httpRequest (base : String) (credentials : Option Credentials) (call : CoordinatorCall) :
    HttpRequest where
  method := call.method
  url := base ++ "/api" ++ call.path
  headers := (credentials.map Credentials.headers).getD []
  body := call.body?

def readReply (call : CoordinatorCall) :
    Except ExchangeFault HttpResponse → Except CoordinatorFault call.Reply
  | .error fault => .error (.request fault.reason fault.causes)
  | .ok response =>
    if response.isSuccess then
      match response.json?.bind call.decodeReply? with
      | some reply => .ok reply
      | none =>
        .error (.decode s!"Failed to parse {call.title} response: {ExchangeFault.unreadableBody}")
    else
      .error <| .ofStatus response.status <|
        response.body.getD s!"Failed to read error response: {ExchangeFault.unreadableBody}"

end CoordinatorCall

end Holdem
