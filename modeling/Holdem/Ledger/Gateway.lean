import Holdem.Ledger.Basic
import Holdem.Net.Exchange

/-!
# The way to the ledger

Transactions are assembled and signed by the contract tool, a program of the player's machine that
answers on its standard output. Signed transactions go to a node of the network, which answers calls
by name with a result or an error.
-/

namespace Holdem

/-- What a run of the contract tool left behind. -/
structure ToolOutput where
  code : Nat := 0
  out : String := ""
  err : String := ""
  deriving DecidableEq

/-- What is said when the contract tool could not be started. -/
def toolMissing (reason : String) : String :=
  s!"failed to run stellar CLI: {reason}"

/-- Where a contract lives. -/
structure Gateway where
  rpcUrl : String
  networkPassphrase : String
  contract : String
  deriving DecidableEq

namespace Gateway

/-! ## The contract tool -/

/-- The words that assemble the transaction of an invocation. -/
def buildWords (gateway : Gateway) (source : Address) (invocation : Invocation) : List String :=
  ["contract", "invoke", "--id", gateway.contract, "--source-account", source,
    "--rpc-url", gateway.rpcUrl, "--network-passphrase", gateway.networkPassphrase,
    "--build-only", "--"] ++ invocation.words

def readEnvelope : Except String ToolOutput → Except LedgerFault String
  | .error reason => .error (.build (toolMissing reason))
  | .ok output =>
    if output.code ≠ 0 then .error (.build (Text.trim output.err))
    else if Text.trim output.out = "" then .error (.build "empty transaction envelope")
    else .ok (Text.trim output.out)

/-! ## The node -/

/-- The request of a call by name. -/
def nodeRequest (gateway : Gateway) (method : String) (parameters : Json) : HttpRequest where
  method := .post
  url := gateway.rpcUrl
  body := some <| .record
    [("id", .integer 1), ("jsonrpc", .text "2.0"), ("method", .text method), ("params", parameters)]

def submitRequest (gateway : Gateway) (envelope : String) : HttpRequest :=
  gateway.nodeRequest "sendTransaction" (.record [("transaction", .text envelope)])

def statusRequest (gateway : Gateway) (hash : String) : HttpRequest :=
  gateway.nodeRequest "getTransaction" (.record [("hash", .text hash)])

def readResult (method : String) : Except ExchangeFault HttpResponse → Except LedgerFault Json
  | .error fault => .error (.rpc fault.reason)
  | .ok response =>
    match response.body.bind Json.parseValue with
    | none => .error (.rpc ExchangeFault.unreadableBody)
    | some answer =>
      match answer.member? "error", answer.member? "result" with
      | some fault, _ => .error (.rpc s!"{method} returned error: {fault.sorted.print}")
      | none, some result => .ok result
      | none, none => .error (.rpc s!"{method} missing result")

def textOf? (name : String) (result : Json) : Option String :=
  (result.member? name).bind Json.text?

def hashOf (result : Json) : Except LedgerFault String :=
  match (textOf? "status" result).getD "", textOf? "hash" result with
  | "PENDING", some hash | "DUPLICATE", some hash => .ok hash
  | "ERROR", _ =>
    let detail := (textOf? "errorResultXdr" result).getD "no error result"
    .error (.submit s!"transaction error: {detail}")
  | other, _ => .error (.submit s!"unexpected sendTransaction status '{other}'")

def statusOf (result : Json) : TransactionStatus :=
  match textOf? "status" result with
  | some "SUCCESS" => .success
  | some "FAILED" => .failed ((textOf? "resultXdr" result).getD "transaction failed")
  | _ => .pending

def readSubmission (answer : Except ExchangeFault HttpResponse) : Except LedgerFault String :=
  (readResult "sendTransaction" answer).bind hashOf

def readStatus (answer : Except ExchangeFault HttpResponse) :
    Except LedgerFault TransactionStatus :=
  (readResult "getTransaction" answer).map statusOf

end Gateway

namespace LocalKey

/-- The words that have the contract tool sign a transaction. -/
def signWords (key : LocalKey) (envelope networkPassphrase : String) : List String :=
  ["tx", "sign", envelope, "--sign-with-key", key.secret,
    "--network-passphrase", networkPassphrase]

def readSigned : Except String ToolOutput → Except WalletFault String
  | .error reason => .error (.unavailable (toolMissing reason))
  | .ok output =>
    if output.code ≠ 0 then .error (.rejected (Text.trim output.err))
    else if Text.trim output.out = "" then .error (.rejected "empty signed envelope")
    else .ok (Text.trim output.out)

end LocalKey

end Holdem
