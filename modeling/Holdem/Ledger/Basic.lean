import Holdem.Json.Printer
import Holdem.Wallet

/-!
# Calls of the table contract

Bets and joins can go straight to the table contract. Such a call is assembled into a transaction,
signed by the wallet, submitted, and then watched until the ledger says how it ended.
-/

namespace Holdem

inductive ContractArgument where
  | word (value : UInt32)
  | address (account : Address)
  | amount (chips : Chips)
  | action (action : Action)
  deriving DecidableEq

/-- The JSON form of an amount: a decimal text, because amounts have 128 bits. -/
def amountJson (chips : Chips) : Json :=
  .text (toString chips)

/-- The JSON form of an action in a contract call. -/
def Action.contractJson : Action → Json
  | .fold => .text "Fold"
  | .check => .text "Check"
  | .call => .text "Call"
  | .allIn => .text "AllIn"
  | .bet chips => .record [("Bet", amountJson chips)]
  | .raise chips => .record [("Raise", amountJson chips)]

/-- An argument as the command line of the contract tool takes it. -/
def ContractArgument.text : ContractArgument → String
  | .word value => toString value.toNat
  | .address account => account
  | .amount chips => toString chips
  | .action chosen => chosen.contractJson.print

/-- A contract method with its named arguments. -/
structure Invocation where
  method : String
  arguments : List (String × ContractArgument)
  deriving DecidableEq

namespace Invocation

def act (tableId : UInt32) (player : Address) (action : Action) : Invocation where
  method := "player_action"
  arguments :=
    [("table_id", .word tableId), ("player", .address player), ("action", .action action)]

def join (tableId : UInt32) (player : Address) (buyIn : Chips) : Invocation where
  method := "join_table"
  arguments :=
    [("table_id", .word tableId), ("player", .address player), ("buy_in", .amount buyIn)]

/-- The words of the contract tool's command line: the method, then each argument after its name. -/
def words (invocation : Invocation) : List String :=
  invocation.method :: invocation.arguments.flatMap fun (name, argument) =>
    ["--" ++ name, argument.text]

end Invocation

inductive LedgerFault where
  | build (reason : String)
  | wallet (fault : WalletFault)
  | submit (reason : String)
  /-- The transaction ended with a failure. -/
  | rejected (hash : String) (reason : String)
  /-- The transaction did not end while it was watched. -/
  | timeout (hash : String) (attempts : Nat)
  | rpc (reason : String)
  deriving DecidableEq

def LedgerFault.message : LedgerFault → String
  | .build reason => s!"Failed to build transaction: {reason}"
  | .wallet fault => s!"Transaction signing failed: {fault.message}"
  | .submit reason => s!"Submission rejected: {reason}"
  | .rejected hash reason => s!"Transaction {hash} failed: {reason}"
  | .timeout hash attempts => s!"Transaction {hash} not confirmed after {attempts} attempts"
  | .rpc reason => s!"RPC error: {reason}"

def LedgerFault.kind : LedgerFault → String
  | .build _ => "Build"
  | .wallet fault => fault.kind
  | .submit _ => "Submit"
  | .rejected _ _ => "Rejected"
  | .timeout _ _ => "ConfirmationTimeout"
  | .rpc _ => "Rpc"

def LedgerFault.causes : LedgerFault → List String
  | .wallet fault => [fault.message]
  | _ => []

/-- How a submitted transaction stands. -/
inductive TransactionStatus where
  | pending
  | success
  | failed (reason : String)
  deriving DecidableEq

inductive LedgerCall where
  /-- Assemble the transaction of an invocation, paid for by `source`. -/
  | build (source : Address) (invocation : Invocation)
  /-- Submit a signed transaction. -/
  | submit (envelope : String)
  /-- Ask how a transaction stands. -/
  | status (hash : String)
  deriving DecidableEq

/-- The kind of reply of a ledger call: an envelope, a hash or a status. -/
abbrev LedgerCall.Reply : LedgerCall → Type
  | .build _ _ => String
  | .submit _ => String
  | .status _ => TransactionStatus

/-- How long a submitted transaction is watched. -/
structure Watch where
  /-- How often its status is asked for. -/
  attempts : Nat
  /-- The pause between two questions, in milliseconds. -/
  delay : Nat
  attempts_pos : 0 < attempts := by decide
  deriving DecidableEq

namespace Watch

/-- Thirty questions, a second apart. -/
def standard : Watch where
  attempts := 30
  delay := 1000

/-- A watch with the given number of attempts; no attempts count as one. -/
def ofAttempts (attempts delay : Nat) : Watch where
  attempts := max 1 attempts
  delay
  attempts_pos := by omega

end Watch

structure LedgerAccess where
  /-- The name of the network, which signatures are bound to. -/
  networkPassphrase : String
  watch : Watch := .standard

end Holdem
