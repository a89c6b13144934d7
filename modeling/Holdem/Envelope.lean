import Holdem.Action
import Holdem.Phase
import Holdem.Wallet

/-!
# Signed requests

A request that changes something, or that shows private cards, carries an envelope: a signature over
one line that binds the address, the table, the action, the nonce and the time. The bar between the
parts cannot occur in an address, so the line says which request was meant.

During development a request may instead name its sender without a signature.
-/

namespace Holdem

/-- The line that a signature covers. -/
def canonicalMessage (address : Address) (tableId : UInt32) (action : String) (nonce : Nat)
    (timestamp : Int) : String :=
  "stellar-poker|" ++ address ++ "|" ++ toString tableId.toNat ++ "|" ++ action ++ "|" ++
    toString nonce ++ "|" ++ toString timestamp

structure Envelope where
  address : Address
  nonce : Nat
  timestamp : Int
  signature : String
  message : String
  deriving DecidableEq

/-- How a request names its sender. -/
inductive Credentials where
  | signed (envelope : Envelope)
  | identity (address : Address)
  deriving DecidableEq

namespace Credentials

def address : Credentials → Address
  | .signed envelope => envelope.address
  | .identity address => address

/-- The headers of a request, in order. -/
def headers : Credentials → List (String × String)
  | .signed envelope =>
    [("x-player-address", envelope.address), ("x-auth-signature", envelope.signature),
      ("x-auth-nonce", toString envelope.nonce), ("x-auth-timestamp", toString envelope.timestamp)]
  | .identity address => [("x-player-address", address)]

end Credentials

inductive SigningFault where
  | wallet (fault : WalletFault)
  | missingAddress
  deriving DecidableEq

def SigningFault.message : SigningFault → String
  | .wallet fault => s!"Authentication failed: {fault.message}"
  | .missingAddress => "Signer has no address"

def SigningFault.kind : SigningFault → String
  | .wallet fault => fault.kind
  | .missingAddress => "MissingAddress"

def SigningFault.causes : SigningFault → List String
  | .wallet fault => [fault.message]
  | .missingAddress => []

/-- What a signature allows. -/
inductive Purpose where
  | createTable
  | joinTable
  | requestDeal
  | requestReveal (street : Street)
  | requestShowdown
  | playerAction (action : Action)
  | playerCards
  deriving DecidableEq

/-- The name of a purpose in the signed line. -/
def Purpose.label : Purpose → String
  | .createTable => "create_table"
  | .joinTable => "join_table"
  | .requestDeal => "request_deal"
  | .requestReveal street => "request_reveal:" ++ street.name
  | .requestShowdown => "request_showdown"
  | .playerAction action => "player_action:" ++ action.label
  | .playerCards => "get_player_cards"

end Holdem
