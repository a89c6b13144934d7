import Holdem.Coordinator.Message
import Holdem.Envelope

/-!
# Calls of the coordinator

The coordinator brokers deals, reveals and showdowns. A call names its table and carries its body;
each kind of call has its own kind of reply. Calls that change something or show private cards are
made under a purpose, and carry credentials.
-/

namespace Holdem

inductive CoordinatorFault where
  /-- The request did not get through. -/
  | request (reason : String) (causes : List String)
  /-- The coordinator does not accept the sender. -/
  | unauthorized (code : Nat) (body : String)
  /-- The coordinator answered with another failing status. -/
  | status (code : Nat) (body : String)
  /-- The reply does not have the expected form. -/
  | decode (reason : String)
  deriving DecidableEq

namespace CoordinatorFault

def message : CoordinatorFault → String
  | .request reason _ => s!"Request failed: {reason}"
  | .unauthorized code body => s!"Unauthorized ({code}): {body}"
  | .status code body => s!"Coordinator returned {code}: {body}"
  | .decode reason => s!"Invalid response: {reason}"

/-- The kind of a fault, by which programs tell faults apart. -/
def kind : CoordinatorFault → String
  | .request _ _ => "Request"
  | .unauthorized _ _ => "Unauthorized"
  | .status _ _ => "Status"
  | .decode _ => "Decode"

def causes : CoordinatorFault → List String
  | .request reason causes => reason :: causes
  | _ => []

/-- The fault of a failing status: 401 and 403 refuse the sender. -/
def ofStatus (code : Nat) (body : String) : CoordinatorFault :=
  if code = 401 ∨ code = 403 then .unauthorized code body else .status code body

def isUnauthorized : CoordinatorFault → Bool
  | .unauthorized _ _ => true
  | _ => false

end CoordinatorFault

inductive CoordinatorCall where
  | deal (tableId : UInt32) (body : DealRequest)
  | reveal (tableId : UInt32) (street : Street)
  | showdown (tableId : UInt32)
  | act (tableId : UInt32) (action : Action)
  | state (tableId : UInt32)
  | cards (tableId : UInt32) (address : Address)
  | create (body : CreateRequest)
  | join (tableId : UInt32)
  | openTables
  | lobby (tableId : UInt32)
  | chainConfig
  | committee
  deriving DecidableEq

namespace CoordinatorCall

abbrev Reply : CoordinatorCall → Type
  | .deal _ _ => DealReply
  | .reveal _ _ => RevealReply
  | .showdown _ => ShowdownReply
  | .act _ _ => ActionReply
  | .state _ => StateReply
  | .cards _ _ => CardsReply
  | .create _ => CreateReply
  | .join _ => JoinReply
  | .openTables => OpenTables
  | .lobby _ => Lobby
  | .chainConfig => ChainConfig
  | .committee => CommitteeStatus

/-- The table of a call; zero for calls about no table. -/
def tableId : CoordinatorCall → UInt32
  | .deal tableId _ | .reveal tableId _ | .showdown tableId | .act tableId _ | .state tableId
  | .cards tableId _ | .join tableId | .lobby tableId => tableId
  | .create _ | .openTables | .chainConfig | .committee => 0

/-- The purpose that a call is signed for, if it carries credentials. -/
def purpose? : CoordinatorCall → Option Purpose
  | .deal _ _ => some .requestDeal
  | .reveal _ street => some (.requestReveal street)
  | .showdown _ => some .requestShowdown
  | .act _ action => some (.playerAction action)
  | .cards _ _ => some .playerCards
  | .create _ => some .createTable
  | .join _ => some .joinTable
  | .state _ | .openTables | .lobby _ | .chainConfig | .committee => none

def decodeReply? : (call : CoordinatorCall) → Json → Option call.Reply
  | .deal _ _ => Wire.decode?
  | .reveal _ _ => Wire.decode?
  | .showdown _ => Wire.decode?
  | .act _ _ => Wire.decode?
  | .state _ => Wire.decode?
  | .cards _ _ => Wire.decode?
  | .create _ => Wire.decode?
  | .join _ => Wire.decode?
  | .openTables => Wire.decode?
  | .lobby _ => Wire.decode?
  | .chainConfig => Wire.decode?
  | .committee => Wire.decode?

def encodeReply : (call : CoordinatorCall) → call.Reply → Json
  | .deal _ _ => Wire.encode
  | .reveal _ _ => Wire.encode
  | .showdown _ => Wire.encode
  | .act _ _ => Wire.encode
  | .state _ => Wire.encode
  | .cards _ _ => Wire.encode
  | .create _ => Wire.encode
  | .join _ => Wire.encode
  | .openTables => Wire.encode
  | .lobby _ => Wire.encode
  | .chainConfig => Wire.encode
  | .committee => Wire.encode

end CoordinatorCall

end Holdem
