import Holdem.Intent
import Holdem.Nonce
import Holdem.Procedure
import Holdem.Table.Hand

/-!
# Sessions

A session is one player's view of one table at a time: the snapshot, the nonces issued and whether
an action is under way. Actions of the player exclude each other; polls do not take part in that.
-/

namespace Holdem

/-- What a session remembers. -/
structure Session where
  table : Table
  nonces : NonceCounter := {}
  /-- Whether an action is under way. -/
  busy : Bool := false

/-- What is fixed for a session. -/
structure Settings where
  mode : PlayMode := .single
  /-- The address of the local player. -/
  hero : Address
  /-- How chips are added up. -/
  arithmetic : Arithmetic := .wrapping
  /-- Whether requests first go out without a signature; for development only. -/
  unsignedFirst : Bool := false
  /-- The stack of each seat that is dealt in. -/
  buyIn : Chips := 1000000000
  /-- The stack of seats made up for solo play. -/
  soloStack : Chips := 1000000000
  /-- Direct access to the ledger; without it bets go through the coordinator. -/
  ledger : Option LedgerAccess := none

/-- Why an action did not complete. -/
inductive ActionFault where
  | busy
  | intent (fault : IntentFault)
  | seating (fault : SeatingFault)
  | signing (fault : SigningFault)
  | coordinator (fault : CoordinatorFault)
  | ledger (fault : LedgerFault)
  deriving DecidableEq

namespace ActionFault

def message : ActionFault → String
  | .busy => "Another action is still in flight"
  | .intent fault => fault.message
  | .seating fault => fault.message
  | .signing fault => fault.message
  | .coordinator fault => fault.message
  | .ledger fault => fault.message

/-- The kind of a fault, by which programs tell faults apart: the part of the client where it arose,
and what happened there. -/
def kind : ActionFault → String
  | .busy => "Busy"
  | .intent fault => "Intent." ++ fault.kind
  | .seating fault => "Seating." ++ fault.kind
  | .signing fault => "Auth." ++ fault.kind
  | .coordinator fault => "Net." ++ fault.kind
  | .ledger fault => "Ledger." ++ fault.kind

def causes : ActionFault → List String
  | .busy | .intent _ | .seating _ => []
  | .signing fault => fault.causes
  | .coordinator fault => fault.causes
  | .ledger fault => fault.causes

/-- Whether the action was refused on the spot. -/
def isPrecondition : ActionFault → Bool
  | .busy | .intent _ | .seating _ => true
  | _ => false

end ActionFault

/-- What a completed intent did. -/
inductive Outcome where
  | dealt (handNumber : UInt32) (proofSize : Nat) (transaction : Option String)
    (hole : Option (Card × Card))
  | revealed (street : Street) (cards : List Card)
  | settled (winner : Address)
  /-- A bet that the ledger or the coordinator accepted. -/
  | acted (action : Action) (transaction : Option String)
  /-- A solo bet with the opponent's reply and what followed when the round closed. -/
  | resolved (action : Action) (reply : Option Action) (next : Option Outcome)
  | joined (seat : Nat) (joinedWallets : Nat) (maxPlayers : Nat)
  deriving Inhabited

/-- A step of an action: it asks, changes the session, and completes or fails. -/
abbrev Step (α : Type) : Type := ExceptT ActionFault (Procedure Session) α

namespace Session

/-- The session of a player who has just turned to a table. -/
def opened (tableId : UInt32) : Session := { table := .opened tableId }

def onTable (change : Table → Table) (session : Session) : Session :=
  { session with table := change session.table }

/-- Merges a poll, and tells what it changed. -/
def merge (session : Session) (mode : PlayMode) (poll : Poll) : Session × MergeReport :=
  let (table, report) := session.table.merge mode poll
  ({ session with table }, report)

/-- Takes the token, and tells whether it was free. -/
def take (session : Session) : Session × Bool :=
  ({ session with busy := true }, !session.busy)

/-- Gives the token back, and tells whether it was taken. -/
def giveBack (session : Session) : Session × Bool :=
  ({ session with busy := false }, session.busy)

end Session

namespace Step

def table : Step Table := ExceptT.lift do return (← Procedure.read).table

def change (update : Table → Table) : Step Unit :=
  ExceptT.lift (Procedure.modify (Session.onTable update))

/-- Changes the snapshot and gives a result of the change. -/
def changeWith (update : Table → Option (Table × α)) : Step α :=
  ExceptT.lift <| Procedure.step fun session =>
    (update session.table).map fun (table, result) => ({ session with table }, result)

def ask (request : Request) : Step request.Answer := ExceptT.lift (Procedure.question request)

def require (answer : Except ε α) (fault : ε → ActionFault) : Step α :=
  match answer with
  | .ok result => pure result
  | .error reason => throw (fault reason)

/-- Runs a step, and gives its failure as a result. -/
def attempt (step : Step α) : Step (Except ActionFault α) := ExceptT.lift step.run

/-- Gives the token back with the result of a step. -/
def release (result : Except ActionFault α) : Procedure Session (Except ActionFault α) :=
  .update (fun session => session.giveBack.1) fun _ => .finish result

/-- Takes the token for the time of a step. Whoever finds it taken is turned away, and it is given
back however the step ends. -/
def exclusively (step : Step α) : Step α :=
  ExceptT.mk <| .update (fun session => session.take.1) fun before =>
    if before.take.2 then step.run.bind release else .finish (.error .busy)

end Step

end Holdem
