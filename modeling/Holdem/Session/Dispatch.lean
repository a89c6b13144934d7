import Holdem.Ledger.Submission
import Holdem.Session.Calls

/-!
# Carrying out intents

`Settings.dispatch` takes an intent from the check against the snapshot to its outcome. What can be
changed at once is changed before the answer arrives, and every change looks at the snapshot of its
own moment, because polls may have been merged since the last question.

A solo bet is played out here: the simulated opponent replies, and when that closes the round the
next street or the showdown follows within the same action. Elsewhere a bet is submitted to the
ledger or the coordinator and applied once it is accepted.
-/

namespace Holdem

namespace Settings

/-! ## Dealing -/

/-- The seats of a hand and the seats named to the coordinator. With no opponents given the lobby
decides, and the coordinator is left to do the same. -/
def seats (settings : Settings) (tableId : UInt32) (opponents : List Address) :
    Step (List Address × List Address) := do
  if !settings.mode.isSolo && opponents.isEmpty then
    let lobby ← settings.call (.lobby tableId)
    let others ← Step.require (lobby.opponentsOf settings.hero) .seating
    let _ ← Step.require (seatsFor settings.mode settings.hero others) .seating
    return (lobby.wallets, [])
  else
    let seats ← Step.require (seatsFor settings.mode settings.hero opponents) .seating
    if settings.mode.isSolo then return (seats, [])
    else if (← Step.table).isSeated settings.hero then return (seats, seats)
    else
      let lobby ← settings.call (.lobby tableId)
      if settings.hero ∈ lobby.wallets then return (seats, seats)
      else throw (.seating .notJoined)

/-- Fetches the hero's private cards. Without them the hand goes on, so a failure is no failure of
the deal, and cards that do not exist are not kept. -/
def fetchHole (settings : Settings) (tableId : UInt32) : Step (Option (Card × Card)) := do
  match ← Step.attempt (settings.call (.cards tableId settings.hero)) with
  | .error _ => return none
  | .ok reply =>
    let cards : Card × Card := (⟨reply.first⟩, ⟨reply.second⟩)
    if cards.1.isValid && cards.2.isValid then
      Step.change fun table => table.storeHole settings.hero cards
      return some cards
    else return none

def start (settings : Settings) (tableId : UInt32) (opponents : List Address) : Step Outcome := do
  let (seats, named) ← settings.seats tableId opponents
  let handNumber ← Step.changeWith fun table =>
    let begun := table.beginHand settings.mode settings.hero seats settings.buyIn settings.soloStack
    some (begun, begun.handNumber)
  let reply ← settings.call (.deal tableId { players := named })
  Step.change fun table => table.noteProof reply.proofSize.toNat reply.transaction
  let hole ← settings.fetchHole tableId
  return .dealt handNumber reply.proofSize.toNat reply.transaction hole

/-! ## Seats -/

def submit (settings : Settings) (access : LedgerAccess) (invocation : Invocation) :
    Step String := do
  Step.require (← ExceptT.lift (access.submit settings.hero invocation)) .ledger

/-- Takes a seat: on the ledger first, where there is access to it, and then in the lobby. -/
def join (settings : Settings) (tableId : UInt32) (buyIn : Option Chips) : Step Outcome := do
  let buyIn := buyIn.getD settings.buyIn
  if let some access := settings.ledger then
    let hash ← settings.submit access (.join tableId settings.hero buyIn)
    Step.change fun table => { table with lastTransaction := some hash }
  let reply ← settings.call (.join tableId)
  Step.change fun table => table.takeSeat settings.hero reply.seat.toNat buyIn
  return .joined reply.seat.toNat reply.joinedWallets.toNat reply.maxPlayers.toNat

/-! ## Streets and showdown -/

/-- Reveals a street. Cards that do not exist are left out. -/
def reveal (settings : Settings) (tableId : UInt32) (street : Street) : Step Outcome := do
  let reply ← settings.call (.reveal tableId street)
  let cards := (reply.cards.map Card.mk).filter Card.isValid
  Step.change fun table =>
    table.showStreet street cards reply.proofSize.toNat reply.transaction
  return .revealed street cards

/-- The lobby, asked for only when a winner is not seated; one that cannot be had is done without.
-/
def lobbyFor (settings : Settings) (tableId : UInt32) (winner : Address) :
    Step (Option Lobby) := do
  if (← Step.table).isSeated winner then return none
  match ← Step.attempt (settings.call (.lobby tableId)) with
  | .ok lobby => return some lobby
  | .error _ => return none

def showdown (settings : Settings) (tableId : UInt32) : Step Outcome := do
  let reply ← settings.call (.showdown tableId)
  let lobby ← settings.lobbyFor tableId reply.winner
  let winner ← Step.changeWith fun table =>
    let winner := resolveWinner table lobby reply.winner reply.winnerSeat
    let decided := table.decide settings.mode settings.arithmetic winner
    some (decided reply.proofSize.toNat reply.transaction, winner)
  return .settled winner

/-! ## Bets -/

/-- Submits a bet and applies it once it is accepted. -/
def betOnChain (settings : Settings) (tableId : UInt32) (action : Action) : Step Outcome := do
  let transaction ←
    match settings.ledger with
    | some access => some <$> settings.submit access (.act tableId settings.hero action)
    | none => do
      let reply ← settings.call (.act tableId action)
      pure reply.transaction
  Step.changeWith fun table =>
    (table.applyAccepted? settings.arithmetic settings.hero action transaction).map
      fun table => (table, ())
  return .acted action transaction

/-- Applies the hero's solo bet. When it ends the hand, because the hero folds or is alone, the hand
is settled and the winner given; otherwise the opponent to reply and the table to reply to. -/
def openSoloBet (settings : Settings) (action : Action) (table : Table) :
    Option (Table × (Address ⊕ (Address × Table))) :=
  (table.act? settings.arithmetic settings.hero action).map fun (acted, _) =>
    let acted := acted.markUnconfirmed
    match (acted.players.find? fun player => player.address ≠ settings.hero).map Player.address with
    | none => (acted.settle settings.arithmetic settings.hero, .inl settings.hero)
    | some opponent =>
      if action = .fold then (acted.settle settings.arithmetic opponent, .inl opponent)
      else (acted, .inr (opponent, acted))

/-- How a solo betting step leaves the hand. -/
inductive SoloStand where
  | settled
  /-- The round goes on. -/
  | open
  /-- The round is closed by this street, or by the showdown. -/
  | closed (street : Option Street)

/-- Applies the opponent's reply. A fold settles the hand for the hero. -/
def closeSoloBet (settings : Settings) (opponent : Address) (reply : Action) (table : Table) :
    Option (Table × SoloStand) :=
  (table.act? settings.arithmetic opponent reply).map fun (acted, _) =>
    if reply = .fold then (acted.settle settings.arithmetic settings.hero, .settled)
    else if acted.isRoundClosed then (acted, .closed acted.phase.nextStreet?)
    else (acted, .open)

def betSolo (settings : Settings) (tableId : UInt32) (action : Action) : Step Outcome := do
  match ← Step.changeWith (settings.openSoloBet action) with
  | .inl winner => return .resolved action none (some (.settled winner))
  | .inr (opponent, table) =>
    let reply ← Step.ask (.reply table opponent)
    match ← Step.changeWith (settings.closeSoloBet opponent reply) with
    | .settled => return .resolved action (some reply) (some (.settled settings.hero))
    | .open => return .resolved action (some reply) none
    | .closed street =>
      let next ←
        match street with
        | some street => settings.reveal tableId street
        | none => settings.showdown tableId
      return .resolved action (some reply) (some next)

/-! ## Actions -/

/-- Carries out an intent that has passed its check. -/
def carryOut (settings : Settings) (tableId : UInt32) : Intent → Step Outcome
  | .start opponents => settings.start tableId opponents
  | .join buyIn => settings.join tableId buyIn
  | .bet action =>
    if settings.mode.isSolo then settings.betSolo tableId action
    else settings.betOnChain tableId action
  | .reveal street => settings.reveal tableId street
  | .showdown => settings.showdown tableId

/-- Checks an intent against the snapshot and carries it out. -/
def perform (settings : Settings) (intent : Intent) : Step Outcome := do
  let table ← Step.table
  Step.require (intent.check table settings.mode settings.hero) .intent
  settings.carryOut table.tableId intent

/-- Performs an intent while no other action can. -/
def dispatch (settings : Settings) (intent : Intent) : Step Outcome :=
  Step.exclusively (settings.perform intent)

def openTable (settings : Settings) (body : CreateRequest) : Step CreateReply := do
  let reply ← settings.call (.create body)
  Step.change fun _ => .opened reply.tableId
  return reply

def createTable (settings : Settings) (body : CreateRequest) : Step CreateReply :=
  Step.exclusively (settings.openTable body)

def openTables (settings : Settings) : Step OpenTables :=
  settings.call .openTables

def lobby (settings : Settings) : Step Lobby := do
  settings.call (.lobby (← Step.table).tableId)

def chainConfig (settings : Settings) : Step ChainConfig :=
  settings.call .chainConfig

def committee (settings : Settings) : Step CommitteeStatus :=
  settings.call .committee

end Settings

/-- Turns to another table; the old snapshot is forgotten. -/
def Step.selectTable (tableId : UInt32) : Step Unit :=
  Step.exclusively (Step.change fun _ => .opened tableId)

end Holdem
