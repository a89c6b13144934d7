import Holdem.Betting
import Holdem.Poll.Merge
import Holdem.Seating

/-!
# The steps of a hand

How the snapshot changes when a hand is dealt, a seat is taken, a street is revealed and a hand is
decided. These are the optimistic changes of the local player's own actions; all of them but the
notes of a deal leave the snapshot unconfirmed until the next poll.
-/

namespace Holdem

/-- The name of the simulated opponent when a table has none. -/
def simulatedOpponent : Address := "simulated-opponent"

namespace Table

/-- A cleared table at the start of a hand. -/
def clearedForHand (table : Table) : Table :=
  { table with
    phase := .preflop
    board := []
    handNumber := table.handNumber + 1
    winner := none
    pot := 0
    players := table.players.map Player.fresh }

/-- Adds a player in the next free seat. -/
def seatNext (table : Table) (address : Address) (stack : Chips) : Table :=
  { table with players := table.players ++ [{ address, seat := table.nextFreeSeat, stack }] }

/-- Seats the hero and an opponent where they are missing, and refills empty stacks. -/
def seatSolo (table : Table) (hero : Address) (stack : Chips) : Table :=
  let table := if table.isSeated hero then table else table.seatNext hero stack
  let table :=
    if table.players.any fun player => player.address ≠ hero then table
    else table.seatNext simulatedOpponent stack
  { table with
    players := table.players.map fun player =>
      if player.stack ≤ 0 then { player with stack } else player }

/-- Seats a list of addresses in order, each with the same stack. An empty list leaves the players
as they are. -/
def seatAll (table : Table) (addresses : List Address) (stack : Chips) : Table :=
  if addresses.isEmpty then table
  else
    { table with
      players := addresses.zipIdx.map fun (address, seat) => { address, seat, stack } }

/-- Begins a hand before the coordinator has dealt it. -/
def beginHand (table : Table) (mode : PlayMode) (hero : Address) (seats : List Address)
    (buyIn soloStack : Chips) : Table :=
  let cleared := table.clearedForHand
  let seated := if mode.isSolo then cleared.seatSolo hero soloStack else cleared.seatAll seats buyIn
  seated.markUnconfirmed

/-- Notes the proof and the transaction of an action. -/
def noteProof (table : Table) (size : Nat) (transaction : Option String) : Table :=
  { table with lastProofSize := some size }.noteTransaction transaction

/-- Gives a seated player its private cards. -/
def storeHole (table : Table) (address : Address) (cards : Card × Card) : Table :=
  table.updatePlayer address fun player => { player with hole := some cards }

/-- Seats a player who has just joined, unless the address is seated already. -/
def takeSeat (table : Table) (address : Address) (seat : Nat) (buyIn : Chips) : Table :=
  let seated :=
    if table.isSeated address then table
    else { table with players := sortBySeat (table.players ++ [{ address, seat, stack := buyIn }]) }
  seated.markUnconfirmed

/-- Applies an action of a player that was accepted elsewhere. -/
def applyAccepted? (table : Table) (arithmetic : Arithmetic) (address : Address) (action : Action)
    (transaction : Option String) : Option Table :=
  (table.act? arithmetic address action).map fun (table, _) =>
    (table.noteTransaction transaction).markUnconfirmed

/-- Shows the cards of a street. A table still in the phase before moves on; one that a poll has
moved elsewhere keeps its phase, and only the street's own phase takes the cards. -/
def showStreet (table : Table) (street : Street) (cards : List Card) (proofSize : Nat)
    (transaction : Option String) : Table :=
  let moved :=
    if table.phase = street.requestedFrom then (table.setPhase street.phase).resetBets else table
  let shown := if moved.phase = street.phase then moved.extendBoard cards else moved
  (shown.noteProof proofSize transaction).markUnconfirmed

/-- Ends the hand for a winner. Only a solo table pays the pot out; elsewhere the authority does. -/
def decide (table : Table) (mode : PlayMode) (arithmetic : Arithmetic) (winner : Address)
    (proofSize : Nat) (transaction : Option String) : Table :=
  let decided :=
    if mode.isSolo then table.settle arithmetic winner
    else { table.setPhase .settlement with winner := some winner }
  (decided.noteProof proofSize transaction).markUnconfirmed

end Table

end Holdem
