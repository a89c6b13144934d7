import Holdem.Poll.Basic
import Holdem.Poll.Phase

/-!
# Merging a poll into the snapshot

A field that the poll has replaces the snapshot's; one that it lacks leaves it. The hand number
never goes down and negative amounts are ignored. The polled players decide who is seated, but known
players keep what the poll does not say, above all their private cards.

In a solo session chips and turns are simulated here, so a poll only moves the hand forward: phase,
board and counters. A hand that was settled here stays settled.
-/

namespace Holdem

/-- What a merge changed. -/
structure MergeReport where
  /-- A reported phase that stands for none. -/
  unmappedPhase : Option String := none
  /-- The polled board does not fit the phase. -/
  boardRejected : Bool := false
  /-- The polled hand number was ahead. -/
  newHand : Bool := false
  playersAdded : Nat := 0
  playersRemoved : Nat := 0
  deriving DecidableEq

def usableAmount (amount : Option Chips) : Option Chips :=
  amount.filter fun chips => 0 ≤ chips

namespace PolledPlayer

/-- A player of whom only the poll is known; the place in the polled list stands in for a missing
seat. -/
def newcomer (polled : PolledPlayer) (place : Nat) : Player :=
  { address := polled.address, seat := polled.seat.getD place, stack := 0 }

/-- Replaces what the poll says about a player. -/
def update (polled : PolledPlayer) (player : Player) : Player :=
  { player with
    seat := polled.seat.getD player.seat
    stack := (usableAmount polled.stack).getD player.stack
    bet := (usableAmount polled.bet).getD player.bet
    folded := polled.folded.getD player.folded
    allIn := polled.allIn.getD player.allIn }

end PolledPlayer

/-- Removes the element at an index by moving the last one into its place. -/
def swapRemove (elements : List α) (index : Nat) : List α :=
  match elements.getLast? with
  | none => []
  | some last => (elements.set index last).dropLast

/-- Orders players by seat; players of one seat keep their order. -/
def sortBySeat (players : List Player) : List Player :=
  players.mergeSort fun first second => first.seat ≤ second.seat

/-- The state of a walk through the polled players. -/
structure Reseating where
  /-- Players of the snapshot that no entry has named yet. -/
  waiting : List Player
  /-- Players seated so far, the latest first. -/
  seated : List Player := []
  added : Nat := 0

namespace Reseating

/-- Seats the player of one entry: the waiting player with its address, or a newcomer. -/
def seat (walk : Reseating) (place : Nat) (polled : PolledPlayer) : Reseating :=
  match walk.waiting.findIdx? fun player => player.address = polled.address with
  | some index =>
    { walk with
      waiting := swapRemove walk.waiting index
      seated :=
        (walk.waiting[index]?.map polled.update).toList ++ walk.seated }
  | none =>
    { walk with
      seated := polled.update (polled.newcomer place) :: walk.seated
      added := walk.added + 1 }

/-- Seats the players of all entries from a place on. -/
def seatAll (walk : Reseating) : Nat → List PolledPlayer → Reseating
  | _, [] => walk
  | place, polled :: rest => (walk.seat place polled).seatAll (place + 1) rest

end Reseating

namespace Table

def dropHoles (table : Table) : Table :=
  { table with players := table.players.map fun player => { player with hole := none } }

/-- Takes over the phase of a poll. A phase that stands for none is reported back. -/
def mergePhase (table : Table) (phase : Option String) : Table × Option String :=
  match phase with
  | none => (table, none)
  | some raw =>
    match reportedPhase? raw with
    | some phase => ({ table with phase }, none)
    | none => (table, some raw)

/-- Takes over a hand number that is ahead; the private cards of the old hand go. -/
def mergeHand (table : Table) (handNumber : Option UInt32) : Table × Bool :=
  match handNumber with
  | some number =>
    if table.handNumber < number then ({ table with handNumber := number }.dropHoles, true)
    else (table, false)
  | none => (table, false)

/-- Takes over the polled players; an empty list says nothing. Gives the players added and
removed. -/
def mergePlayers (table : Table) (polled : Option (List PolledPlayer)) : Table × Nat × Nat :=
  match polled with
  | none | some [] => (table, 0, 0)
  | some (first :: rest) =>
    let walk := Reseating.seatAll { waiting := table.players } 0 (first :: rest)
    ({ table with players := sortBySeat walk.seated.reverse }, walk.added, walk.waiting.length)

def mergeChips (table : Table) (poll : Poll) : Table × Nat × Nat :=
  { table with
    pot := (usableAmount poll.pot).getD table.pot
    currentTurn := poll.currentTurn.getD table.currentTurn }.mergePlayers poll.players

/-- Takes over a board that fits the phase; tells whether one was refused. -/
def mergeBoard (table : Table) (board : Option (List Card)) : Table × Bool :=
  match board with
  | none => (table, false)
  | some board =>
    if board.length ≤ table.phase.boardCapacity then ({ table with board }, false)
    else (table, true)

/-- Merges a poll. In a solo session chips, turn and players are kept, and after a local settlement
also the phase and the board. -/
def merge (table : Table) (mode : PlayMode) (poll : Poll) : Table × MergeReport :=
  let frozen := mode.isSolo && table.phase = .settlement
  let (table, unmappedPhase) := table.mergePhase (if frozen then none else poll.phase)
  let (table, newHand) := table.mergeHand poll.handNumber
  let table := { table with dealerSeat := poll.dealerSeat.getD table.dealerSeat }
  let (table, playersAdded, playersRemoved) :=
    if mode.isSolo then (table, 0, 0) else table.mergeChips poll
  let (table, boardRejected) := table.mergeBoard (if frozen then none else poll.board)
  ({ table.setPhase table.phase with confirmed := true },
    { unmappedPhase, boardRejected, newHand, playersAdded, playersRemoved })

end Table

end Holdem
