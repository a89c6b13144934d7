import Holdem.Phase
import Holdem.Player

/-!
# The table snapshot

`Table` is what the client believes about the table at one moment. It is rebuilt from optimistic
updates and from polls, so the players are a list in seat order whose addresses may repeat when the
outside says so; the first player with an address is the one meant by it.
-/

namespace Holdem

/-- Applies `change` to the first element that satisfies `wanted`. -/
def updateFirst (wanted : α → Bool) (change : α → α) : List α → List α
  | [] => []
  | element :: rest =>
    if wanted element then change element :: rest
    else element :: updateFirst wanted change rest

/-- A snapshot of a table. -/
structure Table where
  tableId : UInt32
  phase : Phase := .waiting
  players : List Player := []
  pot : Chips := 0
  board : List Card := []
  /-- The seat whose turn it is. -/
  currentTurn : Nat := 0
  dealerSeat : Nat := 0
  /-- The number of the hand. After the largest one the count starts again at zero. -/
  handNumber : UInt32 := 0
  /-- The hash of the last transaction heard of. -/
  lastTransaction : Option String := none
  /-- The size in bytes of the last proof heard of. -/
  lastProofSize : Option Nat := none
  /-- Whether a poll has been merged since the last local change. -/
  confirmed : Bool := true
  winner : Option Address := none
  deriving DecidableEq

namespace Table

/-- The snapshot of a table about which nothing is known yet. -/
def opened (tableId : UInt32) : Table := { tableId }

def player? (table : Table) (address : Address) : Option Player :=
  table.players.find? fun player => player.address = address

def isSeated (table : Table) (address : Address) : Bool :=
  (table.player? address).isSome

def playerAt? (table : Table) (seat : Nat) : Option Player :=
  table.players.find? fun player => player.seat = seat

def updatePlayer (table : Table) (address : Address) (change : Player → Player) : Table :=
  { table with
    players := updateFirst (fun player => player.address = address) change table.players }

def livePlayers (table : Table) : List Player :=
  table.players.filter fun player => !player.folded

/-- Moves to a phase; board cards that it cannot hold are dropped. -/
def setPhase (table : Table) (phase : Phase) : Table :=
  { table with phase, board := table.board.take phase.boardCapacity }

/-- Lays cards on the board as long as the phase has room. -/
def extendBoard (table : Table) (cards : List Card) : Table :=
  { table with board := table.board ++ cards.take (table.phase.boardCapacity - table.board.length) }

def resetBets (table : Table) : Table :=
  { table with players := table.players.map fun player => { player with bet := 0 } }

/-- The largest bet of the round; zero at an empty table. -/
def highestBet (table : Table) : Chips :=
  match table.players with
  | [] => 0
  | first :: rest => rest.foldl (fun highest player => max highest player.bet) first.bet

/-- Notes a local change that no poll has confirmed. -/
def markUnconfirmed (table : Table) : Table :=
  { table with confirmed := false }

/-- The seat after the last one taken. The numbers of seats are words of 32 bits, and after the
largest comes zero. -/
def nextFreeSeat (table : Table) : Nat :=
  table.players.foldl (fun seat player => max seat ((player.seat + 1) % 4294967296)) 0

/-- Notes the hash of a transaction, if there is one. -/
def noteTransaction (table : Table) (hash : Option String) : Table :=
  { table with lastTransaction := hash <|> table.lastTransaction }

/-- Every chip on the table: all stacks and the pot. -/
def chips (table : Table) : Chips :=
  table.players.foldr (fun player total => player.stack + total) table.pot

/-- Every chip bet in the current round. -/
def roundBets (table : Table) : Chips :=
  table.players.foldr (fun player total => player.bet + total) 0

@[simp]
theorem setPhase_phase (table : Table) (phase : Phase) : (table.setPhase phase).phase = phase := rfl

@[simp]
theorem setPhase_players (table : Table) (phase : Phase) :
    (table.setPhase phase).players = table.players := rfl

/-- After a change of phase the board fits it. -/
theorem setPhase_board_length_le (table : Table) (phase : Phase) :
    (table.setPhase phase).board.length ≤ phase.boardCapacity :=
  List.length_take_le ..

/-- Laying cards down keeps a board that fits its phase fitting. -/
theorem extendBoard_board_length_le {table : Table} (cards : List Card)
    (fits : table.board.length ≤ table.phase.boardCapacity) :
    (table.extendBoard cards).board.length ≤ table.phase.boardCapacity := by
  have taken := List.length_take_le (table.phase.boardCapacity - table.board.length) cards
  simp only [extendBoard, List.length_append]
  omega

end Table

end Holdem
