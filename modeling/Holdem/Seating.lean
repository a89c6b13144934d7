import Holdem.Coordinator.Message
import Holdem.Table.Basic
import Holdem.Wallet

/-!
# Seats

Who is dealt in, and who a reported winner is. Both questions join three sources: the snapshot, the
addresses that the contract seated, and the wallets behind them that the lobby knows.
-/

namespace Holdem

/-- Why a hand cannot be dealt. -/
inductive SeatingFault where
  | seatCount (mode : PlayMode) (got : Nat)
  | duplicate (address : Address)
  | selfAsOpponent
  | invalidAddress (address : String)
  | notJoined
  deriving DecidableEq

def SeatingFault.message : SeatingFault → String
  | .seatCount mode got =>
    let least := mode.seatBounds.1
    let most := mode.seatBounds.2
    s!"{mode.name} mode needs {least}-{most} players, got {got}"
  | .duplicate address => s!"Duplicate player address: {address}"
  | .selfAsOpponent => "Your own address cannot be an opponent"
  | .invalidAddress address => s!"Invalid Stellar address: {address}"
  | .notJoined => "You have not joined this table"

def SeatingFault.kind : SeatingFault → String
  | .seatCount _ _ => "SeatCount"
  | .duplicate _ => "Duplicate"
  | .selfAsOpponent => "SelfAsOpponent"
  | .invalidAddress _ => "InvalidAddress"
  | .notJoined => "NotJoined"

/-- The address that plays from a seat: the wallet, or else the address that the contract seated. -/
def LobbySeat.wallet (seat : LobbySeat) : Address :=
  seat.walletAddress.getD seat.chainAddress

namespace Lobby

/-- The wallet behind an address that the contract seated. -/
def walletForChain? (lobby : Lobby) (chainAddress : Address) : Option Address :=
  (lobby.seats.find? fun seat => seat.chainAddress = chainAddress).map LobbySeat.wallet

def walletForSeat? (lobby : Lobby) (seat : UInt32) : Option Address :=
  (lobby.seats.find? fun candidate => candidate.seat = seat).map LobbySeat.wallet

def wallets (lobby : Lobby) : List Address :=
  (lobby.seats.mergeSort fun first second => first.seat ≤ second.seat).map LobbySeat.wallet

/-- The wallets other than the hero's, who has to be among them. -/
def opponentsOf (lobby : Lobby) (hero : Address) : Except SeatingFault (List Address) :=
  if hero ∈ lobby.wallets then .ok (lobby.wallets.filter (· ≠ hero))
  else .error .notJoined

end Lobby

/-- Checks opponents one after another against the addresses already seen. -/
def checkOpponents (hero : Address) : List Address → List Address → Except SeatingFault Unit
  | _, [] => .ok ()
  | seen, opponent :: rest =>
    if opponent = hero then .error .selfAsOpponent
    else if !isAccountAddress opponent then .error (.invalidAddress opponent)
    else if opponent ∈ seen then .error (.duplicate opponent)
    else checkOpponents hero (opponent :: seen) rest

/-- The seats of a hand, the hero first. The number of players has to fit the mode, and the
opponents have to be distinct well-formed addresses of others; blanks around an address are dropped.
-/
def seatsFor (mode : PlayMode) (hero : Address) (opponents : List Address) :
    Except SeatingFault (List Address) :=
  let got := opponents.length + 1
  if got < mode.seatBounds.1 ∨ mode.seatBounds.2 < got then .error (.seatCount mode got)
  else
    let opponents := opponents.map Text.trim
    (checkOpponents hero [hero] opponents).map fun _ => hero :: opponents

/-- The identity behind a reported winner.

A seated address is meant itself; then the lobby's wallet for it, if that is seated; then whoever
sits in the reported seat; then the lobby's wallet for the seat. When nothing is known the reported
address stands. -/
def resolveWinner (table : Table) (lobby : Option Lobby) (winner : Address) (seat : UInt32) :
    Address :=
  if table.isSeated winner then winner
  else
    let behind := (lobby.bind fun lobby => lobby.walletForChain? winner).filter table.isSeated
    let sitting := (table.playerAt? seat.toNat).map Player.address
    let listed := lobby.bind fun lobby => lobby.walletForSeat? seat
    ((behind <|> sitting) <|> listed).getD winner

end Holdem
