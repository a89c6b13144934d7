import Holdem.Session.Basic

/-!
# What the player sees

Plain-text renderings of the snapshot, of outcomes, of lobbies and of open tables. The player's own
address is shown as `you`, and a long address by its two ends.
-/

namespace Holdem.View

/-- A long address by its first five and last four characters. An address with characters outside
ASCII is never cut. -/
def shortAddress (address : Address) : String :=
  let letters := address.toList
  if letters.length ≤ 12 || letters.any fun c => 128 ≤ c.toNat then address
  else String.ofList (letters.take 5 ++ '…' :: letters.drop (letters.length - 4))

/-- How an address is shown to the hero. -/
def who (hero address : Address) : String :=
  if address = hero then "you" else shortAddress address

def cards (cards : List Card) : String :=
  " ".intercalate (cards.map Card.text)

/-- The flags of a player: dealer, folded, all-in. -/
def flags (table : Table) (player : Player) : List String :=
  (if player.seat = table.dealerSeat then ["D"] else []) ++
    (if player.folded then ["folded"] else []) ++
    if player.allIn then ["all-in"] else []

def player (table : Table) (hero : Address) (player : Player) : String :=
  let marker := if player.seat = table.currentTurn && table.phase.isBettingRound then ">" else " "
  let hole :=
    match player.hole with
    | some (first, second) => " [" ++ first.text ++ " " ++ second.text ++ "]"
    | none => ""
  marker ++ " seat " ++ toString player.seat ++ " " ++
    Text.padRight 12 (who hero player.address) ++
    " stack " ++ Text.padLeft 12 (toString player.stack) ++
    " bet " ++ Text.padLeft 10 (toString player.bet) ++ hole ++ " " ++
    ",".intercalate (flags table player) ++ "\n"

def table (table : Table) (hero : Address) (mode : PlayMode) : String :=
  let board := if table.board.isEmpty then "-" else cards table.board
  let options := Intent.available table mode
  "Table " ++ toString table.tableId.toNat ++ " | hand #" ++ toString table.handNumber ++ " | " ++
    table.phase.name ++ " | " ++ mode.name ++ " mode" ++
    (if table.confirmed then "" else " (pending)") ++ "\n" ++
    "Board: " ++ board ++ "   Pot: " ++ toString table.pot ++ "\n" ++
    String.join (table.players.map (player table hero)) ++
    (match table.winner with
      | some winner => "Winner: " ++ who hero winner ++ "\n"
      | none => "") ++
    (match table.lastTransaction with
      | some hash => "Last tx: " ++ hash ++ "\n"
      | none => "") ++
    if options.isEmpty then "" else "Options: " ++ ", ".intercalate options ++ "\n"

def outcome : Outcome → String
  | .dealt handNumber proofSize _ hole =>
    let dealt := s!"Hand #{handNumber} dealt ({proofSize} byte proof)"
    match hole with
    | some (first, second) => dealt ++ ". Your cards: " ++ first.text ++ " " ++ second.text
    | none => dealt
  | .revealed street revealed => street.name ++ ": " ++ cards revealed
  | .settled winner => "Hand settled, winner " ++ shortAddress winner
  | .acted action transaction =>
    "You: " ++ action.text ++
      match transaction with
      | some hash => " (tx " ++ hash ++ ")"
      | none => ""
  | .resolved action reply next =>
    "You: " ++ action.text ++
      (match reply with
        | some reply => ", opponent: " ++ reply.text
        | none => "") ++
      match next with
      | some next => ". " ++ outcome next
      | none => ""
  | .joined seat joinedWallets maxPlayers =>
    s!"Joined seat {seat} ({joinedWallets}/{maxPlayers} seated)"

def openTables (listing : OpenTables) : String :=
  if listing.tables.isEmpty then "No open tables"
  else
    "\n".intercalate <| listing.tables.map fun table =>
      "  table " ++ toString table.tableId.toNat ++ " - " ++ table.phase ++ " - " ++
        toString table.joinedWallets.toNat ++ "/" ++ toString table.maxPlayers.toNat ++
        " seated, " ++ toString table.openSeats.toNat ++ " open"

def lobby (lobby : Lobby) : String :=
  "Table " ++ toString lobby.tableId.toNat ++ " (" ++ lobby.phase ++ ") " ++
    toString lobby.joinedWallets.toNat ++ "/" ++ toString lobby.maxPlayers.toNat ++ " seated\n" ++
    String.join (lobby.seats.map fun seat =>
      "  seat " ++ toString seat.seat.toNat ++ " " ++ seat.wallet ++ "\n")

end Holdem.View
