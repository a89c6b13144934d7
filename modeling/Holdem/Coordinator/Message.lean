import Holdem.Action
import Holdem.Json.Wire
import Holdem.Opponent

/-!
# Messages of the coordinator

The bodies of requests and replies, with their JSON form. Amounts of a request to open a table are
decimal texts, because they exceed what every JSON reader holds exactly; the amount of a betting
action is a plain integer.
-/

namespace Holdem

/-! ## Names -/

instance : Wire Phase where
  encode phase := Json.text phase.name
  decode? := Json.unit? (Phase.all.map fun phase => (phase.name, phase))

instance : Wire Street where
  encode street := Json.text street.name
  decode? := Json.unit? ([Street.flop, .turn, .river].map fun street => (street.name, street))

instance : Wire PlayMode where
  encode mode := Json.text mode.name
  decode? := Json.unit? ([PlayMode.single, .headsup, .multi].map fun mode => (mode.name, mode))

instance : Wire Difficulty where
  encode difficulty := Json.text difficulty.name
  decode? :=
    Json.unit? <|
      [Difficulty.easy, .standard, .tag].map fun difficulty => (difficulty.name, difficulty)

instance : Wire Card where
  encode card := Wire.encode card.code
  decode? json := (Wire.decode? json).map Card.mk

instance : Wire Action where
  encode
    | .fold => Json.text "Fold"
    | .check => Json.text "Check"
    | .call => Json.text "Call"
    | .bet amount => Json.record [("Bet", Json.integer amount)]
    | .raise amount => Json.record [("Raise", Json.integer amount)]
    | .allIn => Json.text "AllIn"
  decode?
    | .object [(some "Bet", amount)] => (Wire.decode? amount).map Action.bet
    | .object [(some "Raise", amount)] => (Wire.decode? amount).map Action.raise
    | json =>
      Json.unit? [("Fold", Action.fold), ("Check", .check), ("Call", .call), ("AllIn", .allIn)] json

/-! ## Bodies -/

/-- The seats of a hand, in order; none leaves them to the lobby. -/
structure DealRequest where
  players : List Address
  deriving DecidableEq

instance : Wire DealRequest where
  encode body := Json.record
    [("players", Wire.encode body.players)]
  decode? json := do
    let fields ← json.fields?
      [.required "players"]
    let [players] := fields | none
    some
      { players := ← Wire.decode? players }

structure DealReply where
  status : String
  deckRoot : String
  handCommitments : List String
  proofSize : UInt64
  sessionId : String
  transaction : Option String := none
  deriving DecidableEq

instance : Wire DealReply where
  encode body := Json.record
    [("status", Wire.encode body.status),
      ("deck_root", Wire.encode body.deckRoot),
      ("hand_commitments", Wire.encode body.handCommitments),
      ("proof_size", Wire.encode body.proofSize),
      ("session_id", Wire.encode body.sessionId),
      ("tx_hash", Wire.encode body.transaction)]
  decode? json := do
    let fields ← json.fields?
      [.required "status",
        .required "deck_root",
        .required "hand_commitments",
        .required "proof_size",
        .required "session_id",
        .optional "tx_hash"]
    let [status, deckRoot, handCommitments, proofSize, sessionId, transaction] := fields | none
    some
      { status := ← Wire.decode? status
        deckRoot := ← Wire.decode? deckRoot
        handCommitments := ← Wire.decode? handCommitments
        proofSize := ← Wire.decode? proofSize
        sessionId := ← Wire.decode? sessionId
        transaction := ← Wire.decode? transaction }

structure RevealReply where
  status : String
  cards : List UInt32
  proofSize : UInt64
  sessionId : String
  transaction : Option String := none
  deriving DecidableEq

instance : Wire RevealReply where
  encode body := Json.record
    [("status", Wire.encode body.status),
      ("cards", Wire.encode body.cards),
      ("proof_size", Wire.encode body.proofSize),
      ("session_id", Wire.encode body.sessionId),
      ("tx_hash", Wire.encode body.transaction)]
  decode? json := do
    let fields ← json.fields?
      [.required "status",
        .required "cards",
        .required "proof_size",
        .required "session_id",
        .optional "tx_hash"]
    let [status, cards, proofSize, sessionId, transaction] := fields | none
    some
      { status := ← Wire.decode? status
        cards := ← Wire.decode? cards
        proofSize := ← Wire.decode? proofSize
        sessionId := ← Wire.decode? sessionId
        transaction := ← Wire.decode? transaction }

structure ShowdownReply where
  status : String
  winner : Address
  winnerSeat : UInt32
  proofSize : UInt64
  sessionId : String
  transaction : Option String := none
  deriving DecidableEq

instance : Wire ShowdownReply where
  encode body := Json.record
    [("status", Wire.encode body.status),
      ("winner", Wire.encode body.winner),
      ("winner_index", Wire.encode body.winnerSeat),
      ("proof_size", Wire.encode body.proofSize),
      ("session_id", Wire.encode body.sessionId),
      ("tx_hash", Wire.encode body.transaction)]
  decode? json := do
    let fields ← json.fields?
      [.required "status",
        .required "winner",
        .required "winner_index",
        .required "proof_size",
        .required "session_id",
        .optional "tx_hash"]
    let [status, winner, winnerSeat, proofSize, sessionId, transaction] := fields | none
    some
      { status := ← Wire.decode? status
        winner := ← Wire.decode? winner
        winnerSeat := ← Wire.decode? winnerSeat
        proofSize := ← Wire.decode? proofSize
        sessionId := ← Wire.decode? sessionId
        transaction := ← Wire.decode? transaction }

structure ActionRequest where
  action : String
  amount : Option Chips := none
  deriving DecidableEq

instance : Wire ActionRequest where
  encode body := Json.record
    [("action", Wire.encode body.action),
      ("amount", Wire.encode body.amount)]
  decode? json := do
    let fields ← json.fields?
      [.required "action",
        .nullable "amount"]
    let [action, amount] := fields | none
    some
      { action := ← Wire.decode? action
        amount := ← Wire.decode? amount }

structure ActionReply where
  status : String
  action : String
  amount : Option Chips := none
  player : String
  transaction : Option String := none
  deriving DecidableEq

instance : Wire ActionReply where
  encode body := Json.record
    [("status", Wire.encode body.status),
      ("action", Wire.encode body.action),
      ("amount", Wire.encode body.amount),
      ("player", Wire.encode body.player),
      ("tx_hash", Wire.encode body.transaction)]
  decode? json := do
    let fields ← json.fields?
      [.required "status",
        .required "action",
        .optional "amount",
        .required "player",
        .optional "tx_hash"]
    let [status, action, amount, player, transaction] := fields | none
    some
      { status := ← Wire.decode? status
        action := ← Wire.decode? action
        amount := ← Wire.decode? amount
        player := ← Wire.decode? player
        transaction := ← Wire.decode? transaction }

/-- The table as its authority publishes it, as text. -/
structure StateReply where
  state : String
  deriving DecidableEq

instance : Wire StateReply where
  encode body := Json.record
    [("state", Wire.encode body.state)]
  decode? json := do
    let fields ← json.fields?
      [.required "state"]
    let [state] := fields | none
    some
      { state := ← Wire.decode? state }

structure CardsReply where
  first : UInt32
  second : UInt32
  firstSalt : String
  secondSalt : String
  deriving DecidableEq

instance : Wire CardsReply where
  encode body := Json.record
    [("card1", Wire.encode body.first),
      ("card2", Wire.encode body.second),
      ("salt1", Wire.encode body.firstSalt),
      ("salt2", Wire.encode body.secondSalt)]
  decode? json := do
    let fields ← json.fields?
      [.required "card1",
        .required "card2",
        .required "salt1",
        .required "salt2"]
    let [first, second, firstSalt, secondSalt] := fields | none
    some
      { first := ← Wire.decode? first
        second := ← Wire.decode? second
        firstSalt := ← Wire.decode? firstSalt
        secondSalt := ← Wire.decode? secondSalt }

/-- The wishes for a new table; what is not wished for is left out. -/
structure CreateRequest where
  maxPlayers : Option UInt32 := none
  solo : Option Bool := none
  buyIn : Option String := none
  deriving DecidableEq

instance : Wire CreateRequest where
  encode body := Json.record <|
    (body.maxPlayers.map fun value => ("max_players", Wire.encode value)).toList ++
    (body.solo.map fun value => ("solo", Wire.encode value)).toList ++
    (body.buyIn.map fun value => ("buy_in", Wire.encode value)).toList
  decode? json := do
    let fields ← json.fields?
      [.nullable "max_players",
        .nullable "solo",
        .nullable "buy_in"]
    let [maxPlayers, solo, buyIn] := fields | none
    some
      { maxPlayers := ← Wire.decode? maxPlayers
        solo := ← Wire.decode? solo
        buyIn := ← Wire.decode? buyIn }

structure CreateReply where
  tableId : UInt32
  maxPlayers : UInt32
  joinedWallets : UInt64
  deriving DecidableEq

instance : Wire CreateReply where
  encode body := Json.record
    [("table_id", Wire.encode body.tableId),
      ("max_players", Wire.encode body.maxPlayers),
      ("joined_wallets", Wire.encode body.joinedWallets)]
  decode? json := do
    let fields ← json.fields?
      [.required "table_id",
        .required "max_players",
        .required "joined_wallets"]
    let [tableId, maxPlayers, joinedWallets] := fields | none
    some
      { tableId := ← Wire.decode? tableId
        maxPlayers := ← Wire.decode? maxPlayers
        joinedWallets := ← Wire.decode? joinedWallets }

structure OpenTable where
  tableId : UInt32
  phase : String
  maxPlayers : UInt32
  joinedWallets : UInt64
  openSeats : UInt64
  deriving DecidableEq

instance : Wire OpenTable where
  encode body := Json.record
    [("table_id", Wire.encode body.tableId),
      ("phase", Wire.encode body.phase),
      ("max_players", Wire.encode body.maxPlayers),
      ("joined_wallets", Wire.encode body.joinedWallets),
      ("open_wallet_slots", Wire.encode body.openSeats)]
  decode? json := do
    let fields ← json.fields?
      [.required "table_id",
        .required "phase",
        .required "max_players",
        .required "joined_wallets",
        .required "open_wallet_slots"]
    let [tableId, phase, maxPlayers, joinedWallets, openSeats] := fields | none
    some
      { tableId := ← Wire.decode? tableId
        phase := ← Wire.decode? phase
        maxPlayers := ← Wire.decode? maxPlayers
        joinedWallets := ← Wire.decode? joinedWallets
        openSeats := ← Wire.decode? openSeats }

structure OpenTables where
  tables : List OpenTable
  deriving DecidableEq

instance : Wire OpenTables where
  encode body := Json.record
    [("tables", Wire.encode body.tables)]
  decode? json := do
    let fields ← json.fields?
      [.required "tables"]
    let [tables] := fields | none
    some
      { tables := ← Wire.decode? tables }

structure JoinReply where
  tableId : UInt32
  seat : UInt32
  seatAddress : String
  joinedWallets : UInt64
  maxPlayers : UInt32
  deriving DecidableEq

instance : Wire JoinReply where
  encode body := Json.record
    [("table_id", Wire.encode body.tableId),
      ("seat_index", Wire.encode body.seat),
      ("seat_address", Wire.encode body.seatAddress),
      ("joined_wallets", Wire.encode body.joinedWallets),
      ("max_players", Wire.encode body.maxPlayers)]
  decode? json := do
    let fields ← json.fields?
      [.required "table_id",
        .required "seat_index",
        .required "seat_address",
        .required "joined_wallets",
        .required "max_players"]
    let [tableId, seat, seatAddress, joinedWallets, maxPlayers] := fields | none
    some
      { tableId := ← Wire.decode? tableId
        seat := ← Wire.decode? seat
        seatAddress := ← Wire.decode? seatAddress
        joinedWallets := ← Wire.decode? joinedWallets
        maxPlayers := ← Wire.decode? maxPlayers }

/-- A seat of a lobby: the address that the contract seated, and the wallet behind it if known. -/
structure LobbySeat where
  seat : UInt32
  chainAddress : Address
  walletAddress : Option Address := none
  deriving DecidableEq

instance : Wire LobbySeat where
  encode body := Json.record
    [("seat_index", Wire.encode body.seat),
      ("chain_address", Wire.encode body.chainAddress),
      ("wallet_address", Wire.encode body.walletAddress)]
  decode? json := do
    let fields ← json.fields?
      [.required "seat_index",
        .required "chain_address",
        .optional "wallet_address"]
    let [seat, chainAddress, walletAddress] := fields | none
    some
      { seat := ← Wire.decode? seat
        chainAddress := ← Wire.decode? chainAddress
        walletAddress := ← Wire.decode? walletAddress }

structure Lobby where
  tableId : UInt32
  phase : String
  maxPlayers : UInt32
  seats : List LobbySeat
  joinedWallets : UInt64
  deriving DecidableEq

instance : Wire Lobby where
  encode body := Json.record
    [("table_id", Wire.encode body.tableId),
      ("phase", Wire.encode body.phase),
      ("max_players", Wire.encode body.maxPlayers),
      ("seats", Wire.encode body.seats),
      ("joined_wallets", Wire.encode body.joinedWallets)]
  decode? json := do
    let fields ← json.fields?
      [.required "table_id",
        .required "phase",
        .required "max_players",
        .required "seats",
        .required "joined_wallets"]
    let [tableId, phase, maxPlayers, seats, joinedWallets] := fields | none
    some
      { tableId := ← Wire.decode? tableId
        phase := ← Wire.decode? phase
        maxPlayers := ← Wire.decode? maxPlayers
        seats := ← Wire.decode? seats
        joinedWallets := ← Wire.decode? joinedWallets }

structure ChainConfig where
  rpcUrl : String
  networkPassphrase : String
  contract : String
  deriving DecidableEq

instance : Wire ChainConfig where
  encode body := Json.record
    [("rpc_url", Wire.encode body.rpcUrl),
      ("network_passphrase", Wire.encode body.networkPassphrase),
      ("poker_table_contract", Wire.encode body.contract)]
  decode? json := do
    let fields ← json.fields?
      [.required "rpc_url",
        .required "network_passphrase",
        .required "poker_table_contract"]
    let [rpcUrl, networkPassphrase, contract] := fields | none
    some
      { rpcUrl := ← Wire.decode? rpcUrl
        networkPassphrase := ← Wire.decode? networkPassphrase
        contract := ← Wire.decode? contract }

structure CommitteeStatus where
  nodes : UInt64
  healthy : List Bool
  status : String
  deriving DecidableEq

instance : Wire CommitteeStatus where
  encode body := Json.record
    [("nodes", Wire.encode body.nodes),
      ("healthy", Wire.encode body.healthy),
      ("status", Wire.encode body.status)]
  decode? json := do
    let fields ← json.fields?
      [.required "nodes",
        .required "healthy",
        .required "status"]
    let [nodes, healthy, status] := fields | none
    some
      { nodes := ← Wire.decode? nodes
        healthy := ← Wire.decode? healthy
        status := ← Wire.decode? status }

def Action.request (action : Action) : ActionRequest :=
  { action := action.label, amount := action.amount? }

end Holdem
