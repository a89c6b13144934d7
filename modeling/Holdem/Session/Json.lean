import Holdem.Session.Polling
import Holdem.Session.Record

/-!
# JSON forms of what happens in a session

For programs that watch a session: what was polled and merged, what the player wants and what came
of it. Amounts are decimal texts, as in contract calls, so that no reader loses digits; cards and
counts are integers, and what is not known is `null`.
-/

namespace Holdem

def countJson (count : Nat) : Json := .integer count

def Card.toJson (card : Card) : Json := countJson card.code.toNat

def holeJson : Option (Card × Card) → Json :=
  Json.nullable fun (first, second) => .array [first.toJson, second.toJson]

def cardsJson (cards : List Card) : Json := .array (cards.map Card.toJson)

def PolledPlayer.toJson (player : PolledPlayer) : Json :=
  .record
    [("address", .text player.address),
      ("seat", Json.nullable countJson player.seat),
      ("stack", Json.nullable amountJson player.stack),
      ("bet", Json.nullable amountJson player.bet),
      ("folded", Json.nullable Json.bool player.folded),
      ("all_in", Json.nullable Json.bool player.allIn)]

def Poll.toJson (poll : Poll) : Json :=
  .record
    [("phase", Json.nullable Json.text poll.phase),
      ("pot", Json.nullable amountJson poll.pot),
      ("current_turn", Json.nullable countJson poll.currentTurn),
      ("dealer_seat", Json.nullable countJson poll.dealerSeat),
      ("hand_number", Json.nullable (fun number => countJson number.toNat) poll.handNumber),
      ("board", Json.nullable cardsJson poll.board),
      ("players", Json.nullable (fun players => .array (players.map PolledPlayer.toJson))
        poll.players)]

def MergeReport.toJson (report : MergeReport) : Json :=
  .record
    [("unmapped_phase", Json.nullable Json.text report.unmappedPhase),
      ("board_rejected", .bool report.boardRejected),
      ("new_hand", .bool report.newHand),
      ("players_added", countJson report.playersAdded),
      ("players_removed", countJson report.playersRemoved)]

def Intent.toJson : Intent → Json
  | .start opponents =>
    .record [("kind", .text "start"), ("players", .array (opponents.map Json.text))]
  | .join buyIn => .record [("kind", .text "join"), ("buy_in", Json.nullable amountJson buyIn)]
  | .bet action => .record [("kind", .text "bet"), ("action", action.contractJson)]
  | .reveal street => .record [("kind", .text "reveal"), ("street", .text street.name)]
  | .showdown => .record [("kind", .text "showdown")]

def Outcome.toJson : Outcome → Json
  | .dealt handNumber proofSize transaction hole =>
    .record
      [("kind", .text "dealt"),
        ("hand_number", countJson handNumber.toNat),
        ("proof_size", countJson proofSize),
        ("tx_hash", Json.nullable Json.text transaction),
        ("hole", holeJson hole)]
  | .revealed street cards =>
    .record
      [("kind", .text "revealed"), ("street", .text street.name), ("cards", cardsJson cards)]
  | .settled winner => .record [("kind", .text "settled"), ("winner", .text winner)]
  | .acted action transaction =>
    .record
      [("kind", .text "acted"),
        ("action", action.contractJson),
        ("tx_hash", Json.nullable Json.text transaction)]
  | .resolved action reply next =>
    .record
      [("kind", .text "resolved"),
        ("action", action.contractJson),
        ("reply", Json.nullable Action.contractJson reply),
        ("follow_up", match next with
          | some next => next.toJson
          | none => .null)]
  | .joined seat joinedWallets maxPlayers =>
    .record
      [("kind", .text "joined"),
        ("seat_index", countJson seat),
        ("joined_wallets", countJson joinedWallets),
        ("max_players", countJson maxPlayers)]

def PollOutcome.toJson : PollOutcome → Json
  | .merged report => .record [("merged", report.toJson)]
  | .unparsed => .text "unparsed"
  | .fetchFailed reason => .record [("fetch_failed", .text reason)]
  | .stale => .text "stale"

def ActionRecord.toJson (entry : ActionRecord) : Json :=
  .record
    [("level", .text entry.level.name),
      ("message", .text entry.message),
      ("table_id", countJson entry.tableId.toNat),
      ("command", .text entry.command),
      match entry.fault with
      | none => ("outcome", .bool true)
      | some fault => ("error", .text fault)]

end Holdem
