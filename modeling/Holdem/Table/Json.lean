import Holdem.Coordinator.Message
import Holdem.Table.Basic

/-!
# The JSON form of a snapshot

For logs and for other programs of the player. Chips are plain integers of any size.
-/

namespace Holdem

def Player.toJson (player : Player) : Json :=
  .record
    [("address", Wire.encode player.address),
      ("seat_index", .integer player.seat),
      ("stack", Wire.encode player.stack),
      ("bet_this_round", Wire.encode player.bet),
      ("folded", Wire.encode player.folded),
      ("all_in", Wire.encode player.allIn),
      ("hole_cards", Json.nullable
        (fun (first, second) => .array [Wire.encode first, Wire.encode second]) player.hole)]

def Table.toJson (table : Table) : Json :=
  .record
    [("table_id", Wire.encode table.tableId),
      ("phase", Wire.encode table.phase),
      ("players", .array (table.players.map Player.toJson)),
      ("pot", Wire.encode table.pot),
      ("board", Wire.encode table.board),
      ("current_turn", .integer table.currentTurn),
      ("dealer_seat", .integer table.dealerSeat),
      ("hand_number", .integer table.handNumber.toNat),
      ("last_tx_hash", Wire.encode table.lastTransaction),
      ("last_proof_size", Json.nullable (fun size => .integer size) table.lastProofSize),
      ("confirmed", Wire.encode table.confirmed),
      ("winner", Wire.encode table.winner)]

end Holdem
