import Holdem.Intent
import Holdem.Text.Integer

/-!
# Commands

What a player can type. A line is either one of the fixed words, or a keyword followed by words.
Keywords and fixed words are read in any letter case; addresses keep theirs.
-/

namespace Holdem

inductive Command where
  | intent (intent : Intent)
  /-- Open a table and turn to it. -/
  | create (maxPlayers : Option UInt32)
  /-- Turn to another table. -/
  | table (tableId : UInt32)
  | tables
  | lobby
  | committee
  | chain
  | view
  | help
  | quit
  deriving DecidableEq

/-- Why a line is no command. -/
inductive CommandFault where
  | missingAmount (keyword : String)
  | invalidAmount (word : String)
  | invalidStreet (word : String)
  | invalidTableId (word : String)
  | unrecognized (line : String)
  deriving DecidableEq

def CommandFault.message : CommandFault → String
  | .missingAmount keyword => s!"'{keyword}' requires an amount (e.g., '{keyword} 100')"
  | .invalidAmount word =>
    s!"Invalid amount '{word}'. Must be a positive number (e.g., 'bet 100')"
  | .invalidStreet word =>
    s!"Cannot reveal '{word}'. Use 'reveal flop', 'reveal turn' or 'reveal river'"
  | .invalidTableId word => s!"Invalid table id '{word}' (e.g., 'table 3')"
  | .unrecognized line =>
    s!"Unrecognized command '{line}'. Type 'help' to see available commands"

def CommandFault.kind : CommandFault → String
  | .missingAmount _ => "MissingAmount"
  | .invalidAmount _ => "InvalidAmount"
  | .invalidStreet _ => "InvalidStreet"
  | .invalidTableId _ => "InvalidTableId"
  | .unrecognized _ => "UnrecognizedCommand"

namespace Command

/-- The word that names a command; an intent goes by its own label. -/
def keyword : Command → String
  | .intent wish => wish.label
  | .create _ => "create"
  | .table _ => "table"
  | .tables => "tables"
  | .lobby => "lobby"
  | .committee => "committee"
  | .chain => "chain"
  | .view => "show"
  | .help => "help"
  | .quit => "quit"

def bet (action : Action) : Command := .intent (.bet action)

def ofFixed? : String → Option Command
  | "fold" => some (bet .fold)
  | "check" => some (bet .check)
  | "call" => some (bet .call)
  | "allin" | "all-in" => some (bet .allIn)
  | "flop" => some (.intent (.reveal .flop))
  | "turn" => some (.intent (.reveal .turn))
  | "river" => some (.intent (.reveal .river))
  | "showdown" => some (.intent .showdown)
  | "tables" => some .tables
  | "lobby" => some .lobby
  | "committee" => some .committee
  | "chain" => some .chain
  | "show" | "state" => some .view
  | "help" | "?" => some .help
  | "quit" | "exit" => some .quit
  | _ => none

def positive (word : String) : Except CommandFault Chips :=
  match (Text.amount? word).filter fun amount => 0 < amount with
  | some amount => .ok amount
  | none => .error (.invalidAmount word)

def amountAfter (keyword : String) : List String → Except CommandFault Chips
  | [] => .error (.missingAmount keyword)
  | word :: _ => positive word

/-- The command of a keyword and the words after it; words past the last one read are let pass. -/
def ofKeyword (line keyword : String) (words : List String) : Except CommandFault Command :=
  match keyword with
  | "start" | "deal" => .ok (.intent (.start words))
  | "join" =>
    match words with
    | [] => .ok (.intent (.join none))
    | word :: _ => (positive word).map fun amount => .intent (.join (some amount))
  | "bet" => (amountAfter "bet" words).map fun amount => bet (.bet amount)
  | "raise" => (amountAfter "raise" words).map fun amount => bet (.raise amount)
  | "reveal" =>
    let word := words.headD ""
    match Street.ofName? word with
    | .ok street => .ok (.intent (.reveal street))
    | .error _ => .error (.invalidStreet word)
  | "table" =>
    let word := words.headD ""
    match Text.count32? word with
    | some tableId => .ok (.table (UInt32.ofNat tableId))
    | none => .error (.invalidTableId word)
  | "create" =>
    match words with
    | [] => .ok (.create none)
    | word :: _ =>
      match Text.count32? word with
      | some seats => .ok (.create (some (UInt32.ofNat seats)))
      | none => .error (.invalidAmount word)
  | _ => .error (.unrecognized line)

def ofLine (input : String) : Except CommandFault Command :=
  let line := Text.trim input
  match ofFixed? (Text.lower line) with
  | some command => .ok command
  | none =>
    match Text.words line with
    | [] => .error (.unrecognized line)
    | keyword :: words => ofKeyword line (Text.lower keyword) words

/-- What the commands are, one form to a line. -/
def usage : String :=
  "start [OPPONENT...]   deal a new hand (headsup/multi resolve seats from the lobby if none given)\n" ++
  "  join [BUY_IN]         take a seat at the current table\n" ++
  "  fold | check | call | allin\n" ++
  "  bet AMOUNT | raise AMOUNT\n" ++
  "  reveal flop|turn|river  (or just: flop, turn, river)\n" ++
  "  showdown              request the showdown proof\n" ++
  "  create [MAX_PLAYERS]  create a table and switch to it\n" ++
  "  table ID              switch to another table\n" ++
  "  tables | lobby | committee | chain\n" ++
  "  show                  print the table\n" ++
  "  quit"

end Command

end Holdem
