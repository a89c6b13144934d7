import Holdem.Configuration

/-!
# Options of the command line

An option is a word followed by its value; the first such word counts, and word and value are taken
out before the next option is looked for. Words that are left over are let pass. A request for help
wins over everything else.
-/

namespace Holdem.Terminal

/-- Why the words of a command line cannot be used. -/
inductive OptionFault where
  | valueMissing (key : String)
  | unreadable (value : String) (reason : String)
  deriving DecidableEq

def OptionFault.message : OptionFault → String
  | .valueMissing key => s!"the '{key}' option doesn't have an associated value"
  | .unreadable value reason => s!"failed to parse '{value}': {reason}"

/-- What the client is asked to do at its start. -/
structure Options where
  overrides : Overrides
  /-- Open a new table first. -/
  create : Bool

/-- What a command line asks for. -/
inductive Invitation where
  | help
  | play (options : Options)

/-- Takes the first option of a name out of the words. -/
def takeOption (key : String) (read : String → Except String α) :
    List String → Except OptionFault (Option α × List String)
  | [] => .ok (none, [])
  | word :: rest =>
    if word = key then
      match rest with
      | [] => .error (.valueMissing key)
      | value :: later =>
        match read value with
        | .ok result => .ok (some result, later)
        | .error reason => .error (.unreadable value reason)
    else (takeOption key read rest).map fun (result, later) => (result, word :: later)

def readTableId (text : String) : Except String UInt32 :=
  match Text.readNatural Text.maxWord32 text with
  | .ok value => .ok (UInt32.ofNat value)
  | .error fault => .error fault.message

def Invitation.ofWords (words : List String) : Except OptionFault Invitation := do
  if words.any fun word => word = "-h" || word = "--help" then return .help
  let (coordinatorUrl, words) ← takeOption "--coordinator" .ok words
  let (mode, words) ← takeOption "--mode" PlayMode.ofName? words
  let (tableId, words) ← takeOption "--table" readTableId words
  return .play
    { overrides := { coordinatorUrl, mode, tableId }
      create := words.contains "--create" }

def help : String :=
  "Play at a Stellar Poker table\n\n" ++
  "USAGE:\n" ++
  "  sp_client [OPTIONS]\n\n" ++
  "OPTIONS:\n" ++
  "  --coordinator URL     Coordinator URL  [env: COORDINATOR_URL, default: http://localhost:8080]\n" ++
  "  --mode MODE           single | headsup | multi  [env: PLAY_MODE, default: single]\n" ++
  "  --table ID            Table to attach to  [env: TABLE_ID]\n" ++
  "  --create              Create a new table on startup\n\n" ++
  "FLAGS:\n" ++
  "  -h, --help            Print help information\n\n" ++
  "ENVIRONMENT:\n" ++
  "  PLAYER_SECRET         Stellar secret seed (S...) used to sign requests (required)\n" ++
  "  RUST_LOG              Log filter  [default: info,reqwest=warn,hyper=warn]\n"

end Holdem.Terminal
