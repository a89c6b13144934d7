import Holdem.Opponent
import Holdem.Text.Integer

/-!
# Configuration

The settings of a client come from named variables. Options of the command line win over them. A
number that cannot be read falls back to its default; only a missing secret and an unknown play mode
stop the client here, and `Configuration.validate` refuses what could not be played with.
-/

namespace Holdem

/-- The variables that the client reads, by name. -/
abbrev Environment : Type := List (String × String)

namespace Environment

def get? (environment : Environment) (name : String) : Option String :=
  (environment.find? fun entry => entry.1 = name).map Prod.snd

/-- The value of a variable that can be read, or else a default. -/
def readOr (environment : Environment) (name : String) (read : String → Option α) (default : α) :
    α :=
  ((environment.get? name).bind read).getD default

def isOn (environment : Environment) (name : String) : Bool :=
  match environment.get? name with
  | some value => Text.lower (Text.trim value) ∈ ["1", "true", "yes", "on"]
  | none => false

end Environment

structure LedgerConfiguration where
  rpcUrl : String
  networkPassphrase : String
  contract : String
  confirmAttempts : Nat := 30
  /-- The pause between two questions about a transaction, in milliseconds. -/
  confirmDelay : Nat := 1000
  deriving DecidableEq

structure Configuration where
  coordinatorUrl : String
  mode : PlayMode
  tableId : UInt32
  playerSecret : String
  /-- Seconds between polls. -/
  pollInterval : Nat
  /-- Seconds until a request is given up. -/
  requestTimeout : Nat
  unsignedFirst : Bool
  buyIn : Chips
  soloStack : Chips
  /-- Without it bets go through the coordinator. -/
  ledger : Option LedgerConfiguration
  difficulty : Difficulty
  deriving DecidableEq

/-- What the command line asks for. -/
structure Overrides where
  coordinatorUrl : Option String := none
  mode : Option PlayMode := none
  tableId : Option UInt32 := none

/-- Why a configuration cannot be used. -/
inductive ConfigurationFault where
  | missing (name : String) (hint : String)
  | invalid (name : String) (reason : String)
  deriving DecidableEq

def ConfigurationFault.message : ConfigurationFault → String
  | .missing name hint => s!"Missing required environment variable: {name}\nHint: {hint}"
  | .invalid name reason => s!"Invalid configuration for {name}: {reason}"

def ConfigurationFault.kind : ConfigurationFault → String
  | .missing _ _ => "MissingRequired"
  | .invalid _ _ => "Invalid"

namespace Configuration

/-- The ledger of the environment; all three of its texts are needed. -/
def ledgerOf (environment : Environment) : Option LedgerConfiguration := do
  let rpcUrl ← environment.get? "STELLAR_RPC_URL"
  let networkPassphrase ← environment.get? "STELLAR_NETWORK_PASSPHRASE"
  let contract ← environment.get? "POKER_TABLE_CONTRACT"
  some
    { rpcUrl, networkPassphrase, contract
      confirmAttempts := environment.readOr "LEDGER_CONFIRM_ATTEMPTS" Text.count32? 30
      confirmDelay := environment.readOr "LEDGER_CONFIRM_DELAY_MS" Text.count64? 1000 }

/-- The play mode: the one asked for, or else that of the environment, or else `single`. -/
def modeOf (environment : Environment) (override : Option PlayMode) :
    Except ConfigurationFault PlayMode :=
  match override, environment.get? "PLAY_MODE" with
  | some mode, _ => .ok mode
  | none, none => .ok .single
  | none, some raw => (PlayMode.ofName? raw).mapError (.invalid "PLAY_MODE")

def secretHint : String :=
  "Generate with: stellar keys generate --no-fund player && stellar keys show player"

def ofEnvironment (environment : Environment) (overrides : Overrides) :
    Except ConfigurationFault Configuration := do
  let mode ← modeOf environment overrides.mode
  let playerSecret ←
    match environment.get? "PLAYER_SECRET" with
    | some secret => .ok secret
    | none => .error (.missing "PLAYER_SECRET" secretHint)
  let url := overrides.coordinatorUrl <|> environment.get? "COORDINATOR_URL"
  return {
    coordinatorUrl := url.getD "http://localhost:8080"
    mode
    tableId :=
      overrides.tableId.getD
        (environment.readOr "TABLE_ID" (fun text => (Text.count32? text).map UInt32.ofNat) 0)
    playerSecret
    pollInterval := environment.readOr "POLL_INTERVAL_SECS" Text.count64? 4
    requestTimeout := environment.readOr "REQUEST_TIMEOUT_SECS" Text.count64? 300
    unsignedFirst := environment.isOn "ALLOW_INSECURE_DEV_AUTH"
    buyIn := environment.readOr "DEFAULT_BUY_IN" Text.amount? 1000000000
    soloStack := environment.readOr "SOLO_STACK" Text.amount? 1000000000
    ledger := ledgerOf environment
    difficulty :=
      environment.readOr "OPPONENT_DIFFICULTY" (fun text => (Difficulty.ofName? text).toOption)
        .standard }

/-- The variables whose values cannot be used, in the order in which they are reported. -/
def faults (configuration : Configuration) : List ConfigurationFault :=
  let url := configuration.coordinatorUrl
  let rules : List (Bool × String × String) :=
    [(url.startsWith "http://" || url.startsWith "https://",
        "COORDINATOR_URL", "Must start with http:// or https://"),
      (Text.trim configuration.playerSecret ≠ "", "PLAYER_SECRET", "Must not be empty"),
      (configuration.pollInterval ≠ 0, "POLL_INTERVAL_SECS", "Must be greater than 0"),
      (0 < configuration.buyIn, "DEFAULT_BUY_IN", "Must be greater than 0"),
      (0 < configuration.soloStack, "SOLO_STACK", "Must be greater than 0"),
      (configuration.ledger.all fun ledger => ledger.confirmAttempts ≠ 0,
        "LEDGER_CONFIRM_ATTEMPTS", "Must be at least 1")]
  rules.filterMap fun (holds, name, reason) => if holds then none else some (.invalid name reason)

/-- Refuses a configuration that could not be played with, for the first reason. -/
def validate (configuration : Configuration) : Except ConfigurationFault Unit :=
  match configuration.faults with
  | [] => .ok ()
  | fault :: _ => .error fault

end Configuration

end Holdem
