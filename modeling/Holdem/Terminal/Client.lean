import Holdem.Command
import Holdem.Coordinator.Http
import Holdem.Ledger.Gateway
import Holdem.Opponent
import Holdem.Session.Dispatch
import Holdem.Session.Polling
import Holdem.Session.Record
import Holdem.Terminal.Report
import Holdem.View

/-!
# The client at a terminal

A client joins a session to the machine that it runs on: to the web, to the contract tool, to the
clock and to a source of chance. It starts from a configuration, shows the table, and then carries
out one line after another until the player leaves.

The machine is a parameter, so that the same client runs at a terminal and against a scripted
machine.
-/

namespace Holdem.Terminal

/-- What a client needs of its machine. -/
structure Machine (m : Type → Type) where
  /-- Carries a request, or tells why that failed. -/
  carry : Url → HttpRequest → m (Except (List String) HttpResponse)
  /-- Runs the contract tool, or tells why it could not be started. -/
  tool : List String → m (Except String ToolOutput)
  clock : m ClockReading
  /-- The two draws of a simulated player's decision. -/
  draw : m Draw
  /-- Lets milliseconds pass. -/
  wait : Nat → m Unit
  /-- The next line of input, until there is none. -/
  readLine : m (Option String)
  print : String → m Unit
  /-- Reports a failure of the whole program. -/
  complain : String → m Unit
  record : ActionRecord → m Unit

/-- A client: its settings, its wallet and its ways to the outside. -/
structure Client where
  /-- The coordinator's address as configured. -/
  coordinatorUrl : String
  settings : Settings
  key : LocalKey
  opponent : Opponent
  /-- The way to the ledger, where bets go there. -/
  gateway : Option Gateway := none
  /-- Milliseconds between polls. -/
  pollInterval : Nat

/-- The state of a client between two lines. -/
structure Visit where
  session : Session
  /-- When the next poll is due, in milliseconds. -/
  pollDue : Nat

/-- How a client goes on after a line. -/
inductive Turn where
  | next
  /-- The player leaves. -/
  | leave
  /-- An action broke off, and the session with it. -/
  | broken
  deriving DecidableEq

namespace Client

variable {m : Type → Type} [Monad m]

/-! ## Answering procedures -/

def callCoordinator (machine : Machine m) (client : Client) (credentials : Option Credentials)
    (call : CoordinatorCall) : m (Except CoordinatorFault call.Reply) := do
  let request := call.httpRequest (coordinatorBase client.coordinatorUrl) credentials
  return call.readReply (← request.exchange machine.carry)

def callLedger (machine : Machine m) (gateway : Gateway) :
    (call : LedgerCall) → m (Except LedgerFault call.Reply)
  | .build source invocation => do
    return Gateway.readEnvelope (← machine.tool (gateway.buildWords source invocation))
  | .submit envelope => do
    return Gateway.readSubmission (← (gateway.submitRequest envelope).exchange machine.carry)
  | .status hash => do
    return Gateway.readStatus (← (gateway.statusRequest hash).exchange machine.carry)

def signTransaction (machine : Machine m) (key : LocalKey) (envelope networkPassphrase : String) :
    m (Except WalletFault String) := do
  return LocalKey.readSigned (← machine.tool (key.signWords envelope networkPassphrase))

def answer (machine : Machine m) (client : Client) :
    (request : Request) → StateT Session m request.Answer
  | .coordinator credentials call => client.callCoordinator machine credentials call
  | .signMessage message => pure (.ok (client.key.signMessage message))
  | .signTransaction envelope networkPassphrase =>
    StateT.lift (signTransaction machine client.key envelope networkPassphrase)
  | .ledger call =>
    match client.gateway with
    | some gateway => callLedger machine gateway call
    | none => pure (.error (.rpc "no ledger"))
  | .wait milliseconds => machine.wait milliseconds
  | .clock => machine.clock
  | .reply table address => do
    return client.opponent.respond client.settings.arithmetic table address (← machine.draw)

/-- Runs a step; one that breaks off has no result. -/
def perform (machine : Machine m) (client : Client) (step : Step α) :
    StateT Session m (Option (Except ActionFault α)) :=
  step.run.run (client.answer machine)

def now (machine : Machine m) : m Nat := do
  return (← machine.clock).micros / 1000

/-- Polls the table if a poll is due. -/
def keepUp (machine : Machine m) (client : Client) : StateT Visit m Unit := do
  let visit ← get
  let now ← StateT.lift (now machine)
  if visit.pollDue ≤ now then
    let (_, session) ← (client.settings.poll.run (client.answer machine)).run visit.session
    set ({ session, pollDue := Beat.next client.pollInterval visit.pollDue now } : Visit)

/-! ## Carrying out lines -/

def view (client : Client) (session : Session) : String :=
  View.table session.table client.settings.hero client.settings.mode

def faultLine (fault : ActionFault) : String :=
  "Error: " ++ fault.message ++ "\n"

def createRequest (client : Client) (maxPlayers : Option UInt32) : CreateRequest where
  maxPlayers
  solo := some client.settings.mode.isSolo
  buyIn := some (toString client.settings.buyIn)

def committeeLine (status : CommitteeStatus) : String :=
  let healthy := (status.healthy.filter id).length
  s!"Committee {status.status}: {healthy}/{status.nodes.toNat} nodes healthy\n"

def chainLines (chain : ChainConfig) : String :=
  s!"RPC {chain.rpcUrl}\nNetwork {chain.networkPassphrase}\nContract {chain.contract}\n"

/-- Runs a step and prints its result or its fault. -/
def report (machine : Machine m) (client : Client) (step : Step α) (text : α → String) :
    StateT Session m Turn := do
  match ← client.perform machine step with
  | none => return .broken
  | some result =>
    match result with
    | .ok value => machine.print (text value)
    | .error fault => machine.print (faultLine fault)
    return .next

/-- Carries out an intent, records it and shows the table. -/
def carryOut (machine : Machine m) (client : Client) (intent : Intent) (line : String) :
    StateT Session m Turn := do
  let tableId := (← get).table.tableId
  match ← client.perform machine (client.settings.dispatch intent) with
  | none => return .broken
  | some result =>
    machine.record (.ofResult tableId line result)
    match result with
    | .ok outcome => machine.print (View.outcome outcome ++ "\n")
    | .error fault => machine.print (faultLine fault)
    machine.print (client.view (← get))
    return .next

def execute (machine : Machine m) (client : Client) (command : Command) (line : String) :
    StateT Session m Turn := do
  let settings := client.settings
  match command with
  | .intent intent => client.carryOut machine intent line
  | .create maxPlayers =>
    client.report machine (settings.createTable (client.createRequest maxPlayers)) fun reply =>
      s!"Created table {reply.tableId.toNat} ({reply.maxPlayers.toNat} seats)\n"
  | .table tableId =>
    client.report machine (Step.selectTable tableId) fun _ =>
      s!"Switched to table {tableId.toNat}\n"
  | .tables =>
    client.report machine settings.openTables fun tables => View.openTables tables ++ "\n"
  | .lobby => client.report machine settings.lobby View.lobby
  | .committee => client.report machine settings.committee committeeLine
  | .chain => client.report machine settings.chainConfig chainLines
  | .view =>
    machine.print (client.view (← get))
    return .next
  | .help =>
    machine.print (Command.usage ++ "\n")
    return .next
  | .quit => return .leave

def prompt : String := "> "

/-- Carries out a line of input. A blank line does nothing. -/
def enter (machine : Machine m) (client : Client) (line : String) : StateT Visit m Turn := do
  client.keepUp machine
  let visit ← get
  if Text.trim line = "" then
    machine.print prompt
    return .next
  else
    match Command.ofLine line with
    | .error fault =>
      machine.print (fault.message ++ "\n" ++ prompt)
      return .next
    | .ok command =>
      let (turn, session) ← (client.execute machine command line).run visit.session
      set { visit with session }
      if turn = .next then machine.print prompt
      return turn

def farewell : String := "Bye.\n"

/-! ## Starting -/

/-- The way to the ledger: the configured one, or else the one that the coordinator knows. A solo
session needs none, and without one bets go through the coordinator. -/
def findLedger (machine : Machine m) (client : Client) (configuration : Configuration)
    (session : Session) : m (Option LedgerConfiguration) := do
  if configuration.mode.isSolo then return none
  match configuration.ledger with
  | some ledger => return some ledger
  | none =>
    let (result, _) ← (client.perform machine client.settings.chainConfig).run session
    match result with
    | some (.ok chain) =>
      return some
        { rpcUrl := chain.rpcUrl
          networkPassphrase := chain.networkPassphrase
          contract := chain.contract }
    | _ => return none

def withLedger (client : Client) (ledger : LedgerConfiguration) : Client :=
  let access : LedgerAccess :=
    { networkPassphrase := ledger.networkPassphrase
      watch := .ofAttempts ledger.confirmAttempts ledger.confirmDelay }
  { client with
    settings := { client.settings with ledger := some access }
    gateway := some ⟨ledger.rpcUrl, ledger.networkPassphrase, ledger.contract⟩ }

/-- The client of a configuration, without a way to the ledger. -/
def ofConfiguration (configuration : Configuration) (key : LocalKey) : Client where
  coordinatorUrl := configuration.coordinatorUrl
  settings :=
    { mode := configuration.mode
      hero := key.address
      unsignedFirst := configuration.unsignedFirst
      buyIn := configuration.buyIn
      soloStack := configuration.soloStack }
  key
  opponent := .ofDifficulty configuration.difficulty
  pollInterval := 1000 * configuration.pollInterval

/-- Opens the table that was asked for at the start. -/
def openFirst (machine : Machine m) (client : Client) (session : Session) :
    m (Except Report Session) := do
  let request := client.createRequest none
  let (result, session) ←
    (client.perform machine (client.settings.createTable request)).run session
  match result with
  | some (.ok reply) =>
    machine.print s!"Created table {reply.tableId.toNat}\n"
    return .ok session
  | some (.error fault) => return .error (.ofCreation fault)
  | none => return .error { headline := "Failed to create table" }

/-- The configuration and the wallet that a client starts with. -/
def prepare (environment : Environment) (options : Options) :
    Except Report (Configuration × LocalKey) := do
  let configuration ←
    (Configuration.ofEnvironment environment options.overrides).mapError .ofLoading
  configuration.validate.mapError .ofValidation
  let key ← (LocalKey.ofSecret? configuration.playerSecret).mapError .ofSecret
  return (configuration, key)

/-- Starts a client, and shows the table and the first prompt. -/
def start (machine : Machine m) (environment : Environment) (options : Options) :
    m (Except Report (Client × Visit)) := do
  match prepare environment options with
  | .error report => return .error report
  | .ok (configuration, key) =>
    let session := Session.opened configuration.tableId
    let plain := ofConfiguration configuration key
    let ledger ← plain.findLedger machine configuration session
    let client := (ledger.map plain.withLedger).getD plain
    machine.print <|
      s!"Playing as {client.settings.hero} in {configuration.mode.name} mode " ++
        s!"against {configuration.coordinatorUrl}\n"
    match ← if options.create then client.openFirst machine session else pure (.ok session) with
    | .error report => return .error report
    | .ok session =>
      machine.print (client.view session ++ prompt)
      return .ok (client, { session, pollDue := ← now machine })

end Client

end Holdem.Terminal
