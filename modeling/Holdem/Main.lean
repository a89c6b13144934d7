import Holdem.Terminal.Program

/-!
# The program at a terminal

The words of the command line, the variables of the environment and the lines of the standard input
go to the program, and what it prints goes to the standard output. This process has neither a
network nor the contract tool at its hands, so every exchange fails as it does on a machine that is
not connected.
-/

namespace Holdem.Terminal

def variableNames : List String :=
  ["COORDINATOR_URL", "PLAY_MODE", "TABLE_ID", "PLAYER_SECRET", "POLL_INTERVAL_SECS",
    "REQUEST_TIMEOUT_SECS", "ALLOW_INSECURE_DEV_AUTH", "DEFAULT_BUY_IN", "SOLO_STACK",
    "STELLAR_RPC_URL", "STELLAR_NETWORK_PASSPHRASE", "POKER_TABLE_CONTRACT",
    "LEDGER_CONFIRM_ATTEMPTS", "LEDGER_CONFIRM_DELAY_MS", "OPPONENT_DIFFICULTY"]

def readEnvironment : IO Environment := do
  let entries ← variableNames.mapM fun name => do return (← IO.getEnv name).map (name, ·)
  return entries.filterMap id

/-- A draw between zero and one. -/
def drawUnit : IO Float32 := do
  let count ← IO.rand 0 0xFFFFFF
  return Float32.ofNat count / Float32.ofNat 0x1000000

def writeRecord (action : ActionRecord) : IO Unit := do
  if action.level ≠ .debug then
    let fault := (action.fault.map fun fault => " error=" ++ fault).getD ""
    IO.eprintln <|
      action.level.name ++ " " ++ action.message ++ " table_id=" ++
        toString action.tableId.toNat ++ " command=" ++ action.command ++ fault

/-- The machine of this process. Its clock counts from the start of the machine. -/
def thisMachine : Machine IO where
  carry url _ := return .error (ExchangeFault.withoutNetwork url)
  tool _ := return .error "No such file or directory (os error 2)"
  clock := do
    let micros := (← IO.monoNanosNow) / 1000
    return { micros, seconds := (micros / 1000000 : Nat) }
  draw := return { strength := ← drawUnit, roll := ← drawUnit }
  wait milliseconds := IO.sleep milliseconds.toUInt32
  readLine := do
    let line ← (← IO.getStdin).getLine
    return if line.isEmpty then none else some line
  print text := do
    let out ← IO.getStdout
    out.putStr text
    out.flush
  complain text := IO.eprint text
  record := writeRecord

end Holdem.Terminal

def main (words : List String) : IO UInt32 := do
  Holdem.Terminal.runProgram Holdem.Terminal.thisMachine words (← Holdem.Terminal.readEnvironment)
