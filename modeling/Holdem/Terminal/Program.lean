import Holdem.Terminal.Client

/-!
# The program

From the words of the command line to the exit code. The number of lines that are carried out is
bounded, so that a run ends even if its input does not; the bound stands far beyond what anyone
types.
-/

namespace Holdem.Terminal

def exitSuccess : UInt32 := 0

/-- The exit code of a program that could not start. -/
def exitFailure : UInt32 := 1

/-- The exit code of a program that broke off. -/
def exitBroken : UInt32 := 101

/-- More lines than anyone types. -/
def lineLimit : Nat := 1 <<< 60

variable {m : Type → Type} [Monad m]

/-- Carries out lines until there are none left, the player leaves or the limit is reached. -/
def Client.play (machine : Machine m) (client : Client) : Nat → Visit → m UInt32
  | 0, _ => return exitSuccess
  | left + 1, visit => do
    match ← machine.readLine with
    | none =>
      machine.print Client.farewell
      return exitSuccess
    | some line =>
      let (turn, visit) ← (client.enter machine line).run visit
      match turn with
      | .next => client.play machine left visit
      | .leave =>
        machine.print Client.farewell
        return exitSuccess
      | .broken => return exitBroken

def runProgram (machine : Machine m) (words : List String) (environment : Environment) :
    m UInt32 := do
  match Invitation.ofWords words with
  | .error fault =>
    machine.complain (Report.ofOptions fault).text
    return exitFailure
  | .ok .help =>
    machine.print help
    return exitSuccess
  | .ok (.play options) =>
    match ← Client.start machine environment options with
    | .error report =>
      machine.complain report.text
      return exitFailure
    | .ok (client, visit) => client.play machine lineLimit visit

end Holdem.Terminal
