import Holdem.Session.Basic

/-!
# Records of actions

Every action of the player is recorded with its table and the line that asked for it. A refusal on
the spot is an ordinary event; a failure on the way is a warning.
-/

namespace Holdem

/-- How much attention a record deserves. -/
inductive Level where
  | debug
  | info
  | warn
  deriving DecidableEq

def Level.name : Level → String
  | .debug => "debug"
  | .info => "info"
  | .warn => "warn"

structure ActionRecord where
  level : Level
  message : String
  tableId : UInt32
  command : String
  /-- The wording of the fault, if the action did not complete. -/
  fault : Option String
  deriving DecidableEq

/-- The record of an action that a line asked for; the blanks around the line do not count. -/
def ActionRecord.ofResult (tableId : UInt32) (line : String) :
    Except ActionFault Outcome → ActionRecord
  | .ok _ => ⟨.info, "Action completed", tableId, Text.trim line, none⟩
  | .error fault =>
    let (level, message) :=
      if fault.isPrecondition then (Level.debug, "Action rejected locally")
      else (.warn, "Action failed")
    ⟨level, message, tableId, Text.trim line, some fault.message⟩

end Holdem
