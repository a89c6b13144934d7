import Holdem.Table.Basic

/-!
# Intents and when they are legal

An intent is what a player wants to do, before any check. `Intent.check` holds it against the
snapshot: the phase, the play mode, the amount and whose turn it is. The order of the checks decides
which fault is reported when there are several.
-/

namespace Holdem

/-- What a player wants to do. -/
inductive Intent where
  /-- Deal a new hand; without opponents the seats are taken from the lobby. -/
  | start (opponents : List Address)
  /-- Take a seat. -/
  | join (buyIn : Option Chips)
  | bet (action : Action)
  | reveal (street : Street)
  | showdown
  deriving DecidableEq

inductive IntentFault where
  | wrongPhase (intent : String) (phase : Phase)
  | wrongMode (intent : String) (mode : PlayMode)
  | notSeated
  | alreadyFolded
  | notYourTurn (currentTurn : Nat)
  | invalidAmount (action : String)
  deriving DecidableEq

def IntentFault.message : IntentFault → String
  | .wrongPhase intent phase => s!"'{intent}' is not allowed during {phase.name}"
  | .wrongMode intent mode => s!"'{intent}' is not available in {mode.name} mode"
  | .notSeated => "You are not seated at this table"
  | .alreadyFolded => "You have already folded this hand"
  | .notYourTurn currentTurn => s!"Not your turn (seat {currentTurn} to act)"
  | .invalidAmount action => s!"{action} requires a positive amount"

def IntentFault.kind : IntentFault → String
  | .wrongPhase _ _ => "WrongPhase"
  | .wrongMode _ _ => "WrongMode"
  | .notSeated => "NotSeated"
  | .alreadyFolded => "AlreadyFolded"
  | .notYourTurn _ => "NotYourTurn"
  | .invalidAmount _ => "InvalidAmount"

namespace Intent

def label : Intent → String
  | .start _ => "start"
  | .join _ => "join"
  | .bet action => action.label
  | .reveal street => "reveal " ++ street.name
  | .showdown => "showdown"

/-- The refusal of an intent in the snapshot's phase. -/
def wrongPhase (intent : Intent) (table : Table) : IntentFault :=
  .wrongPhase intent.label table.phase

/-- Whether an amount is given and is not positive. -/
def isBadAmount (amount : Option Chips) : Bool :=
  amount.any fun chips => chips ≤ 0

/-- Checks a betting action. A solo player always acts next, because the simulated opponent answers
within the same step; elsewhere the seat has to be on turn. -/
def checkBet (table : Table) (mode : PlayMode) (hero : Address) (action : Action) :
    Except IntentFault Unit :=
  if !table.phase.isBettingRound then .error ((Intent.bet action).wrongPhase table)
  else if isBadAmount action.amount? then .error (.invalidAmount action.label)
  else
    match table.player? hero with
    | none => .error .notSeated
    | some player =>
      if player.folded then .error .alreadyFolded
      else if !mode.isSolo && player.seat ≠ table.currentTurn then
        .error (.notYourTurn table.currentTurn)
      else .ok ()

/-- Checks an intent of the local player against the snapshot. -/
def check (intent : Intent) (table : Table) (mode : PlayMode) (hero : Address) :
    Except IntentFault Unit :=
  match intent with
  | .start _ =>
    if table.phase.isHandBoundary then .ok () else .error (intent.wrongPhase table)
  | .join buyIn =>
    if isBadAmount buyIn then .error (.invalidAmount "join")
    else if mode.isSolo then .error (.wrongMode intent.label mode)
    else if table.phase.isHandBoundary then .ok ()
    else .error (intent.wrongPhase table)
  | .bet action => checkBet table mode hero action
  | .reveal street =>
    if table.phase = street.requestedFrom then .ok () else .error (intent.wrongPhase table)
  | .showdown =>
    if table.phase = .river ∨ table.phase = .showdown then .ok ()
    else .error (intent.wrongPhase table)

/-- The intents worth offering in a phase. -/
def available (table : Table) (mode : PlayMode) : List String :=
  match table.phase with
  | .waiting | .settlement => if mode.isSolo then ["start"] else ["start", "join"]
  | .dealing => []
  | .preflop | .flop | .turn | .river =>
    ["fold", "check", "call", "bet", "raise", "allin"] ++
      match table.phase.nextStreet? with
      | some street => [(Intent.reveal street).label]
      | none => ["showdown"]
  | .showdown => ["showdown"]

end Intent

end Holdem
