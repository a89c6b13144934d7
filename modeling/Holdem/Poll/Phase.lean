import Holdem.Phase

/-!
# Phases as the table contract reports them

The contract tells the round that is being dealt apart from the round before it. While the cards of
a street are prepared the hand still counts as the round that is closing. A disputed hand, and a
name that nobody knows, say nothing about the phase.
-/

namespace Holdem

/-- A phase name from the contract. -/
inductive ReportedPhase where
  | waiting
  | dealing
  | preflop
  | dealingFlop
  | flop
  | dealingTurn
  | turn
  | dealingRiver
  | river
  | showdown
  | settlement
  /-- The hand is frozen until a dispute is resolved. -/
  | dispute
  /-- A name with no meaning here. -/
  | unknown (name : String)
  deriving DecidableEq

namespace ReportedPhase

/-- Reads a reported name; the names are exact up to surrounding blanks. -/
def ofName (raw : String) : ReportedPhase :=
  match Text.trim raw with
  | "Waiting" => .waiting
  | "Dealing" => .dealing
  | "Preflop" => .preflop
  | "DealingFlop" => .dealingFlop
  | "Flop" => .flop
  | "DealingTurn" => .dealingTurn
  | "Turn" => .turn
  | "DealingRiver" => .dealingRiver
  | "River" => .river
  | "Showdown" => .showdown
  | "Settlement" => .settlement
  | "Dispute" => .dispute
  | other => .unknown other

def name : ReportedPhase → String
  | .waiting => "Waiting"
  | .dealing => "Dealing"
  | .preflop => "Preflop"
  | .dealingFlop => "DealingFlop"
  | .flop => "Flop"
  | .dealingTurn => "DealingTurn"
  | .turn => "Turn"
  | .dealingRiver => "DealingRiver"
  | .river => "River"
  | .showdown => "Showdown"
  | .settlement => "Settlement"
  | .dispute => "Dispute"
  | .unknown name => name

/-- The phase that a report stands for, if it stands for one. -/
def phase? : ReportedPhase → Option Phase
  | .waiting => some .waiting
  | .dealing => some .dealing
  | .preflop | .dealingFlop => some .preflop
  | .flop | .dealingTurn => some .flop
  | .turn | .dealingRiver => some .turn
  | .river => some .river
  | .showdown => some .showdown
  | .settlement => some .settlement
  | .dispute | .unknown _ => none

/-- Whether the name has no meaning here. -/
def isUnknown : ReportedPhase → Bool
  | .unknown _ => true
  | _ => false

/-- The report that carries a phase's own name. -/
def ofPhase : Phase → ReportedPhase
  | .waiting => .waiting
  | .dealing => .dealing
  | .preflop => .preflop
  | .flop => .flop
  | .turn => .turn
  | .river => .river
  | .showdown => .showdown
  | .settlement => .settlement

/-- A phase's own report stands for that phase. -/
@[simp]
theorem phase?_ofPhase (phase : Phase) : (ofPhase phase).phase? = some phase := by
  cases phase <;> rfl

end ReportedPhase

/-- The phase that a reported name stands for. -/
def reportedPhase? (raw : String) : Option Phase :=
  (ReportedPhase.ofName raw).phase?

end Holdem
