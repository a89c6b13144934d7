import Holdem.Text.Blank

/-!
# Phases, streets and play modes

A hand moves from `waiting` through the four betting rounds to `settlement`. A street is the reveal
of community cards that closes a betting round: it is requested from one phase and leads to the
next. The play mode fixes how many wallets sit at the table and who decides about chips.

Players type the names of streets and modes, so these are read without regard to letter case and
surrounding blanks.
-/

namespace Holdem

/-- Where a hand is. -/
inductive Phase where
  | waiting
  | dealing
  | preflop
  | flop
  | turn
  | river
  | showdown
  | settlement
  deriving DecidableEq, Inhabited

/-- A reveal of community cards. -/
inductive Street where
  | flop
  | turn
  | river
  deriving DecidableEq

/-- The seating rules of a session. -/
inductive PlayMode where
  /-- The local player against a simulated opponent; bets stay in the session. -/
  | single
  /-- Exactly two joined wallets. -/
  | headsup
  /-- Three to six joined wallets. -/
  | multi
  deriving DecidableEq, Inhabited

namespace Phase

/-- Every phase, in the order in which a hand passes through them. -/
def all : List Phase :=
  [.waiting, .dealing, .preflop, .flop, .turn, .river, .showdown, .settlement]

def name : Phase → String
  | .waiting => "waiting"
  | .dealing => "dealing"
  | .preflop => "preflop"
  | .flop => "flop"
  | .turn => "turn"
  | .river => "river"
  | .showdown => "showdown"
  | .settlement => "settlement"

/-- How many community cards may lie on the board. -/
def boardCapacity : Phase → Nat
  | .waiting | .dealing | .preflop => 0
  | .flop => 3
  | .turn => 4
  | .river | .showdown | .settlement => 5

def isBettingRound : Phase → Bool
  | .preflop | .flop | .turn | .river => true
  | _ => false

def isHandBoundary : Phase → Bool
  | .waiting | .settlement => true
  | _ => false

/-- The street that closes the betting round. -/
def nextStreet? : Phase → Option Street
  | .preflop => some .flop
  | .flop => some .turn
  | .turn => some .river
  | _ => none

end Phase

namespace Street

def name : Street → String
  | .flop => "flop"
  | .turn => "turn"
  | .river => "river"

def phase : Street → Phase
  | .flop => .flop
  | .turn => .turn
  | .river => .river

/-- The phase from which the reveal is requested. -/
def requestedFrom : Street → Phase
  | .flop => .preflop
  | .turn => .flop
  | .river => .turn

/-- A street is requested from exactly the phase whose next street it is. -/
theorem nextStreet?_eq_some_iff {phase : Phase} {street : Street} :
    phase.nextStreet? = some street ↔ phase = street.requestedFrom := by
  cases phase <;> cases street <;> decide

def ofName? (text : String) : Except String Street :=
  match Text.lower (Text.trim text) with
  | "flop" => .ok .flop
  | "turn" => .ok .turn
  | "river" => .ok .river
  | other => .error s!"unknown street '{other}'"

end Street

namespace PlayMode

def name : PlayMode → String
  | .single => "single"
  | .headsup => "headsup"
  | .multi => "multi"

/-- The smallest and the largest number of joined wallets that can be dealt in. -/
def seatBounds : PlayMode → Nat × Nat
  | .single => (1, 1)
  | .headsup => (2, 2)
  | .multi => (3, 6)

def isSolo (mode : PlayMode) : Bool :=
  mode = .single

def ofName? (text : String) : Except String PlayMode :=
  match Text.lower (Text.trim text) with
  | "single" | "solo" => .ok .single
  | "headsup" | "heads-up" => .ok .headsup
  | "multi" => .ok .multi
  | other => .error s!"unknown play mode '{other}'"

end PlayMode

end Holdem
