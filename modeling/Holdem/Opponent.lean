import Holdem.Betting

/-!
# The simulated opponent

In a solo session the other seat is played by a simple model. It never sees its own cards, so the
strength of its hand is a draw made for each decision, and a second draw decides the close calls. It
only folds, checks or calls, and therefore every betting round closes on its reply.

Both draws and all thresholds are 32-bit floats between zero and one. The presets are written as
hundredths, so that the same constant serves as a float and as text.
-/

namespace Holdem

/-- A constant with two decimal places. -/
structure Hundredths where
  count : Nat
  deriving DecidableEq

namespace Hundredths

def toFloat32 (value : Hundredths) : Float32 :=
  Float32.ofScientific value.count true 2

def text (value : Hundredths) : String :=
  let whole := toString (value.count / 100)
  let tenths := value.count / 10 % 10
  let ones := value.count % 10
  if ones ≠ 0 then whole ++ "." ++ toString tenths ++ toString ones
  else if tenths ≠ 0 then whole ++ "." ++ toString tenths
  else whole

end Hundredths

/-- How hard the simulated opponent plays. -/
inductive Difficulty where
  | easy
  | standard
  | tag
  deriving DecidableEq, Inhabited

/-- The character of a difficulty. -/
structure PlayStyle where
  /-- The share of hands played voluntarily. -/
  participation : Hundredths
  /-- How many raises are made for each call. -/
  aggression : Hundredths
  /-- Whether hands without value are sometimes called down. -/
  bluffs : Bool
  /-- How often that happens. -/
  bluffFrequency : Hundredths

namespace Difficulty

def name : Difficulty → String
  | .easy => "easy"
  | .standard => "standard"
  | .tag => "tag"

def ofName? (text : String) : Except String Difficulty :=
  match Text.lower (Text.trim text) with
  | "easy" => .ok .easy
  | "standard" => .ok .standard
  | "tag" => .ok .tag
  | other => .error s!"unknown difficulty '{other}'"

def style : Difficulty → PlayStyle
  | .easy => ⟨⟨45⟩, ⟨50⟩, false, ⟨0⟩⟩
  | .standard => ⟨⟨30⟩, ⟨150⟩, true, ⟨15⟩⟩
  | .tag => ⟨⟨20⟩, ⟨250⟩, true, ⟨25⟩⟩

end Difficulty

/-- The strengths below which a hand is given up and from which it always goes on. -/
structure Bounds where
  fold : Float32
  goOn : Float32

structure Thresholds where
  easyFold : Float32 := 0.08
  easyGoOn : Float32 := 0.20
  standardFold : Float32 := 0.12
  standardGoOn : Float32 := 0.28
  tagFold : Float32 := 0.18
  tagGoOn : Float32 := 0.33
  /-- The pot odds above which calling is favoured. -/
  oddsBonusFrom : Float32 := 0.25
  /-- What good pot odds add to the chance of a call. -/
  oddsBonus : Float32 := 0.2
  /-- The chance that a middling hand calls. -/
  baseCall : Float32 := 0.3
  /-- The aggression is divided by this before it is added to that chance. -/
  aggressionDivisor : Float32 := 5.0

/-- Replaces the threshold of a name; another name changes nothing. -/
def Thresholds.adjust (thresholds : Thresholds) (name : String) (value : Float32) : Thresholds :=
  match name with
  | "easy_fold_threshold" => { thresholds with easyFold := value }
  | "easy_continue_threshold" => { thresholds with easyGoOn := value }
  | "standard_fold_threshold" => { thresholds with standardFold := value }
  | "standard_continue_threshold" => { thresholds with standardGoOn := value }
  | "tag_fold_threshold" => { thresholds with tagFold := value }
  | "tag_continue_threshold" => { thresholds with tagGoOn := value }
  | "pot_odds_bonus_threshold" => { thresholds with oddsBonusFrom := value }
  | "pot_odds_bonus_value" => { thresholds with oddsBonus := value }
  | "base_call_probability" => { thresholds with baseCall := value }
  | "call_aggression_divisor" => { thresholds with aggressionDivisor := value }
  | _ => thresholds

/-- What a decision depends on besides the draws. -/
structure Spot where
  pot : Chips
  toCall : Chips
  stack : Chips
  deriving DecidableEq

/-- The two draws of a decision. -/
structure Draw where
  strength : Float32
  roll : Float32

def Table.spot? (table : Table) (arithmetic : Arithmetic) (address : Address) : Option Spot :=
  (table.player? address).map fun player =>
    { pot := table.pot, toCall := table.toCall arithmetic player, stack := player.stack }

structure Opponent where
  style : PlayStyle
  thresholds : Thresholds := {}

namespace Opponent

def ofDifficulty (difficulty : Difficulty) : Opponent := { style := difficulty.style }

/-- The bounds for the share of hands that the opponent plays: loose above 40 per cent, middling
above 25, tight otherwise. -/
def bounds (opponent : Opponent) : Bounds :=
  if 40 < opponent.style.participation.count then
    ⟨opponent.thresholds.easyFold, opponent.thresholds.easyGoOn⟩
  else if 25 < opponent.style.participation.count then
    ⟨opponent.thresholds.standardFold, opponent.thresholds.standardGoOn⟩
  else ⟨opponent.thresholds.tagFold, opponent.thresholds.tagGoOn⟩

/-- The pot's share of the pot after a call. -/
def potOdds (arithmetic : Arithmetic) (pot toCall : Chips) : Float32 :=
  let total := arithmetic.wrap (pot + toCall)
  if toCall ≤ 0 then 1.0
  else if total ≤ 0 then 0.0
  else Float32.ofInt pot / Float32.ofInt total

/-- The chance that a middling hand calls. -/
def callChance (opponent : Opponent) (arithmetic : Arithmetic) (spot : Spot) : Float32 :=
  let bonus :=
    if potOdds arithmetic spot.pot spot.toCall > opponent.thresholds.oddsBonusFrom then
      opponent.thresholds.oddsBonus
    else 0.0
  opponent.thresholds.baseCall +
    opponent.style.aggression.toFloat32 / opponent.thresholds.aggressionDivisor + bonus

/-- The chance cut to one; a chance that is no number counts as one. -/
def cutToOne (chance : Float32) : Float32 :=
  if chance < 1.0 then chance else 1.0

/-- Decides for a spot and a draw. Nothing to call, or no chips to call with, is a check. -/
def decide (opponent : Opponent) (arithmetic : Arithmetic) (spot : Spot) (draw : Draw) : Action :=
  if spot.toCall ≤ 0 ∨ spot.stack ≤ 0 then .check
  else if draw.strength < opponent.bounds.fold then
    if opponent.style.bluffs && draw.roll < opponent.style.bluffFrequency.toFloat32 then .call
    else .fold
  else if draw.strength ≥ opponent.bounds.goOn then .call
  else if draw.roll < cutToOne (opponent.callChance arithmetic spot) then .call
  else .fold

/-- The reply of a seat; one that is not at the table checks. -/
def respond (opponent : Opponent) (arithmetic : Arithmetic) (table : Table) (address : Address)
    (draw : Draw) : Action :=
  match table.spot? arithmetic address with
  | none => .check
  | some spot => opponent.decide arithmetic spot draw

end Opponent

end Holdem
