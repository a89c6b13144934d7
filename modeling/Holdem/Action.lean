import Holdem.Chips

/-!
# Betting actions

A bet names the chips put in, a raise the chips added on top of a call. Whether the amounts are
positive is checked where an action is accepted, not here.
-/

namespace Holdem

/-- The account address of a player. -/
abbrev Address := String

/-- A decision of a seated player. -/
inductive Action where
  | fold
  | check
  | call
  | bet (amount : Chips)
  | raise (amount : Chips)
  | allIn
  deriving DecidableEq

namespace Action

def label : Action → String
  | .fold => "fold"
  | .check => "check"
  | .call => "call"
  | .bet _ => "bet"
  | .raise _ => "raise"
  | .allIn => "allin"

def amount? : Action → Option Chips
  | .bet amount | .raise amount => some amount
  | _ => none

/-- What a player who acts so does. -/
def text : Action → String
  | .fold => "folds"
  | .check => "checks"
  | .call => "calls"
  | .bet amount => s!"bets {amount}"
  | .raise amount => s!"raises by {amount}"
  | .allIn => "goes all-in"

end Action

end Holdem
