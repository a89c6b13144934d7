import Holdem.Table.Basic

/-!
# Chip movement

A betting action moves chips from the actor's stack into the pot and counts them as the actor's bet
of the round. `Table.settle` pays the pot out and ends the hand.
-/

namespace Holdem

/-- What a player owes to match the highest bet. -/
def Table.toCall (table : Table) (arithmetic : Arithmetic) (player : Player) : Chips :=
  max 0 (arithmetic.wrap (table.highestBet - player.bet))

/-- What an action asks a player to put in; folding and checking ask for nothing. -/
def Action.stake? (arithmetic : Arithmetic) (toCall stack : Chips) : Action → Option Chips
  | .fold | .check => none
  | .call => some toCall
  | .bet amount => some amount
  | .raise amount => some (arithmetic.wrap (toCall + amount))
  | .allIn => some stack

namespace Table

/-- Applies an action of the player with an address, and gives the chips moved into the pot.

An unknown address moves nothing. Nothing is defined when a negative stack has to put chips in. -/
def act? (table : Table) (arithmetic : Arithmetic) (address : Address) (action : Action) :
    Option (Table × Chips) :=
  match table.player? address with
  | none => some (table, 0)
  | some player =>
    match action.stake? arithmetic (table.toCall arithmetic player) player.stack with
    | none =>
      match action with
      | .fold => some (table.updatePlayer address fun player => { player with folded := true }, 0)
      | _ => some (table, 0)
    | some stake =>
      (player.commit? arithmetic stake).map fun (after, moved) =>
        ({ table.updatePlayer address fun _ => after with
            pot := arithmetic.wrap (table.pot + moved) },
          moved)

/-- Moves the pot to a winner's stack. An address that is not seated is not paid, and the pot stays
on the table. -/
def pay (table : Table) (arithmetic : Arithmetic) (winner : Address) : Table :=
  if table.isSeated winner then
    { table.updatePlayer winner fun player =>
        { player with stack := arithmetic.wrap (player.stack + table.pot) } with
      pot := 0 }
  else table

/-- Ends the hand for a winner, who is paid the pot. -/
def settle (table : Table) (arithmetic : Arithmetic) (winner : Address) : Table :=
  { (table.pay arithmetic winner).resetBets.setPhase .settlement with winner := some winner }

/-- Whether every player in the hand has matched the highest bet or is all-in. -/
def isRoundClosed (table : Table) : Bool :=
  table.livePlayers.all fun player => player.allIn || player.bet = table.highestBet

end Table

end Holdem
