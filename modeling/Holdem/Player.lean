import Holdem.Action
import Holdem.Card

/-!
# Seated players

What the client knows about a player at the table. Chips leave the stack only through `commit?`,
which moves at most the stack itself.
-/

namespace Holdem

structure Player where
  address : Address
  seat : Nat
  stack : Chips
  /-- The chips put in during the current betting round. -/
  bet : Chips := 0
  folded : Bool := false
  allIn : Bool := false
  /-- The private cards; only the local player's are ever known. -/
  hole : Option (Card × Card) := none
  deriving DecidableEq

namespace Player

/-- Whether the player can still act in the hand. -/
def isActive (player : Player) : Bool :=
  !player.folded && !player.allIn

/-- Moves up to `amount` chips from the stack into the round, and gives the chips moved.

A negative amount moves nothing and a larger one than the stack moves the stack. When the stack
itself is negative there is no amount between zero and the stack, and nothing is defined. -/
def commit? (player : Player) (arithmetic : Arithmetic) (amount : Chips) :
    Option (Player × Chips) :=
  if player.stack < 0 then none
  else
    let moved := max 0 (min amount player.stack)
    let left := player.stack - moved
    some
      ({ player with
          stack := left
          bet := arithmetic.wrap (player.bet + moved)
          allIn := player.allIn || (left = 0 && 0 < moved) },
        moved)

/-- The player at the start of a hand: nothing bet, nothing folded and no private cards. -/
def fresh (player : Player) : Player :=
  { player with bet := 0, folded := false, allIn := false, hole := none }

end Player

end Holdem
