/-!
# Cards

A card is a number: the suit, in the order clubs, diamonds, hearts, spades, times thirteen plus the
rank, from the deuce to the ace. Numbers from 52 on name no card; they can arrive from outside and
are shown as `??`.
-/

namespace Holdem

/-- A card number. -/
structure Card where
  code : UInt32
  deriving DecidableEq

namespace Card

def deckSize : UInt32 := 52

def isValid (card : Card) : Bool :=
  card.code < deckSize

/-- The rank, from 0 for a deuce to 12 for an ace. -/
def rank (card : Card) : UInt32 :=
  card.code % 13

/-- The suit, from 0 for clubs to 3 for spades. -/
def suit (card : Card) : UInt32 :=
  card.code / 13

def rankText (rank : UInt32) : String :=
  match rank with
  | 9 => "J"
  | 10 => "Q"
  | 11 => "K"
  | 12 => "A"
  | other => toString (other.toNat + 2)

def suitText (suit : UInt32) : String :=
  match suit with
  | 0 => "♣"
  | 1 => "♦"
  | 2 => "♥"
  | _ => "♠"

def text (card : Card) : String :=
  if card.isValid then rankText card.rank ++ suitText card.suit else "??"

end Card

end Holdem
