import Holdem.Json.Reader
import Holdem.Table.Basic

/-!
# Polled table states

The authority publishes a table as a JSON text. Every field is optional: one that is absent or has
the wrong form is no information. Amounts and counters may arrive as numbers or as decimal strings,
depending on the tool that wrote them, and a phase as a name, a list or a tagged object.
-/

namespace Holdem

/-- What a poll says about a player. -/
structure PolledPlayer where
  address : Address
  seat : Option Nat := none
  stack : Option Chips := none
  bet : Option Chips := none
  folded : Option Bool := none
  allIn : Option Bool := none
  deriving DecidableEq

/-- What a poll says about a table. -/
structure Poll where
  /-- The phase as reported, before it is mapped. -/
  phase : Option String := none
  pot : Option Chips := none
  currentTurn : Option Nat := none
  dealerSeat : Option Nat := none
  handNumber : Option UInt32 := none
  board : Option (List Card) := none
  players : Option (List PolledPlayer) := none
  deriving DecidableEq

namespace Poll

/-- A chip amount: an integer within 64 bits or the text of a 128-bit integer. -/
def amount? (json : Json) : Option Chips :=
  json.word? <|> json.text?.bind fun text => Text.amount? (Text.trim text)

/-- A counter below `2 ^ 32`: an integer or the text of one. A numeral that is no counter is not
read as anything else. -/
def count? (json : Json) : Option Nat :=
  match json.word? with
  | some (.ofNat value) => if value ≤ Text.maxWord32 then some value else none
  | _ => json.text?.bind fun text => Text.count32? (Text.trim text)

/-- The name of a variant: a string, a list that starts with one, or an object's only key. -/
def variant? : Json → Option String
  | .string content => content
  | .array (first :: _) => first.text?
  | .object members =>
    match Json.names members with
    | [key] => key
    | _ => none
  | _ => none

def card? (json : Json) : Option Card :=
  (count? json).bind fun code =>
    let card : Card := ⟨UInt32.ofNat code⟩
    if card.isValid then some card else none

/-- A board; one bad card makes the whole unusable. -/
def board? (json : Json) : Option (List Card) :=
  json.items?.bind fun items => items.mapM card?

/-- A player entry; without an address it says nothing. -/
def player? (json : Json) : Option PolledPlayer := do
  let members ← json.members?
  let address ← (Json.lookup "address" members).bind Json.text?
  some
    { address
      seat := (Json.lookup "seat_index" members).bind count?
      stack := (Json.lookup "stack" members).bind amount?
      bet := (Json.lookup "bet_this_round" members).bind amount?
      folded := (Json.lookup "folded" members).bind Json.bool?
      allIn := (Json.lookup "all_in" members).bind Json.bool? }

/-- The player entries that have an address. -/
def players? (json : Json) : Option (List PolledPlayer) :=
  json.items?.map fun items => items.filterMap player?

/-- Reads the members of a table's object. -/
def ofMembers (members : List (Option String × Json)) : Poll where
  phase := (Json.lookup "phase" members).bind variant?
  pot := (Json.lookup "pot" members).bind amount?
  currentTurn := (Json.lookup "current_turn" members).bind count?
  dealerSeat := (Json.lookup "dealer_seat" members).bind count?
  handNumber := ((Json.lookup "hand_number" members).bind count?).map UInt32.ofNat
  board := (Json.lookup "board_cards" members).bind board?
  players := (Json.lookup "players" members).bind players?

/-- Reads a published table. Anything but a JSON object is refused. -/
def ofText? (raw : String) : Option Poll :=
  (Json.parseValue (Text.trim raw)).bind fun json => json.members?.map ofMembers

end Poll

end Holdem
