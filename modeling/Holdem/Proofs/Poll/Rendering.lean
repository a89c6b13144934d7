import Holdem.Poll.Basic
import Holdem.Proofs.Json.Value
import Holdem.Proofs.Json.Wire
import Holdem.Proofs.Text.Printed

/-!
# Rendered tables

The authority holds a table with all its integers, and the tool that renders it decides which of
them become numbers and which become strings of digits. What a poll reads of the text is compared
with what the table holds (`PublishedTable.told`).

A counter is read the same in either form. An amount has 128 bits: its digits are always read, but
a general value holds a number of more than 64 bits as a double, and then the amount is no
information. These amounts are all that can be lost between the table and the poll
(`PublishedTable.heard`).
-/

namespace Holdem

/-- The forms in which integers are written. -/
inductive IntegerForm where
  | number
  | digits
  deriving DecidableEq

namespace Poll

/-! ## One integer -/

theorem amount?_integer (value : Int) :
    amount? (.integer value) = if Numeral.isWord value then some value else none := by
  rw [amount?, Json.integer, Json.word?, Numeral.word?_ofInt]
  split <;> rfl

theorem amount?_text_toString (value : Int) :
    amount? (.text (toString value)) = if isAmount value then some value else none := by
  have read : amount? (.text (toString value)) = Text.amount? (Text.trim (toString value)) := by
    simp [amount?, Json.text, Json.word?, Json.text?]
  rw [read, Text.trim_toString, Text.amount?_toString]
  simp only [isAmount, Bool.and_eq_true, decide_eq_true_eq]

theorem count?_text_toString (value : Int) :
    count? (.text (toString value)) =
      if 0 ≤ value ∧ value ≤ Text.maxWord32 then some value.toNat else none := by
  have read : count? (.text (toString value)) = Text.count32? (Text.trim (toString value)) := by
    simp [count?, Json.text, Json.word?, Json.text?]
  rw [read, Text.trim_toString, Text.count32?_toString]

theorem count?_integer (value : Int) :
    count? (.integer value) =
      if 0 ≤ value ∧ value ≤ Text.maxWord32 then some value.toNat else none := by
  have word : (Json.integer value).word? = if Numeral.isWord value then some value else none :=
    Numeral.word?_ofInt value
  rw [count?, word]
  by_cases isWord : Numeral.isWord value = true
  · rw [if_pos isWord]
    cases value with
    | ofNat number => simp
    | negSucc number => simp [Json.integer, Json.text?]
  · -- What is no counter by its size is no text either, so nothing else is tried.
    rw [if_neg isWord, if_neg]
    · rfl
    · have wider : Text.maxWord32 ≤ Text.maxWord64 := by decide
      simp only [Numeral.isWord, Bool.and_eq_true, decide_eq_true_eq] at isWord
      omega

theorem ofText?_print_record {members : List (String × Json)}
    (plain : (Json.record members).Plain) :
    ofText? (Json.record members).print =
      if (Json.record members).isValue then some (ofMembers (Json.named members)) else none := by
  rw [ofText?, Json.trim_print_record, Json.parseValue_print plain]
  split <;> rfl

end Poll

/-! ## The table and its rendering -/

/-- A player as the authority holds it. -/
structure PublishedPlayer where
  address : Address
  seat : UInt32
  stack : Chips
  bet : Chips
  folded : Bool
  allIn : Bool
  isAmount_stack : isAmount stack = true
  isAmount_bet : isAmount bet = true

/-- A table as the authority holds it: amounts have 128 bits, and the cards of the board exist. -/
structure PublishedTable where
  phase : String
  pot : Chips
  currentTurn : UInt32
  dealerSeat : UInt32
  handNumber : UInt32
  board : List Card
  players : List PublishedPlayer
  isAmount_pot : isAmount pot = true
  isValid_of_mem_board : ∀ card ∈ board, card.isValid = true

/-- A tool that renders tables: the form in which it writes the integer under a name. -/
structure Tool where
  form : String → Int → IntegerForm

namespace Tool

variable (tool : Tool) (name : String) (value : Int)

def write : Json :=
  match tool.form name value with
  | .number => .integer value
  | .digits => .text (toString value)

/-- The tool writes an amount so that it is read again: a number only when it has 64 bits. -/
def Keeps : Prop :=
  tool.form name value = .number → Numeral.isWord value = true

instance : Decidable (tool.Keeps name value) :=
  inferInstanceAs (Decidable (_ = _ → _ = _))

/-- What is left of an amount. -/
def kept? : Option Chips :=
  if tool.Keeps name value then some value else none

theorem count?_write :
    Poll.count? (tool.write name value) =
      if 0 ≤ value ∧ value ≤ Text.maxWord32 then some value.toNat else none := by
  rw [write]
  split
  · exact Poll.count?_integer value
  · exact Poll.count?_text_toString value

variable {value} in
theorem amount?_write (bounded : isAmount value = true) :
    Poll.amount? (tool.write name value) = tool.kept? name value := by
  rw [write]
  split
  case h_1 number => simp [Poll.amount?_integer, kept?, Keeps, number]
  case h_2 digits =>
    rw [Poll.amount?_text_toString, if_pos bounded]
    simp [kept?, Keeps, digits]

theorem toNat_le_maxWord32 (word : UInt32) : word.toNat ≤ Text.maxWord32 :=
  Nat.le_of_lt_succ word.toNat_lt

theorem count?_write_word (word : UInt32) :
    Poll.count? (tool.write name word.toNat) = some word.toNat := by
  have bounded := toNat_le_maxWord32 word
  rw [count?_write, if_pos (by omega), Int.toNat_natCast]

theorem card?_write {card : Card} (valid : card.isValid = true) :
    Poll.card? (tool.write name card.code.toNat) = some card := by
  rw [Poll.card?, count?_write_word, Option.bind_some]
  simp [valid]

theorem plain_write : (tool.write name value).Plain := by
  rw [write]
  split
  · exact .integer value
  · exact .text _

variable {tool name value} in
theorem held_write {levels : Nat}
    (inRange : tool.form name value = .number → (Numeral.ofInt value).inRange = true) :
    Json.Held levels (tool.write name value) := by
  rw [write]
  split
  case h_1 number => exact Json.held_integer (inRange number)
  case h_2 => exact Json.held_text _

theorem held_write_word {levels : Nat} (word : UInt32) :
    Json.Held levels (tool.write name word.toNat) := by
  have bounded := toNat_le_maxWord32 word
  have wider : Text.maxWord32 ≤ Text.maxWord64 := by decide
  have isWord : Numeral.isWord word.toNat = true := by
    simp only [Numeral.isWord, Bool.and_eq_true, decide_eq_true_eq]
    omega
  exact held_write fun _ => Numeral.inRange_of_isWord isWord

end Tool

namespace PublishedPlayer

def render (tool : Tool) (player : PublishedPlayer) : Json :=
  .record
    [("address", .text player.address),
      ("seat_index", tool.write "seat_index" player.seat.toNat),
      ("stack", tool.write "stack" player.stack),
      ("bet_this_round", tool.write "bet_this_round" player.bet),
      ("folded", .bool player.folded),
      ("all_in", .bool player.allIn)]

/-- The entry of a poll that says all about the player. -/
def told (player : PublishedPlayer) : PolledPlayer where
  address := player.address
  seat := some player.seat.toNat
  stack := some player.stack
  bet := some player.bet
  folded := some player.folded
  allIn := some player.allIn

/-- The entry of a poll that misses what the tool does not keep. -/
def heard (tool : Tool) (player : PublishedPlayer) : PolledPlayer :=
  { player.told with
    stack := tool.kept? "stack" player.stack
    bet := tool.kept? "bet_this_round" player.bet }

theorem player?_render (tool : Tool) (player : PublishedPlayer) :
    Poll.player? (player.render tool) = some (player.heard tool) := by
  have read : Poll.player? (player.render tool) = some
      { address := player.address
        seat := Poll.count? (tool.write "seat_index" player.seat.toNat)
        stack := Poll.amount? (tool.write "stack" player.stack)
        bet := Poll.amount? (tool.write "bet_this_round" player.bet)
        folded := some player.folded
        allIn := some player.allIn } := by
    simp [Poll.player?, render, Json.record, Json.members?, Json.lookup_cons, Json.lookup_nil,
      Json.text, Json.text?, Json.bool?]
  rw [read, tool.count?_write_word, tool.amount?_write _ player.isAmount_stack,
    tool.amount?_write _ player.isAmount_bet]
  rfl

end PublishedPlayer

namespace PublishedTable

variable (tool : Tool) (table : PublishedTable)

def members : List (String × Json) :=
  [("phase", .text table.phase),
    ("pot", tool.write "pot" table.pot),
    ("current_turn", tool.write "current_turn" table.currentTurn.toNat),
    ("dealer_seat", tool.write "dealer_seat" table.dealerSeat.toNat),
    ("hand_number", tool.write "hand_number" table.handNumber.toNat),
    ("board_cards",
      .array (table.board.map fun card => tool.write "board_cards" card.code.toNat)),
    ("players", .array (table.players.map (PublishedPlayer.render tool)))]

def render : Json := .record (table.members tool)

/-- The poll that says all about the table. -/
def told : Poll where
  phase := some table.phase
  pot := some table.pot
  currentTurn := some table.currentTurn.toNat
  dealerSeat := some table.dealerSeat.toNat
  handNumber := some table.handNumber
  board := some table.board
  players := some (table.players.map PublishedPlayer.told)

/-- The poll that misses what the tool does not keep. -/
def heard : Poll :=
  { table.told with
    pot := tool.kept? "pot" table.pot
    players := some (table.players.map (PublishedPlayer.heard tool)) }

/-- The amounts of a table with the names under which they are written. -/
def amounts : List (String × Chips) :=
  ("pot", table.pot) ::
    table.players.flatMap fun player =>
      [("stack", player.stack), ("bet_this_round", player.bet)]

theorem board?_members :
    Poll.board? (.array (table.board.map fun card => tool.write "board_cards" card.code.toNat)) =
      some table.board :=
  mapM_map_eq_some fun card member => tool.card?_write _ (table.isValid_of_mem_board card member)

theorem players?_members :
    Poll.players? (.array (table.players.map (PublishedPlayer.render tool))) =
      some (table.players.map (PublishedPlayer.heard tool)) := by
  have read : Poll.player? ∘ PublishedPlayer.render tool = some ∘ PublishedPlayer.heard tool :=
    funext fun player => player.player?_render tool
  rw [Poll.players?, Json.items?, Option.map_some, List.filterMap_map, read,
    List.filterMap_eq_map]

theorem ofMembers_members :
    Poll.ofMembers (Json.named (table.members tool)) = table.heard tool := by
  have read : Poll.ofMembers (Json.named (table.members tool)) =
      { phase := some table.phase
        pot := Poll.amount? (tool.write "pot" table.pot)
        currentTurn := Poll.count? (tool.write "current_turn" table.currentTurn.toNat)
        dealerSeat := Poll.count? (tool.write "dealer_seat" table.dealerSeat.toNat)
        handNumber :=
          (Poll.count? (tool.write "hand_number" table.handNumber.toNat)).map UInt32.ofNat
        board := Poll.board?
          (.array (table.board.map fun card => tool.write "board_cards" card.code.toNat))
        players := Poll.players? (.array (table.players.map (PublishedPlayer.render tool))) } := by
    simp [Poll.ofMembers, members, Json.named, Json.lookup_cons, Json.lookup_nil, Json.text,
      Poll.variant?]
  rw [read, tool.amount?_write _ table.isAmount_pot]
  simp only [tool.count?_write_word, table.board?_members, table.players?_members, Option.map_some,
    UInt32.ofNat_toNat]
  rfl

/-! ## The text -/

theorem plain_render : (table.render tool).Plain := by
  have player (player : PublishedPlayer) : (player.render tool).Plain :=
    .record (by simp [Json.Plain.text, Json.Plain.bool, tool.plain_write])
  apply Json.Plain.record
  simp only [members, List.forall_mem_cons]
  refine ⟨.text _, tool.plain_write _ _, tool.plain_write _ _, tool.plain_write _ _,
    tool.plain_write _ _, .array ?_, .array ?_, nofun⟩
  · simp [tool.plain_write]
  · simp [player]

/-- A poll of the rendered table hears what the tool keeps, unless the text is refused because a
number is no double. -/
theorem ofText?_render :
    Poll.ofText? (table.render tool).print =
      if (table.render tool).isValue then some (table.heard tool) else none := by
  rw [render, Poll.ofText?_print_record (table.plain_render tool), ofMembers_members]

variable {tool table}

theorem forall_amounts_iff {holds : String × Chips → Prop} :
    (∀ entry ∈ table.amounts, holds entry) ↔
      holds ("pot", table.pot) ∧ ∀ player ∈ table.players,
        holds ("stack", player.stack) ∧ holds ("bet_this_round", player.bet) := by
  simp only [amounts, List.forall_mem_cons, List.forall_mem_flatMap, List.not_mem_nil,
    false_implies, implies_true, and_true]

theorem heard_eq_told_iff :
    table.heard tool = table.told ↔ ∀ entry ∈ table.amounts, tool.Keeps entry.1 entry.2 := by
  rw [forall_amounts_iff]
  simp [heard, told, PublishedPlayer.heard, PublishedPlayer.told, Tool.kept?]

theorem isValue_render
    (inRange : ∀ entry ∈ table.amounts,
      tool.form entry.1 entry.2 = .number → (Numeral.ofInt entry.2).inRange = true) :
    (table.render tool).isValue = true := by
  rw [forall_amounts_iff] at inRange
  have cards : ∀ item ∈ table.board.map fun card => tool.write "board_cards" card.code.toNat,
      Json.Held 1 item := by
    simp [tool.held_write_word]
  have players : ∀ item ∈ table.players.map (PublishedPlayer.render tool), Json.Held 1 item := by
    simp only [List.forall_mem_map]
    intro player member
    rcases inRange.2 player member with ⟨stack, bet⟩
    apply Json.Held.record
    simp [Json.held_text, Json.held_bool, tool.held_write_word, Tool.held_write stack,
      Tool.held_write bet]
  -- A table's players are in three brackets: the table's, the list's and their own.
  have held : Json.Held 3 (table.render tool) := by
    apply Json.Held.record
    simp only [members, List.forall_mem_cons]
    exact ⟨Json.held_text _, Tool.held_write inRange.1, tool.held_write_word _ _,
      tool.held_write_word _ _, tool.held_write_word _ _, .array cards, .array players, nofun⟩
  exact held.isValue (by decide)

/-- Where long numbers are doubles the text is read, and exactly the amounts are missing that the
tool does not keep. -/
theorem ofText?_render_of_inRange
    (inRange : ∀ entry ∈ table.amounts,
      tool.form entry.1 entry.2 = .number → (Numeral.ofInt entry.2).inRange = true) :
    Poll.ofText? (table.render tool).print = some (table.heard tool) := by
  rw [ofText?_render, if_pos (isValue_render inRange)]

end PublishedTable

namespace Poll

/-- Counters are read the same from their number and from their digits. Amounts are read from their
digits, and from their number exactly when it has 64 bits; so a poll hears a rendered table just as
it is, whatever the tool, exactly when no longer amount is written as a number. -/
theorem read_in_either_form (amount : Chips) (value : Int) (tool : Tool) (table : PublishedTable)
    (bounded : isAmount amount = true) :
    amount? (.text (toString amount)) = some amount ∧
      amount? (.integer amount) = (if Numeral.isWord amount then some amount else none) ∧
      count? (.integer value) = count? (.text (toString value)) ∧
      count? (.integer value) =
        (if 0 ≤ value ∧ value ≤ Text.maxWord32 then some value.toNat else none) ∧
      (ofText? (table.render tool).print = some table.told ↔
        ∀ entry ∈ table.amounts, tool.Keeps entry.1 entry.2) := by
  rw [amount?_text_toString, if_pos bounded, count?_integer, count?_text_toString]
  refine ⟨rfl, amount?_integer amount, rfl, rfl, ?_⟩
  rw [← PublishedTable.heard_eq_told_iff]
  constructor
  · -- A text that is refused tells nothing, so what is heard was read.
    intro read
    rw [table.ofText?_render] at read
    split at read
    · exact Option.some.inj read
    · cases read
  · intro same
    have kept := PublishedTable.heard_eq_told_iff.mp same
    rw [PublishedTable.ofText?_render_of_inRange, same]
    exact fun entry among number => Numeral.inRange_of_isWord (kept entry among number)

/-- The largest amount in digits, beside the largest and the least number of 64 bits, and the least
number that is no counter. -/
theorem read_in_either_form_of_extremes :
    let tool : Tool := ⟨fun name _ => if name = "stack" then .digits else .number⟩
    let player : PublishedPlayer :=
      { address := "a", seat := 4294967295, stack := 170141183460469231731687303715884105727
        bet := -9223372036854775808, folded := false, allIn := true
        isAmount_stack := by decide, isAmount_bet := by decide }
    let table : PublishedTable :=
      { phase := "Flop", pot := 18446744073709551615, currentTurn := 0, dealerSeat := 1
        handNumber := 4294967295, board := [⟨0⟩, ⟨51⟩, ⟨13⟩], players := [player]
        isAmount_pot := by decide, isValid_of_mem_board := by decide }
    isAmount table.pot = true ∧ amount? (.text (toString table.pot)) = some table.pot ∧
      amount? (.integer table.pot) = some table.pot ∧ count? (.integer 4294967296) = none ∧
      (∀ entry ∈ table.amounts, tool.Keeps entry.1 entry.2) ∧
      ofText? (table.render tool).print = some table.told := by
  intro tool player table
  have kept : ∀ entry ∈ table.amounts, tool.Keeps entry.1 entry.2 := by decide
  rcases read_in_either_form table.pot 4294967296 tool table table.isAmount_pot with
    ⟨digits, number, _, counter, heard⟩
  exact ⟨table.isAmount_pot, digits, number, counter, kept, heard.mpr kept⟩

/-- The least amount above all numbers of 64 bits. A poll that has the number of it does not hear
the pot, and a poll that has its digits does. -/
theorem long_number_is_lost :
    let amount : Chips := 18446744073709551616
    let number := Json.record [("pot", .integer amount)]
    let digits := Json.record [("pot", .text (toString amount))]
    isAmount amount = true ∧ amount? (.integer amount) = none ∧
      amount? (.text (toString amount)) = some amount ∧
      number.print = "\x7b\"pot\":18446744073709551616\x7d" ∧
      ofText? number.print ≠ some { pot := some amount } ∧
      digits.print = "\x7b\"pot\":\"18446744073709551616\"\x7d" ∧
      ofText? digits.print = some { pot := some amount } := by
  intro amount number digits
  have lost : amount? (.integer amount) = none := by decide
  have kept : amount? (.text (toString amount)) = some amount := by decide
  have heard (json : Json) : ofMembers (Json.named [("pot", json)]) = { pot := amount? json } := rfl
  have plainNumber : number.Plain := .record (by simp [Json.Plain.integer])
  have plainDigits : digits.Plain := .record (by simp [Json.Plain.text])
  refine ⟨by decide, lost, kept, by decide, ?_, by decide, ?_⟩
  · rw [ofText?_print_record plainNumber, heard, lost]
    split <;> simp
  · rw [ofText?_print_record plainDigits, if_pos (by decide), heard, kept]

end Poll

end Holdem
