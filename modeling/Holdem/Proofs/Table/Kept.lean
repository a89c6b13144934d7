import Holdem.Proofs.Table.Board
import Holdem.Proofs.Table.Hand
import Holdem.Proofs.Table.Merge
import Holdem.Proofs.Table.Reseating
import Holdem.Proofs.Text.Decimal

/-!
# Amounts that are kept

The pot and the bets of a snapshot are sums that have been kept before or amounts that a poll has
brought, and a poll brings none that is longer than a word. Nothing is lost when such an amount is
kept again, so a change that adds nothing to them leaves them as they are.
-/

namespace Holdem

/-! ## Polled amounts -/

/-- A written amount fits in a word. -/
theorem Text.bounds_of_amount? {word : String} {amount : Int} (read : amount? word = some amount) :
    -(maxAmount : Int) - 1 ≤ amount ∧ amount ≤ maxAmount := by
  rw [amount?_eq_some_iff, readInteger_eq_ok_iff] at read
  rcases read with ⟨number, _, within, rfl⟩ | ⟨letters, number, _, digits, rfl⟩
  · omega
  · have within := (digits_eq_ok_iff.mp digits).2.2.2
    omega

theorem Numeral.bounds_of_word? {numeral : Numeral} {value : Int}
    (read : numeral.word? = some value) :
    -0x8000000000000000 ≤ value ∧ value ≤ Text.maxWord64 := by
  simp only [word?, Option.bind_eq_bind, Option.bind_eq_some_iff] at read
  rcases read with ⟨literal, whole, bounded⟩
  rcases numeral with ⟨_ | _, digits, _ | fraction, _ | exponent⟩ <;>
    simp only [literal?, reduceCtorEq, Option.some.injEq, Bool.false_eq_true, ↓reduceIte] at whole
  · have natural := Int.natCast_nonneg (valueOf digits)
    simp only [Bool.false_eq_true, ↓reduceIte, Option.ite_none_right_eq_some, Option.some.injEq]
      at bounded
    omega
  · simp only [↓reduceIte, Option.ite_none_right_eq_some, Option.some.injEq] at bounded
    have word : (0 : Int) ≤ Text.maxWord64 := by decide
    omega

namespace Poll

variable (arithmetic : Arithmetic)

/-- Amounts that are read are kept as they are. -/
theorem fits_of_amount? {json : Json} {amount : Chips} (read : amount? json = some amount) :
    arithmetic.Fits amount := by
  rcases number : json.word? with _ | value
  · simp only [amount?, number, Option.orElse_eq_orElse, Option.orElse_none] at read
    rcases Option.bind_eq_some_iff.mp read with ⟨word, _, written⟩
    have bounds := Text.bounds_of_amount? written
    exact arithmetic.fits_of_bounds bounds.1 bounds.2
  · simp only [amount?, number, Option.orElse_eq_orElse, Option.orElse_some, Option.some.injEq]
      at read
    cases json with
    | number numeral =>
      have bounds := Numeral.bounds_of_word? number
      have wider : (Text.maxWord64 : Int) ≤ Text.maxAmount := by decide
      have deeper : -(Text.maxAmount : Int) - 1 ≤ -0x8000000000000000 := by decide
      exact arithmetic.fits_of_bounds (by lia) (by lia)
    | _ => exact absurd number (by simp [Json.word?])

/-- The pot and the bets of a poll are kept as they are. -/
structure Kept (poll : Poll) : Prop where
  pot : ∀ amount, poll.pot = some amount → arithmetic.Fits amount
  bets : ∀ entry ∈ poll.entries, ∀ amount, entry.bet = some amount → arithmetic.Fits amount

theorem fits_bet_of_player? {item : Json} {entry : PolledPlayer} {amount : Chips}
    (read : player? item = some entry) (bet : entry.bet = some amount) :
    arithmetic.Fits amount := by
  simp only [player?, Option.bind_eq_bind, Option.bind_eq_some_iff, Option.some.injEq] at read
  rcases read with ⟨members, _, address, _, rfl⟩
  rcases Option.bind_eq_some_iff.mp bet with ⟨value, _, told⟩
  exact fits_of_amount? arithmetic told

theorem kept_of_ofText? {raw : String} {poll : Poll} (read : ofText? raw = some poll) :
    poll.Kept arithmetic := by
  simp only [ofText?, Option.bind_eq_some_iff, Option.map_eq_some_iff] at read
  rcases read with ⟨json, _, members, _, rfl⟩
  constructor
  · intro amount pot
    rcases Option.bind_eq_some_iff.mp pot with ⟨value, _, told⟩
    exact fits_of_amount? arithmetic told
  · intro entry member amount bet
    simp only [entries, ofMembers] at member
    rcases listed : (Json.lookup "players" members).bind players? with _ | entries
    · rw [listed] at member
      exact absurd member List.not_mem_nil
    · rw [listed, Option.getD_some] at member
      rcases Option.bind_eq_some_iff.mp listed with ⟨value, _, told⟩
      rcases Option.map_eq_some_iff.mp told with ⟨items, _, rfl⟩
      rcases List.mem_filterMap.mp member with ⟨item, _, known⟩
      exact fits_bet_of_player? arithmetic known bet

end Poll

/-! ## Snapshots -/

/-- The pot and the bets of a snapshot are kept as they are. -/
structure Table.Kept (arithmetic : Arithmetic) (table : Table) : Prop where
  pot : arithmetic.Fits table.pot
  bets : ∀ player ∈ table.players, arithmetic.Fits player.bet

namespace Table

variable {arithmetic : Arithmetic} {table after : Table}

theorem kept_opened (arithmetic : Arithmetic) (tableId : UInt32) :
    (opened tableId).Kept arithmetic :=
  ⟨arithmetic.fits_zero, fun _ member => absurd member List.not_mem_nil⟩

namespace Kept

theorem updatePlayer (kept : table.Kept arithmetic) {address : Address} {change : Player → Player}
    {pot : Chips} (fits : arithmetic.Fits pot)
    (bets : ∀ player, arithmetic.Fits player.bet → arithmetic.Fits (change player).bet) :
    Kept arithmetic { table.updatePlayer address change with pot } := by
  refine ⟨fits, fun player member => ?_⟩
  rcases mem_updatePlayer member with old | ⟨old, oldMember, _, rfl⟩
  · exact kept.bets player old
  · exact bets old (kept.bets old oldMember)

theorem act? (kept : table.Kept arithmetic) {address : Address} {action : Action} {moved : Chips}
    (acts : table.act? arithmetic address action = some (after, moved)) :
    after.Kept arithmetic := by
  rcases act?_cases acts with
    ⟨_, rfl, _⟩ | ⟨player, _, ⟨_, _, rfl⟩ | ⟨_, _, rfl⟩ | ⟨stake, committed, _, commits, rfl⟩⟩
  · exact kept
  · exact kept.updatePlayer kept.pot fun _ fits => fits
  · exact kept
  · rcases Player.commit?_eq_some commits with ⟨_, _, _, bet, _⟩
    apply kept.updatePlayer (arithmetic.fits_wrap _)
    intro _ _
    rw [bet]
    exact arithmetic.fits_wrap _

theorem settle (kept : table.Kept arithmetic) (winner : Address) :
    (table.settle arithmetic winner).Kept arithmetic := by
  constructor
  · rw [(table.settle_balance winner).2]
    split
    · exact arithmetic.fits_zero
    · exact kept.pot
  · intro player member
    rcases List.mem_map.mp member with ⟨old, _, rfl⟩
    exact arithmetic.fits_zero

theorem decide (kept : table.Kept arithmetic) (mode : PlayMode) (winner : Address) (size : Nat)
    (transaction : Option String) :
    (table.decide mode arithmetic winner size transaction).Kept arithmetic := by
  simp only [Table.decide]
  split
  · have settled := kept.settle winner
    exact ⟨settled.pot, settled.bets⟩
  · exact ⟨kept.pot, kept.bets⟩

theorem showStreet (kept : table.Kept arithmetic) (street : Street) (cards : List Card)
    (size : Nat) (transaction : Option String) :
    (table.showStreet street cards size transaction).Kept arithmetic := by
  rcases table.showStreet_cases street cards size transaction with
    ⟨_, eq⟩ | ⟨_, eq⟩ | ⟨_, _, eq⟩
  · rw [eq]
    refine ⟨kept.pot, fun player member => ?_⟩
    rcases List.mem_map.mp member with ⟨old, _, rfl⟩
    exact arithmetic.fits_zero
  · rw [eq]
    exact ⟨kept.pot, kept.bets⟩
  · rw [eq]
    exact ⟨kept.pot, kept.bets⟩

theorem takeSeat (kept : table.Kept arithmetic) (address : Address) (seat : Nat) (buyIn : Chips) :
    (table.takeSeat address seat buyIn).Kept arithmetic := by
  simp only [Table.takeSeat]
  split
  · exact ⟨kept.pot, kept.bets⟩
  · refine ⟨kept.pot, fun player member => ?_⟩
    rcases List.mem_append.mp (mem_sortBySeat.mp member) with old | new
    · exact kept.bets player old
    · rw [List.mem_singleton.mp new]
      exact arithmetic.fits_zero

/-- A merge brings the amounts of the poll. -/
theorem merge (kept : table.Kept arithmetic) (mode : PlayMode) {poll : Poll}
    (polled : poll.Kept arithmetic) : (table.merge mode poll).1.Kept arithmetic := by
  have usable : ∀ {told : Option Chips} {old : Chips},
      (∀ amount, told = some amount → arithmetic.Fits amount) → arithmetic.Fits old →
        arithmetic.Fits ((usableAmount told).getD old) := by
    intro told old fits oldFits
    rcases brought : usableAmount told with _ | amount
    · exact oldFits
    · exact fits amount (Option.filter_eq_some_iff.mp brought).1
  apply merge_keeps (Kept arithmetic)
  · exact fun _ _ kept => ⟨kept.pot, kept.bets⟩
  · intro merged number _ kept
    refine ⟨kept.pot, fun player member => ?_⟩
    rcases List.mem_map.mp member with ⟨old, oldMember, rfl⟩
    exact kept.bets old oldMember
  · exact fun _ _ kept => ⟨kept.pot, kept.bets⟩
  · intro _ merged kept
    let dealt : Table :=
      { merged with
        pot := (usableAmount poll.pot).getD merged.pot
        currentTurn := poll.currentTurn.getD merged.currentTurn }
    have bets := mergePlayers_forall dealt poll.players
      (fun entry member player (fits : arithmetic.Fits player.bet) =>
        usable (polled.bets entry member) fits)
      (fun _ _ => arithmetic.fits_zero) kept.bets
    rcases mergePlayers_frame dealt poll.players with ⟨players, eq⟩
    rw [eq] at bets
    change (dealt.mergePlayers poll.players).1.Kept arithmetic
    rw [eq]
    exact ⟨usable polled.pot kept.pot, bets⟩
  · exact fun _ _ _ kept => ⟨kept.pot, kept.bets⟩
  · exact fun _ kept => ⟨kept.pot, kept.bets⟩
  · exact kept

end Kept

/-- Nothing has been bet in a hand that begins. -/
theorem kept_beginHand (arithmetic : Arithmetic) (table : Table) (mode : PlayMode) (hero : Address)
    (seats : List Address) (buyIn soloStack : Chips) :
    (table.beginHand mode hero seats buyIn soloStack).Kept arithmetic := by
  have cleared : ∀ player ∈ table.clearedForHand.players, player.bet = 0 := by
    intro player member
    rcases List.mem_map.mp member with ⟨old, _, rfl⟩
    rfl
  have none : ∀ player ∈ (table.beginHand mode hero seats buyIn soloStack).players,
      player.bet = 0 := by
    simp only [beginHand, markUnconfirmed]
    split
    · exact bet_of_mem_seatSolo cleared
    · simp only [seatAll]
      split
      · exact cleared
      · intro player member
        rcases List.mem_map.mp member with ⟨_, _, rfl⟩
        rfl
  constructor
  · rcases table.beginHand_frame mode hero seats buyIn soloStack with ⟨players, eq⟩
    rw [eq]
    exact arithmetic.fits_zero
  · intro player member
    rw [none player member]
    exact arithmetic.fits_zero

end Table

end Holdem
