import Holdem.Proofs.Table.Merge

/-!
# Lawful snapshots

A snapshot is lawful when its cards exist, no amount is below zero and the board fits the phase.
This file shows that every operation on a snapshot keeps it lawful as long as chips are exact,
whatever the outside says: amounts of opponents, payloads of polls and numbers of cards are
arbitrary. A sum that wraps around can be below zero, so the bets and the end of a hand are those
with exact sums.

`Table.Sound` leaves the board's fit out. That is what holds inside a merge, which takes over the
phase first and cuts the board last.
-/

namespace Holdem

/-! ## Players -/

/-- A player without debts and with private cards that exist. -/
structure Player.Lawful (player : Player) : Prop where
  stack : 0 ≤ player.stack
  bet : 0 ≤ player.bet
  hole : ∀ cards, player.hole = some cards → cards.1.isValid ∧ cards.2.isValid

namespace Player

theorem lawful_seated (address : Address) (seat : Nat) {stack : Chips} (solvent : 0 ≤ stack) :
    Lawful { address, seat, stack } := by
  refine ⟨solvent, ?_, ?_⟩
  · exact Int.le_refl 0
  · intro cards held
    exact absurd held (by simp)

namespace Lawful

variable {player : Player}

theorem commit (lawful : player.Lawful) {after : Player} {amount moved : Chips}
    (committed : player.commit? .exact amount = some (after, moved)) : after.Lawful := by
  rcases commit?_eq_some committed with ⟨solvent, amountEq, stack, bet, _, _, _, hole⟩
  rw [Arithmetic.wrap_exact] at bet
  have lawfulBet := lawful.bet
  refine ⟨by lia, by lia, ?_⟩
  rw [hole]
  exact lawful.hole

theorem receive (lawful : player.Lawful) {chips : Chips} (nonneg : 0 ≤ chips) :
    Lawful { player with stack := Arithmetic.exact.wrap (player.stack + chips) } :=
  ⟨Int.add_nonneg lawful.stack nonneg, lawful.bet, lawful.hole⟩

theorem resetBet (lawful : player.Lawful) : Lawful { player with bet := 0 } :=
  ⟨lawful.stack, Int.le_refl 0, lawful.hole⟩

theorem hide (lawful : player.Lawful) : Lawful { player with hole := none } :=
  ⟨lawful.stack, lawful.bet, fun _ held => absurd held (by simp)⟩

theorem fresh (lawful : player.Lawful) : player.fresh.Lawful :=
  ⟨lawful.stack, Int.le_refl 0, fun _ held => absurd held (by simp [Player.fresh])⟩

/-- What a poll says about a player leaves it lawful, because amounts below zero do not count. -/
theorem update (lawful : player.Lawful) (polled : PolledPlayer) : (polled.update player).Lawful := by
  refine ⟨?_, ?_, lawful.hole⟩
  · simp only [PolledPlayer.update]
    rcases usable : usableAmount polled.stack with _ | stack
    · exact lawful.stack
    · exact usableAmount_nonneg usable
  · simp only [PolledPlayer.update]
    rcases usable : usableAmount polled.bet with _ | bet
    · exact lawful.bet
    · exact usableAmount_nonneg usable

end Lawful

end Player

/-! ## Snapshots -/

/-- A snapshot whose cards exist and whose amounts are not below zero. -/
structure Table.Sound (table : Table) : Prop where
  pot : 0 ≤ table.pot
  board : ∀ card ∈ table.board, card.isValid
  players : ∀ player ∈ table.players, player.Lawful

/-- A sound snapshot with a board that fits the phase. -/
structure Table.Lawful (table : Table) : Prop extends table.Sound where
  fits : table.board.length ≤ table.phase.boardCapacity

namespace Table

variable {table : Table}

theorem lawful_opened (tableId : UInt32) : (opened tableId).Lawful where
  pot := Int.le_refl 0
  board _ member := absurd member List.not_mem_nil
  players _ member := absurd member List.not_mem_nil
  fits := Nat.zero_le _

namespace Sound

/-- Cutting the board to a phase makes a sound snapshot lawful. -/
theorem setPhase (sound : table.Sound) (phase : Phase) : (table.setPhase phase).Lawful where
  pot := sound.pot
  board card member := sound.board card (List.mem_of_mem_take member)
  players := sound.players
  fits := setPhase_board_length_le table phase

theorem dropHoles (sound : table.Sound) : table.dropHoles.Sound where
  pot := sound.pot
  board := sound.board
  players player member := by
    rcases List.mem_map.mp member with ⟨old, oldMember, rfl⟩
    exact (sound.players old oldMember).hide

theorem mergeChips (sound : table.Sound) (poll : Poll) : (table.mergeChips poll).1.Sound := by
  have pot : 0 ≤ (usableAmount poll.pot).getD table.pot := by
    rcases usable : usableAmount poll.pot with _ | pot
    · exact sound.pot
    · exact usableAmount_nonneg usable
  let dealt : Table :=
    { table with
      pot := (usableAmount poll.pot).getD table.pot
      currentTurn := poll.currentTurn.getD table.currentTurn }
  have players := mergePlayers_forall dealt poll.players
    (fun entry _ player (lawful : player.Lawful) => lawful.update entry)
    (fun entry place => Player.lawful_seated entry.address _ (Int.le_refl 0)) sound.players
  rcases mergePlayers_frame dealt poll.players with ⟨merged, eq⟩
  rw [eq] at players
  change (dealt.mergePlayers poll.players).1.Sound
  rw [eq]
  exact ⟨pot, sound.board, players⟩

end Sound

namespace Lawful

theorem extendBoard (lawful : table.Lawful) {cards : List Card}
    (valid : ∀ card ∈ cards, card.isValid) : (table.extendBoard cards).Lawful where
  pot := lawful.pot
  board card member := by
    rcases List.mem_append.mp member with old | new
    · exact lawful.board card old
    · exact valid card (List.mem_of_mem_take new)
  players := lawful.players
  fits := extendBoard_board_length_le cards lawful.fits

/-- Replacing the players by lawful ones, and the pot by one that is no debt, keeps a snapshot
lawful. -/
theorem replace (lawful : table.Lawful) {players : List Player} {pot : Chips} (nonneg : 0 ≤ pot)
    (others : ∀ player ∈ players, player.Lawful) : Lawful { table with players, pot } :=
  ⟨⟨nonneg, lawful.board, others⟩, lawful.fits⟩

theorem updatePlayer (lawful : table.Lawful) (address : Address) {change : Player → Player}
    (keeps : ∀ player, player.Lawful → (change player).Lawful) :
    (table.updatePlayer address change).Lawful := by
  apply lawful.replace lawful.pot
  intro player member
  rcases mem_updatePlayer member with same | ⟨old, oldMember, _, rfl⟩
  · exact lawful.players player same
  · exact keeps old (lawful.players old oldMember)

theorem map (lawful : table.Lawful) {change : Player → Player}
    (keeps : ∀ player, player.Lawful → (change player).Lawful) :
    Lawful { table with players := table.players.map change } := by
  apply lawful.replace lawful.pot
  intro player member
  rcases List.mem_map.mp member with ⟨old, oldMember, rfl⟩
  exact keeps old (lawful.players old oldMember)

theorem noteProof (lawful : table.Lawful) (size : Nat) (transaction : Option String) :
    (table.noteProof size transaction).Lawful :=
  ⟨⟨lawful.pot, lawful.board, lawful.players⟩, lawful.fits⟩

theorem markUnconfirmed (lawful : table.Lawful) : table.markUnconfirmed.Lawful :=
  ⟨⟨lawful.pot, lawful.board, lawful.players⟩, lawful.fits⟩

/-! ## Bets and the end of a hand -/

/-- An action of anyone, with any amount, is defined on a lawful snapshot and keeps it lawful. -/
theorem act? (lawful : table.Lawful) (address : Address) (action : Action) :
    ∃ after moved, table.act? .exact address action = some (after, moved) ∧ after.Lawful ∧
      after.handNumber = table.handNumber := by
  rcases exists_act? .exact address action fun player member =>
      (lawful.players player member).stack with ⟨after, moved, acted⟩
  refine ⟨after, moved, acted, ?_, ?_⟩
  · have nonneg := (act?_wrapped acted).1
    have lawfulPot := lawful.pot
    rcases act?_cases acted with
      ⟨_, rfl, _⟩ | ⟨player, seated, ⟨_, _, rfl⟩ | ⟨_, _, rfl⟩ | ⟨stake, committed, _, commits, rfl⟩⟩
    · exact lawful
    · exact lawful.updatePlayer address fun player held => ⟨held.stack, held.bet, held.hole⟩
    · exact lawful
    · have held := (lawful.players player (mem_of_player? seated)).commit commits
      have paid := lawful.updatePlayer address fun _ _ => held
      exact paid.replace (Int.add_nonneg lawfulPot nonneg) paid.players
  · rw [act?_frame acted]

theorem pay (lawful : table.Lawful) (winner : Address) : (table.pay .exact winner).Lawful := by
  simp only [Table.pay]
  split
  · have paid := lawful.updatePlayer winner fun player held => held.receive lawful.pot
    exact paid.replace (Int.le_refl 0) paid.players
  · exact lawful

theorem settle (lawful : table.Lawful) (winner : Address) :
    (table.settle .exact winner).Lawful := by
  have reset := (lawful.pay winner).map fun player held => held.resetBet
  have settled := reset.setPhase .settlement
  exact ⟨⟨settled.pot, settled.board, settled.players⟩, settled.fits⟩

theorem decide (lawful : table.Lawful) (mode : PlayMode) (winner : Address) (size : Nat)
    (transaction : Option String) : (table.decide mode .exact winner size transaction).Lawful := by
  apply markUnconfirmed
  apply noteProof
  split
  · exact lawful.settle winner
  · have settled := lawful.setPhase .settlement
    exact ⟨⟨settled.pot, settled.board, settled.players⟩, settled.fits⟩

/-! ## Dealing and seats -/

theorem clearedForHand (lawful : table.Lawful) : table.clearedForHand.Lawful where
  pot := Int.le_refl 0
  board _ member := absurd member List.not_mem_nil
  players player member := by
    rcases List.mem_map.mp member with ⟨old, oldMember, rfl⟩
    exact (lawful.players old oldMember).fresh
  fits := Nat.zero_le _

theorem seatNext (lawful : table.Lawful) (address : Address) {stack : Chips} (solvent : 0 ≤ stack) :
    (table.seatNext address stack).Lawful := by
  apply lawful.replace lawful.pot
  intro player member
  rcases List.mem_append.mp member with old | new
  · exact lawful.players player old
  · rw [List.mem_singleton.mp new]
    exact Player.lawful_seated address table.nextFreeSeat solvent

theorem seatSolo (lawful : table.Lawful) (hero : Address) {stack : Chips} (solvent : 0 ≤ stack) :
    (table.seatSolo hero stack).Lawful := by
  unfold Table.seatSolo
  extract_lets withHero withOpponent
  have lawfulHero : withHero.Lawful := by
    simp only [withHero]
    split
    · exact lawful
    · exact lawful.seatNext hero solvent
  have lawfulOpponent : withOpponent.Lawful := by
    simp only [withOpponent]
    split
    · exact lawfulHero
    · exact lawfulHero.seatNext simulatedOpponent solvent
  apply lawfulOpponent.map
  intro player held
  split
  · exact ⟨solvent, held.bet, held.hole⟩
  · exact held

theorem seatAll (lawful : table.Lawful) (addresses : List Address) {stack : Chips}
    (solvent : 0 ≤ stack) : (table.seatAll addresses stack).Lawful := by
  simp only [Table.seatAll]
  split
  · exact lawful
  · apply lawful.replace lawful.pot
    intro player member
    rcases List.mem_map.mp member with ⟨⟨address, seat⟩, _, rfl⟩
    exact Player.lawful_seated address seat solvent

/-- A hand begins lawfully when the stacks that are handed out are no debts. -/
theorem beginHand (lawful : table.Lawful) (mode : PlayMode) (hero : Address) (seats : List Address)
    {buyIn soloStack : Chips} (solvent : 0 ≤ buyIn) (solventSolo : 0 ≤ soloStack) :
    (table.beginHand mode hero seats buyIn soloStack).Lawful := by
  simp only [Table.beginHand]
  apply markUnconfirmed
  split
  · exact lawful.clearedForHand.seatSolo hero solventSolo
  · exact lawful.clearedForHand.seatAll seats solvent

theorem storeHole (lawful : table.Lawful) (address : Address) {cards : Card × Card}
    (valid : cards.1.isValid ∧ cards.2.isValid) : (table.storeHole address cards).Lawful := by
  apply lawful.updatePlayer
  intro player held
  refine ⟨held.stack, held.bet, ?_⟩
  intro stored same
  simp only [Option.some.injEq] at same
  subst same
  exact valid

theorem takeSeat (lawful : table.Lawful) (address : Address) (seat : Nat) {buyIn : Chips}
    (solvent : 0 ≤ buyIn) : (table.takeSeat address seat buyIn).Lawful := by
  simp only [Table.takeSeat]
  apply markUnconfirmed
  split
  · exact lawful
  · apply lawful.replace lawful.pot
    intro player member
    rw [mem_sortBySeat] at member
    rcases List.mem_append.mp member with old | new
    · exact lawful.players player old
    · rw [List.mem_singleton.mp new]
      exact Player.lawful_seated address seat solvent

/-! ## Streets and polls -/

theorem showStreet (lawful : table.Lawful) (street : Street) {cards : List Card}
    (valid : ∀ card ∈ cards, card.isValid) (size : Nat) (transaction : Option String) :
    (table.showStreet street cards size transaction).Lawful := by
  unfold Table.showStreet
  extract_lets moved shown
  have lawfulMoved : moved.Lawful := by
    simp only [moved]
    split
    · exact (lawful.setPhase street.phase).map fun player held => held.resetBet
    · exact lawful
  have lawfulShown : shown.Lawful := by
    simp only [shown]
    split
    · exact lawfulMoved.extendBoard valid
    · exact lawfulMoved
  exact (lawfulShown.noteProof size transaction).markUnconfirmed

/-- A merge keeps a snapshot lawful when the polled board has cards that exist; nothing else in the
poll has to make sense. -/
theorem merge (lawful : table.Lawful) (mode : PlayMode) {poll : Poll}
    (valid : ∀ cards, poll.board = some cards → ∀ card ∈ cards, card.isValid) :
    (table.merge mode poll).1.Lawful := by
  have sound : (table.merge mode poll).1.Sound := by
    apply merge_keeps Sound
    · intro merged phase sound
      exact ⟨sound.pot, sound.board, sound.players⟩
    · intro merged number _ sound
      exact Sound.dropHoles ⟨sound.pot, sound.board, sound.players⟩
    · intro merged dealerSeat sound
      exact ⟨sound.pot, sound.board, sound.players⟩
    · intro _ merged sound
      exact sound.mergeChips poll
    · intro merged cards polled sound
      exact ⟨sound.pot, valid cards polled, sound.players⟩
    · intro merged sound
      have cut := sound.setPhase merged.phase
      exact ⟨cut.pot, cut.board, cut.players⟩
    · exact lawful.toSound
  refine ⟨sound, ?_⟩
  rw [merge_eq]
  exact setPhase_board_length_le _ _

end Lawful

end Table

end Holdem
