import Holdem.Proofs.Table.Polled

/-!
# Polls that leave nothing open

A poll can have all its fields, each in a form that can be used: a phase that stands for one, amounts
that are not negative, a board that fits the phase, and for each player the seat, the chips and what
the player did. Outside a solo session such a poll decides everything that a table shows to everyone.
Whatever the snapshot was before, with its order of players, its bets and its board, nothing of it is
left but the private cards and the count of hands, of which the later one stays.
-/

namespace Holdem

/-- What a table shows to everyone, the count of hands apart. -/
structure PublicTable where
  phase : Phase
  pot : Chips
  currentTurn : Nat
  dealerSeat : Nat
  board : List Card
  players : List PolledPlayer
  deriving DecidableEq

/-- All that an entry could say about a player. -/
def Player.polled (player : Player) : PolledPlayer where
  address := player.address
  seat := player.seat
  stack := player.stack
  bet := player.bet
  folded := player.folded
  allIn := player.allIn

def Table.inPublic (table : Table) : PublicTable where
  phase := table.phase
  pot := table.pot
  currentTurn := table.currentTurn
  dealerSeat := table.dealerSeat
  board := table.board
  players := table.players.map Player.polled

/-- The entry leaves nothing open. -/
structure PolledPlayer.Complete (entry : PolledPlayer) : Prop where
  seat : entry.seat.isSome
  stack : (usableAmount entry.stack).isSome
  bet : (usableAmount entry.bet).isSome
  folded : entry.folded.isSome
  allIn : entry.allIn.isSome

namespace Poll

/-- The poll leaves nothing open. -/
structure Complete (poll : Poll) : Prop where
  phase : (poll.phase.bind reportedPhase?).isSome
  pot : (usableAmount poll.pot).isSome
  currentTurn : poll.currentTurn.isSome
  dealerSeat : poll.dealerSeat.isSome
  handNumber : poll.handNumber.isSome
  board : poll.board.isSome
  fits : ∀ phase cards, poll.phase.bind reportedPhase? = some phase → poll.board = some cards →
    cards.length ≤ phase.boardCapacity
  listed : poll.entries ≠ []
  entries : ∀ entry ∈ poll.entries, entry.Complete

/-- The entries in the order of their seats. -/
def entriesBySeat (poll : Poll) : List PolledPlayer :=
  poll.entries.mergeSort fun first second => first.seat.getD 0 ≤ second.seat.getD 0

/-- What a table shows is what the poll says, field by field. -/
structure Tells (poll : Poll) (shown : PublicTable) : Prop where
  phase : poll.phase.bind reportedPhase? = some shown.phase
  pot : poll.pot = some shown.pot
  currentTurn : poll.currentTurn = some shown.currentTurn
  dealerSeat : poll.dealerSeat = some shown.dealerSeat
  board : poll.board = some shown.board
  players : poll.entriesBySeat = shown.players

theorem Tells.unique {poll : Poll} {first second : PublicTable} (one : poll.Tells first)
    (two : poll.Tells second) : first = second := by
  rcases first with ⟨⟩
  rcases second with ⟨⟩
  rw [PublicTable.mk.injEq]
  exact ⟨Option.some.inj (one.phase.symm.trans two.phase),
    Option.some.inj (one.pot.symm.trans two.pot),
    Option.some.inj (one.currentTurn.symm.trans two.currentTurn),
    Option.some.inj (one.dealerSeat.symm.trans two.dealerSeat),
    Option.some.inj (one.board.symm.trans two.board), one.players.symm.trans two.players⟩

end Poll

/-! ## Players -/

theorem eq_some_getD {told : Option α} (given : told.isSome) (known : α) :
    told = some (told.getD known) := by
  rcases Option.isSome_iff_exists.mp given with ⟨value, rfl⟩
  rfl

theorem eq_some_getD_usableAmount {amount : Option Chips} (usable : (usableAmount amount).isSome)
    (known : Chips) : amount = some ((usableAmount amount).getD known) := by
  rcases Option.isSome_iff_exists.mp usable with ⟨chips, eq⟩
  rw [eq]
  exact (Option.filter_eq_some_iff.mp eq).1

/-- A complete entry is all that there is to say about its player. -/
theorem PolledPlayer.Describes.polled {entry : PolledPlayer} {player : Player}
    (describes : entry.Describes player) (complete : entry.Complete) : player.polled = entry := by
  rw [← describes.settled]
  simp only [Player.polled, update, describes.address]
  rw [← eq_some_getD complete.seat, ← eq_some_getD_usableAmount complete.stack,
    ← eq_some_getD_usableAmount complete.bet, ← eq_some_getD complete.folded,
    ← eq_some_getD complete.allIn]

theorem map_polled_of_describes {entries : List PolledPlayer} {players : List Player}
    (described : List.Forall₂ PolledPlayer.Describes entries players)
    (complete : ∀ entry ∈ entries, entry.Complete) : players.map Player.polled = entries := by
  induction described with
  | nil => rfl
  | cons here _ hypothesis =>
    rw [List.forall_mem_cons] at complete
    rw [List.map_cons, here.polled complete.1, hypothesis complete.2]

theorem map_polled_sortBySeat (players : List Player) :
    (sortBySeat players).map Player.polled =
      (players.map Player.polled).mergeSort fun first second =>
        first.seat.getD 0 ≤ second.seat.getD 0 :=
  List.map_mergeSort fun _ _ _ _ => rfl

/-! ## Merging a complete poll -/

namespace Table

variable {mode : PlayMode} {poll : Poll}

theorem tells_merge_of_complete (shared : mode.isSolo = false) (complete : poll.Complete)
    (table : Table) : poll.Tells (table.merge mode poll).1.inPublic := by
  have notSettled : ¬(mode.isSolo && table.phase = .settlement) := by simp [shared]
  rcases merge_standing_of_open notSettled poll with ⟨phase, board⟩
  rcases table.exists_players_merge shared complete.listed with ⟨players, seated, described⟩
  have numbers : (table.merge mode poll).1.pot = (usableAmount poll.pot).getD table.pot ∧
      (table.merge mode poll).1.currentTurn = poll.currentTurn.getD table.currentTurn ∧
      (table.merge mode poll).1.dealerSeat = poll.dealerSeat.getD table.dealerSeat := by
    rcases table.merge_frame mode poll with ⟨_, _, _, _, frame⟩
    rw [frame]
    simp only [shared, Bool.false_eq_true, ↓reduceIte, and_self]
  rcases numbers with ⟨pot, currentTurn, dealerSeat⟩
  have toldPhase : poll.phase.bind reportedPhase? = some (table.merge mode poll).1.phase := by
    rw [phase]
    exact eq_some_getD complete.phase table.phase
  have toldBoard : poll.board = some (table.merge mode poll).1.board := by
    rcases Option.isSome_iff_exists.mp complete.board with ⟨cards, laid⟩
    have fits := complete.fits _ cards toldPhase laid
    rw [board, laid, Option.filter_some_pos (by simpa using fits), Option.getD_some,
      List.take_of_length_le fits]
  exact {
    phase := toldPhase
    pot := (eq_some_getD_usableAmount complete.pot table.pot).trans (congrArg some pot.symm)
    currentTurn := (eq_some_getD complete.currentTurn _).trans (congrArg some currentTurn.symm)
    dealerSeat := (eq_some_getD complete.dealerSeat _).trans (congrArg some dealerSeat.symm)
    board := toldBoard
    players := by
      simp only [inPublic, seated, map_polled_sortBySeat]
      rw [map_polled_of_describes described complete.entries]
      rfl }

/-- Outside a solo session a poll that leaves nothing open is all that any two snapshots show after
it, and each keeps the later of its own hand number and the polled one. -/
theorem complete_poll_decides (shared : mode.isSolo = false) (complete : poll.Complete)
    (first second : Table) :
    poll.Tells (first.merge mode poll).1.inPublic ∧
      (second.merge mode poll).1.inPublic = (first.merge mode poll).1.inPublic ∧
      some (first.merge mode poll).1.handNumber = poll.handNumber.map (max first.handNumber) ∧
      some (second.merge mode poll).1.handNumber = poll.handNumber.map (max second.handNumber) := by
  have told := tells_merge_of_complete shared complete first
  refine ⟨told, (tells_merge_of_complete shared complete second).unique told, ?_, ?_⟩
  all_goals
    rw [handNumber_merge]
    exact (eq_some_getD (by simpa using complete.handNumber) _).symm

/-- Two wallets on the flop, told to a client that knows nothing and to one with a longer board,
another order of seats and a player who has left. -/
theorem complete_poll_decides_headsUp :
    let poll : Poll :=
      { phase := "Flop", pot := some 40, currentTurn := some 1, dealerSeat := some 0
        handNumber := some 3, board := some [⟨1⟩, ⟨2⟩, ⟨3⟩]
        players := some
          [{ address := "b", seat := some 1, stack := some 980, bet := some 0, folded := some false
             allIn := some false },
           { address := "a", seat := some 0, stack := some 980, bet := some 0, folded := some false
             allIn := some false }] }
    let ahead : Table :=
      { opened 4 with
        phase := .river, board := [⟨1⟩, ⟨2⟩, ⟨3⟩, ⟨4⟩, ⟨5⟩], handNumber := 8, pot := 60
        players := [{ address := "gone", seat := 0, stack := 5 },
          { address := "a", seat := 1, stack := 7, bet := 20, folded := true }] }
    PlayMode.headsup.isSolo = false ∧ poll.Complete ∧
      poll.Tells ((opened 4).merge .headsup poll).1.inPublic ∧
      (ahead.merge .headsup poll).1.inPublic = ((opened 4).merge .headsup poll).1.inPublic ∧
      some ((opened 4).merge .headsup poll).1.handNumber = some 3 ∧
      some (ahead.merge .headsup poll).1.handNumber = some 8 := by
  intro poll ahead
  have complete : poll.Complete :=
    { phase := by decide
      pot := by decide
      currentTurn := by decide
      dealerSeat := by decide
      handNumber := by decide
      board := by decide
      fits := by
        rintro phase cards told ⟨⟩
        have flop : some Phase.flop = some phase := told
        cases flop
        decide
      listed := by decide
      entries := by
        intro entry member
        rcases List.mem_pair.mp member with rfl | rfl
        all_goals exact ⟨rfl, rfl, rfl, rfl, rfl⟩ }
  exact ⟨rfl, complete, complete_poll_decides rfl complete (opened 4) ahead⟩

end Table

end Holdem
