import Holdem.Proofs.Session.FollowUp
import Holdem.Proofs.Table.Account
import Holdem.Proofs.Table.Polled

/-!
# Streets and the polls that tell them

The coordinator moves the table on before it answers the request for a street. So a poll can tell
the street while the request waits as well as after the answer, and one would want the same snapshot
of a solo hand from both.

Phase, pot and stacks are the same. The end of the round is not: it is the answer that takes the
bets back, and only where it moves the phase itself, so that a poll which has moved the phase before
it leaves the bets of the old round in the new one. And where the answer has fewer cards than the
street has room for, they are laid a second time.
-/

namespace Holdem

/-- A poll that tells a street with its whole board. -/
structure Poll.TellsStreet (poll : Poll) (street : Street) (cards : List Card) : Prop where
  phase : poll.phase.bind reportedPhase? = some street.phase
  board : poll.board = some cards
  fits : cards.length ≤ street.phase.boardCapacity

/-- The cards that a reveal shows: those of its reply that exist. -/
def RevealReply.shown (reply : RevealReply) : List Card :=
  (reply.cards.map Card.mk).filter Card.isValid

namespace Table

variable {table : Table} {mode : PlayMode} {poll : Poll} {street : Street} {board cards : List Card}
  {size : Nat} {transaction : Option String}

theorem merge_of_tellsStreet (tells : poll.TellsStreet street board)
    (goesOn : table.phase ≠ .settlement) :
    (table.merge mode poll).1.phase = street.phase ∧ (table.merge mode poll).1.board = board := by
  have notSettled : ¬(mode.isSolo && table.phase = .settlement) := by simp [goesOn]
  rcases merge_standing_of_open notSettled poll with ⟨phase, laid⟩
  rw [tells.phase, Option.getD_some] at phase
  rw [phase, tells.board] at laid
  refine ⟨phase, ?_⟩
  simp only [Option.filter, tells.fits, decide_true, ↓reduceIte, Option.getD_some] at laid
  rw [laid, List.take_of_length_le tells.fits]

theorem showStreet_of_asked (asked : table.phase = street.requestedFrom) :
    table.showStreet street cards size transaction =
      ((((table.setPhase street.phase).resetBets).extendBoard cards).noteProof size
        transaction).markUnconfirmed := by
  rcases table.showStreet_cases street cards size transaction with
    ⟨_, eq⟩ | ⟨here, _⟩ | ⟨elsewhere, _, _⟩
  · exact eq
  · rw [asked] at here
    cases street <;> exact absurd here (by decide)
  · exact absurd asked elsewhere

theorem showStreet_of_here (here : table.phase = street.phase) :
    table.showStreet street cards size transaction =
      ((table.extendBoard cards).noteProof size transaction).markUnconfirmed := by
  rcases table.showStreet_cases street cards size transaction with
    ⟨asked, _⟩ | ⟨_, eq⟩ | ⟨_, elsewhere, _⟩
  · rw [here] at asked
    cases street <;> exact absurd asked (by decide)
  · exact eq
  · exact absurd here elsewhere

section

variable (cards size transaction) (solo : mode.isSolo)
  (asked : table.phase = street.requestedFrom) (tells : poll.TellsStreet street board)

include solo asked tells

/-- Told after the answer, a street has its board and no bets. -/
theorem merge_showStreet :
    let after := ((table.showStreet street cards size transaction).merge mode poll).1
    after.phase = street.phase ∧ after.board = board ∧ after.pot = table.pot ∧
      after.accounts = table.accounts.map fun account => { account with bet := 0 } := by
  intro after
  have single : mode = .single := of_decide_eq_true solo
  have opened : (table.showStreet street cards size transaction).phase = street.phase := by
    rw [showStreet_of_asked asked]
    rfl
  have goesOn : (table.showStreet street cards size transaction).phase ≠ .settlement := by
    rw [opened]
    cases street <;> decide
  rcases merge_of_tellsStreet tells goesOn with ⟨phase, laid⟩
  refine ⟨phase, laid, ?_, ?_⟩
  · subst single
    rw [(merge_solo_chips _ poll).1, showStreet_of_asked asked]
    rfl
  · have accounts : after.players.map Player.account =
        (table.showStreet street cards size transaction).players.map Player.account :=
      map_merge_of_solo (fun _ => rfl) solo _ poll
    rw [Table.accounts, accounts, showStreet_of_asked asked, Table.accounts, List.map_map]
    exact List.map_map

/-- Told before the answer, a street keeps the bets, and the answer lays its cards where there is
room left. -/
theorem showStreet_merge :
    let after := ((table.merge mode poll).1.showStreet street cards size transaction)
    after.phase = street.phase ∧
      after.board = board ++ cards.take (street.phase.boardCapacity - board.length) ∧
      after.pot = table.pot ∧ after.accounts = table.accounts := by
  intro after
  have single : mode = .single := of_decide_eq_true solo
  have goesOn : table.phase ≠ .settlement := by
    rw [asked]
    cases street <;> decide
  rcases merge_of_tellsStreet tells goesOn with ⟨phase, laid⟩
  have shown : after = (((table.merge mode poll).1.extendBoard cards).noteProof size
    transaction).markUnconfirmed := showStreet_of_here phase
  rw [shown]
  refine ⟨phase, ?_, ?_, ?_⟩
  · change (table.merge mode poll).1.board ++ _ = _
    rw [laid, phase]
  · subst single
    exact (merge_solo_chips table poll).1
  · exact map_merge_of_solo (fun _ => rfl) solo table poll

/-- What the two orders agree on, and when they agree on the rest. -/
theorem showStreet_merge_compared :
    let answered := ((table.showStreet street cards size transaction).merge mode poll).1
    let polled := (table.merge mode poll).1.showStreet street cards size transaction
    (answered.phase = polled.phase ∧ answered.pot = polled.pot ∧
        answered.players.map (fun player => (player.address, player.stack)) =
          polled.players.map fun player => (player.address, player.stack)) ∧
      (answered.board = polled.board ↔ cards = [] ∨ board.length = street.phase.boardCapacity) ∧
      (answered.players.map Player.bet = polled.players.map Player.bet ↔
        ∀ player ∈ table.players, player.bet = 0) := by
  intro answered polled
  rcases merge_showStreet cards size transaction solo asked tells with ⟨phase, laid, pot, accounts⟩
  rcases showStreet_merge cards size transaction solo asked tells with
    ⟨polledPhase, polledLaid, polledPot, polledAccounts⟩
  have image : ∀ {β : Type} (seen : Account → β) (shown : Table),
      shown.players.map (fun player => seen player.account) = shown.accounts.map seen := by
    intro β seen shown
    rw [Table.accounts, List.map_map]
    rfl
  refine ⟨⟨phase.trans polledPhase.symm, pot.trans polledPot.symm, ?_⟩, ?_, ?_⟩
  · have chips := image fun account => (account.address, account.stack)
    calc
      _ = answered.accounts.map fun account => (account.address, account.stack) := chips answered
      _ = table.accounts.map fun account => (account.address, account.stack) := by
        rw [accounts, List.map_map]
        rfl
      _ = polled.accounts.map fun account => (account.address, account.stack) := by
        rw [polledAccounts]
      _ = _ := (chips polled).symm
  · have full : street.phase.boardCapacity - board.length = 0 ↔
        board.length = street.phase.boardCapacity := by
      have fits := tells.fits
      omega
    rw [laid, polledLaid, List.self_eq_append_right, List.take_eq_nil_iff, full, or_comm]
  · have bets := image Account.bet
    rw [show answered.players.map Player.bet = _ from bets answered,
      show polled.players.map Player.bet = _ from bets polled, accounts, polledAccounts,
      List.map_map, Table.accounts, List.map_map, List.map_map, List.map_inj_left]
    exact forall₂_congr fun _ _ => eq_comm

end

end Table

/-! ## Requests for a street -/

section

variable {settings : Settings} {session revealed polled : Session} {tableId : UInt32}
  {street : Street} {reply : RevealReply} {poll : Poll} {first second : Except ActionFault Outcome}

/-- What a granted reveal makes of the snapshot that the polls have made meanwhile. -/
theorem Settings.table_of_granted_reveal {polls : List Poll} {result : Except ActionFault Outcome}
    {last : Session}
    (hears : (settings.reveal tableId street).Hears settings.mode session polls
      [.granted (.reveal tableId street) reply] result last) :
    last.table = (session.table.mergeAll settings.mode polls).showStreet street reply.shown
      reply.proofSize.toNat reply.transaction := by
  have sequel := (hears_reveal hears).2
  generalize last.table = after at sequel
  cases sequel with
  | revealed _ _ shown => rw [shown, RevealReply.shown]

/-- A solo street and the poll that tells it come to the same phase, pot and stacks in either order.
They come to the same board exactly when the reply has no cards or fills the street, and to the same
bets exactly when no bets were left from the round before. -/
theorem reveal_with_poll_in_flight (solo : settings.mode = .single)
    (asked : session.table.phase = street.requestedFrom)
    (tells : poll.TellsStreet street (session.table.board ++ reply.shown))
    (alone : (settings.reveal tableId street).Hears settings.mode session []
      [.granted (.reveal tableId street) reply] first revealed)
    (inFlight : (settings.reveal tableId street).Hears settings.mode session [poll]
      [.granted (.reveal tableId street) reply] second polled) :
    let answered := (revealed.table.merge settings.mode poll).1
    (answered.phase = polled.table.phase ∧ answered.pot = polled.table.pot ∧
        answered.players.map (fun player => (player.address, player.stack)) =
          polled.table.players.map fun player => (player.address, player.stack)) ∧
      (answered.board = polled.table.board ↔ reply.shown = [] ∨
        (session.table.board ++ reply.shown).length = street.phase.boardCapacity) ∧
      (answered.players.map Player.bet = polled.table.players.map Player.bet ↔
        ∀ player ∈ session.table.players, player.bet = 0) := by
  have isSolo : settings.mode.isSolo := decide_eq_true solo
  rw [Settings.table_of_granted_reveal alone, Settings.table_of_granted_reveal inFlight]
  exact Table.showStreet_merge_compared _ _ _ isSolo asked tells

end

/-! ## A flop after a round of bets -/

/-- The hero and the simulated opponent have each bet 100 before the flop. -/
def betBeforeFlop : Session where
  table :=
    { tableId := 7, phase := .preflop, pot := 200
      players := [⟨"hero", 0, 900, 100, false, false, none⟩,
        ⟨simulatedOpponent, 1, 900, 100, false, false, none⟩] }

def flopReply : RevealReply := ⟨"ok", [3, 17, 40], 12, "reveal", none⟩

def flopPoll : Poll where
  phase := some "Flop"
  board := some [⟨3⟩, ⟨17⟩, ⟨40⟩]

theorem flopPoll_tells :
    flopPoll.TellsStreet .flop (betBeforeFlop.table.board ++ flopReply.shown) where
  phase := by decide
  board := rfl
  fits := by decide

/-- The hero plays alone and is known to the coordinator by name. -/
def Settings.soloByName : Settings where
  hero := "hero"
  unsignedFirst := true

theorem hears_flop (polls : List Poll) :
    (Settings.soloByName.reveal 7 .flop).Hears Settings.soloByName.mode betBeforeFlop polls
      [.granted (.reveal 7 .flop) flopReply] (.ok (.revealed .flop flopReply.shown))
      (betBeforeFlop.onTable fun table =>
        (table.mergeAll .single polls).showStreet .flop flopReply.shown 12 none) :=
  ⟨.ok flopReply, polls, [], [], (List.append_nil polls).symm, rfl, [], [], rfl, rfl, rfl, rfl, rfl⟩

/-- The flop fills the board either way, and its bets are taken back only by the answer. -/
theorem reveal_with_poll_in_flight_of_bets :
    ∃ revealed polled,
      (Settings.soloByName.reveal 7 .flop).Hears Settings.soloByName.mode betBeforeFlop []
        [.granted (.reveal 7 .flop) flopReply] (.ok (.revealed .flop flopReply.shown)) revealed ∧
      (Settings.soloByName.reveal 7 .flop).Hears Settings.soloByName.mode betBeforeFlop [flopPoll]
        [.granted (.reveal 7 .flop) flopReply] (.ok (.revealed .flop flopReply.shown)) polled ∧
      (revealed.table.merge .single flopPoll).1.board = polled.table.board ∧
      (revealed.table.merge .single flopPoll).1.players.map Player.bet ≠
        polled.table.players.map Player.bet := by
  have alone := hears_flop []
  have inFlight := hears_flop [flopPoll]
  rcases reveal_with_poll_in_flight rfl rfl flopPoll_tells alone inFlight with ⟨_, board, bets⟩
  refine ⟨_, _, alone, inFlight, board.mpr (.inr (by decide)), ?_⟩
  intro same
  exact absurd (bets.mp same) (by decide)

/-- A poll in flight and the same poll after the answer leave different snapshots. -/
theorem street_depends_on_order :
    ¬∀ (settings : Settings) (session revealed polled : Session) (tableId : UInt32)
      (street : Street) (reply : RevealReply) (poll : Poll)
      (first second : Except ActionFault Outcome),
      settings.mode = .single → session.table.phase = street.requestedFrom →
      session.table.board.length ≤ session.table.phase.boardCapacity →
      poll.TellsStreet street (session.table.board ++ reply.shown) →
      (settings.reveal tableId street).Hears settings.mode session []
        [.granted (.reveal tableId street) reply] first revealed →
      (settings.reveal tableId street).Hears settings.mode session [poll]
        [.granted (.reveal tableId street) reply] second polled →
      let answered := (revealed.table.merge settings.mode poll).1
      answered.phase = polled.table.phase ∧ answered.board = polled.table.board ∧
        answered.pot = polled.table.pot ∧
        answered.players.map Player.stack = polled.table.players.map Player.stack ∧
        answered.players.map Player.bet = polled.table.players.map Player.bet := by
  intro commute
  rcases commute _ _ _ _ _ _ _ _ _ _ rfl rfl (Nat.zero_le _) flopPoll_tells (hears_flop [])
    (hears_flop [flopPoll]) with ⟨_, _, _, _, bets⟩
  exact absurd bets (by decide)

end Holdem
