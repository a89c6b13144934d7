import Holdem.Proofs.Table.Reseating

/-!
# What a poll leaves of a snapshot

Where a poll lists players, each entry stands in the end for one seat: a player of its address, known
before or new, with everything that the entry says. The seats are sorted from the order of the
entries, so not even the order of the snapshot is left.

Merging a poll once more changes nothing, though it takes other branches then: a solo hand that the
poll settled is frozen, its hand number is no longer ahead, its newcomers are known. The addresses
have to be distinct for that, since the entries of an address that is named twice take its players in
turn.
-/

namespace Holdem

/-! ## Entries and their players -/

theorem getD_getD (told : Option α) (known : α) : told.getD (told.getD known) = told.getD known := by
  cases told <;> rfl

namespace PolledPlayer

/-- What the entry says is so of the player. -/
structure Describes (entry : PolledPlayer) (player : Player) : Prop where
  address : player.address = entry.address
  settled : entry.update player = player

theorem describes_update {entry : PolledPlayer} {player : Player}
    (same : player.address = entry.address) : entry.Describes (entry.update player) where
  address := same
  settled := by simp only [update, getD_getD]

end PolledPlayer

theorem addresses_of_describes {polled : List PolledPlayer} {players : List Player}
    (described : List.Forall₂ PolledPlayer.Describes polled players) :
    players.map Player.address = polled.map PolledPlayer.address := by
  induction described with
  | nil => rfl
  | cons here _ hypothesis => rw [List.map_cons, List.map_cons, hypothesis, here.address]

/-! ## The walk -/

namespace Reseating

/-- A walk seats one player for each entry, in the order of the entries, and each is as its entry
says. -/
theorem exists_seated_seatAll (walk : Reseating) (place : Nat) (polled : List PolledPlayer) :
    ∃ players, (walk.seatAll place polled).seated = players.reverse ++ walk.seated ∧
      List.Forall₂ PolledPlayer.Describes polled players := by
  induction polled generalizing walk place with
  | nil => exact ⟨[], rfl, .nil⟩
  | cons entry rest hypothesis =>
    have here : ∃ player, (walk.seat place entry).seated = player :: walk.seated ∧
        entry.Describes player := by
      rcases walk.seat_cases place entry with ⟨taken, same, _, seated⟩ | ⟨_, _, seated⟩
      · exact ⟨_, seated, PolledPlayer.describes_update same⟩
      · exact ⟨_, seated, PolledPlayer.describes_update rfl⟩
    rcases here with ⟨player, seatedHere, describes⟩
    rcases hypothesis (walk.seat place entry) (place + 1) with ⟨players, seated, described⟩
    refine ⟨player :: players, ?_, .cons describes described⟩
    simp only [seatAll, seated, seatedHere, List.reverse_cons, List.append_assoc,
      List.singleton_append]

/-- Where those wait whom the entries describe, a walk seats them as they are: each entry finds its
own player, since no other has the address. -/
theorem seated_seatAll_of_described {polled : List PolledPlayer} {players : List Player}
    (distinct : (polled.map PolledPlayer.address).Nodup)
    (described : List.Forall₂ PolledPlayer.Describes polled players) (walk : Reseating) (place : Nat)
    (waiting : walk.waiting.Perm players) :
    (walk.seatAll place polled).seated = players.reverse ++ walk.seated := by
  induction described generalizing walk place with
  | nil => rfl
  | @cons entry player rest players here there hypothesis =>
    rcases List.nodup_cons.mp distinct with ⟨unnamed, distinctRest⟩
    rw [← addresses_of_describes there] at unnamed
    have waits : player ∈ walk.waiting := waiting.mem_iff.mpr List.mem_cons_self
    rcases walk.seat_cases place entry with ⟨taken, same, left, seated⟩ | ⟨unknown, _, _⟩
    · have takenWaits : taken ∈ player :: players :=
        waiting.mem_iff.mp (left.mem_iff.mpr List.mem_cons_self)
      have found : taken = player := by
        apply (List.mem_cons.mp takenWaits).resolve_right
        intro later
        rw [← same] at unnamed
        exact unnamed (List.mem_map_of_mem later)
      subst found
      have waitingRest : (walk.seat place entry).waiting.Perm players :=
        (left.symm.trans waiting).cons_inv
      simp only [seatAll, hypothesis distinctRest _ _ waitingRest, seated, here.settled,
        List.reverse_cons, List.append_assoc, List.singleton_append]
    · exact absurd here.address (unknown player waits)

end Reseating

/-! ## The fields of a merge -/

attribute [ext] Table

namespace Table

variable {table : Table} {mode : PlayMode} {poll : Poll}

/-- What a merge writes: the seat of the dealer always, pot and turn outside a solo session. -/
theorem merge_frame (table : Table) (mode : PlayMode) (poll : Poll) :
    ∃ phase handNumber players board, (table.merge mode poll).1 =
      { table with
        phase, handNumber, players, board
        pot := if mode.isSolo then table.pot else (usableAmount poll.pot).getD table.pot
        currentTurn := if mode.isSolo then table.currentTurn
          else poll.currentTurn.getD table.currentTurn
        dealerSeat := poll.dealerSeat.getD table.dealerSeat
        confirmed := true } := by
  rw [merge_eq]
  extract_lets frozen phased counted dealt seated boarded
  have dealtEq : ∃ phase handNumber players, dealt =
      { table with
        phase, handNumber, players, dealerSeat := poll.dealerSeat.getD table.dealerSeat } := by
    rcases mergePhase_frame table (if frozen then none else poll.phase) with ⟨phase, phasedEq⟩
    rcases phased.mergeHand_cases poll.handNumber with same | ⟨number, _, _, new⟩
    · refine ⟨phase, table.handNumber, table.players, ?_⟩
      simp only [dealt, counted, same, phased, phasedEq]
    · refine ⟨phase, number, phased.dropHoles.players, ?_⟩
      simp only [dealt, counted, new, phased, phasedEq, dropHoles]
  rcases dealtEq with ⟨phase, handNumber, players, dealtEq⟩
  have seatedEq : ∃ players, seated =
      { table with
        phase, handNumber, players
        pot := if mode.isSolo then table.pot else (usableAmount poll.pot).getD table.pot
        currentTurn := if mode.isSolo then table.currentTurn
          else poll.currentTurn.getD table.currentTurn
        dealerSeat := poll.dealerSeat.getD table.dealerSeat } := by
    by_cases solo : mode.isSolo
    · refine ⟨players, ?_⟩
      simp only [seated, solo, ↓reduceIte, dealtEq]
    · simp only [seated, solo, Bool.false_eq_true, ↓reduceIte, mergeChips, dealtEq]
      exact mergePlayers_frame _ poll.players
  rcases seatedEq with ⟨players, seatedEq⟩
  refine ⟨phase, handNumber, players, boarded.board.take boarded.phase.boardCapacity, ?_⟩
  have boardedEq := seated.mergeBoard_eq (if frozen then none else poll.board)
  change { boarded.setPhase boarded.phase with confirmed := true } = _
  simp only [boarded, boardedEq, setPhase, seatedEq]

theorem handNumber_merge (table : Table) (mode : PlayMode) (poll : Poll) :
    (table.merge mode poll).1.handNumber =
      (poll.handNumber.map (max table.handNumber)).getD table.handNumber := by
  rw [(table.merge_seats mode poll).1]
  rcases told : poll.handNumber with _ | number
  · rfl
  · change _ = if table.handNumber ≤ number then number else table.handNumber
    by_cases ahead : table.handNumber < number
    · rw [mergeHand, if_pos ahead, if_pos (UInt32.le_of_lt ahead)]
      rfl
    · rw [mergeHand, if_neg ahead]
      split
      · rename_i reached
        exact UInt32.le_antisymm reached (UInt32.not_lt.mp ahead)
      · rfl

theorem notAhead_merge (table : Table) (mode : PlayMode) (poll : Poll) :
    poll.NotAhead (table.merge mode poll).1 := by
  intro number told
  rw [handNumber_merge, told]
  change number ≤ if table.handNumber ≤ number then number else table.handNumber
  split
  · exact UInt32.le_refl number
  · rename_i behind
    exact UInt32.le_of_lt (UInt32.not_le.mp behind)

theorem exists_players_merge (table : Table) (shared : mode.isSolo = false)
    (listed : poll.entries ≠ []) :
    ∃ players, (table.merge mode poll).1.players = sortBySeat players ∧
      List.Forall₂ PolledPlayer.Describes poll.entries players := by
  rw [table.players_merge_of_listed shared listed]
  rcases Reseating.exists_seated_seatAll
      { waiting := (table.mergeHand poll.handNumber).1.players } 0 poll.entries with
    ⟨players, seated, described⟩
  refine ⟨players, ?_, described⟩
  rw [seated, List.append_nil, List.reverse_reverse]

/-! ## A poll merged twice -/

theorem players_merge_merge (table : Table) (mode : PlayMode)
    (distinct : (poll.entries.map PolledPlayer.address).Nodup) :
    ((table.merge mode poll).1.merge mode poll).1.players = (table.merge mode poll).1.players := by
  have notAhead : poll.NotAhead (table.merge mode poll).1 := table.notAhead_merge mode poll
  by_cases silent : mode.isSolo ∨ poll.entries = []
  · exact players_merge notAhead silent
  · rw [not_or] at silent
    have shared : mode.isSolo = false := by simpa using silent.1
    rcases table.exists_players_merge shared silent.2 with ⟨players, seated, described⟩
    have walked := Reseating.seated_seatAll_of_described distinct described
      { waiting := (table.merge mode poll).1.players } 0
      (seated ▸ List.mergeSort_perm _ _)
    rw [players_merge_of_listed _ shared silent.2, mergeHand_of_notAhead notAhead, walked,
      List.append_nil, List.reverse_reverse, seated]

theorem merge_standing_of_open (notSettled : ¬(mode.isSolo && table.phase = .settlement))
    (poll : Poll) :
    (table.merge mode poll).1.phase = (poll.phase.bind reportedPhase?).getD table.phase ∧
      (table.merge mode poll).1.board =
        ((poll.board.filter fun cards =>
          cards.length ≤ (table.merge mode poll).1.phase.boardCapacity).getD table.board).take
          (table.merge mode poll).1.phase.boardCapacity := by
  rcases table.merge_standing mode poll with ⟨phase, board, _⟩
  rw [← phase] at board
  simp only [notSettled, Bool.false_eq_true, ↓reduceIte] at phase board
  exact ⟨phase, board⟩

/-- A settled solo hand keeps phase and board, and any other takes the same from the poll again. -/
theorem standing_merge_merge (table : Table) (mode : PlayMode) (poll : Poll) :
    let merged := (table.merge mode poll).1
    (merged.merge mode poll).1.phase = merged.phase ∧
      (merged.merge mode poll).1.board = merged.board ∧
      (merged.merge mode poll).1.winner = merged.winner := by
  intro merged
  rcases table.merge_standing mode poll with ⟨phase, board, _⟩
  rcases merged.merge_standing mode poll with ⟨phaseAgain, boardAgain, winnerAgain⟩
  by_cases settled : mode.isSolo && merged.phase = .settlement
  · have fits : merged.board.length ≤ merged.phase.boardCapacity := by
      rw [board, phase]
      exact List.length_take_le ..
    simp only [settled, ↓reduceIte, Option.bind_none, Option.getD_none, Option.filter_none]
      at phaseAgain boardAgain
    exact ⟨phaseAgain, boardAgain.trans (List.take_of_length_le fits), winnerAgain⟩
  · -- the hand was not settled before either, for it would have stayed so
    have notBefore : ¬(mode.isSolo && table.phase = .settlement) := by
      intro before
      rw [if_pos before] at phase
      exact settled (phase ▸ before)
    rcases merge_standing_of_open notBefore poll with ⟨phase, board⟩
    rcases merge_standing_of_open settled poll with ⟨phaseAgain, boardAgain⟩
    have samePhase : (merged.merge mode poll).1.phase = merged.phase := by
      rw [phaseAgain, show merged.phase = _ from phase, getD_getD]
    refine ⟨samePhase, ?_, winnerAgain⟩
    rw [boardAgain, samePhase, show merged.board = _ from board]
    cases poll.board.filter fun cards => cards.length ≤ merged.phase.boardCapacity with
    | none => simp only [Option.getD_none, List.take_take, Nat.min_self, merged]
    | some cards => rfl

/-- Merging a poll once more changes nothing. -/
theorem merge_merge (table : Table) (mode : PlayMode) (poll : Poll)
    (distinct : (poll.entries.map PolledPlayer.address).Nodup) :
    ((table.merge mode poll).1.merge mode poll).1 = (table.merge mode poll).1 := by
  rcases table.standing_merge_merge mode poll with ⟨phase, board, winner⟩
  have players := table.players_merge_merge mode distinct
  have handNumber := (mergeHand_of_notAhead (table.notAhead_merge mode poll)) ▸
    ((table.merge mode poll).1.merge_seats mode poll).1
  rcases table.merge_frame mode poll with ⟨_, _, _, _, merged⟩
  rcases (table.merge mode poll).1.merge_frame mode poll with ⟨_, _, _, _, again⟩
  apply Table.ext
  case phase => exact phase
  case board => exact board
  case winner => exact winner
  case players => exact players
  case handNumber => exact handNumber
  all_goals rw [again, merged]
  case pot =>
    split
    · rfl
    · exact getD_getD _ _
  case currentTurn =>
    split
    · rfl
    · exact getD_getD _ _
  case dealerSeat => exact getD_getD _ _

/-- A poll with an unknown phase, a board that does not fit, and entries that lack a seat or tell a
negative amount. -/
theorem merge_merge_of_vague_poll :
    let poll : Poll :=
      { phase := "Dispute", pot := some (-5), handNumber := some 3, board := some [⟨1⟩]
        players := some [{ address := "b", stack := some (-1) }, { address := "a", bet := some 7 }] }
    let table := { opened 9 with players := [{ address := "a", seat := 4, stack := 100 }] }
    (poll.entries.map PolledPlayer.address).Nodup ∧
      ((table.merge .multi poll).1.merge .multi poll).1 = (table.merge .multi poll).1 :=
  ⟨by decide, merge_merge _ _ _ (by decide)⟩

-- An address that is named twice: the second merge hands its stacks the other way round.
example :
    let poll : Poll :=
      { players := some [{ address := "a", seat := some 1 }, { address := "a", seat := some 0 }] }
    let table :=
      { opened 9 with
        players :=
          [{ address := "a", seat := 0, stack := 1 }, { address := "a", seat := 1, stack := 2 }] }
    ((table.merge .multi poll).1.merge .multi poll).1 ≠ (table.merge .multi poll).1 := by
  intro poll table same
  have held := congrArg (fun table => table.players.map Player.stack) same
  cbv at held
  exact absurd held (by decide)

end Table

end Holdem
