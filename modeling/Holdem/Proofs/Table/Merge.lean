import Holdem.Proofs.Table.Chips

/-!
# What a merge can do

A merge takes over the parts of a poll one after another. `merge_eq` names the snapshots in between;
the rest of the file says what each part can change, so that properties of merges are put together
from them.
-/

namespace Holdem

theorem usableAmount_nonneg {amount : Option Chips} {chips : Chips}
    (usable : usableAmount amount = some chips) : 0 ≤ chips := by
  have condition := (Option.filter_eq_some_iff.mp usable).2
  simpa using condition

theorem mem_swapRemove {elements : List α} {index : Nat} {element : α}
    (member : element ∈ swapRemove elements index) : element ∈ elements := by
  simp only [swapRemove] at member
  split at member
  · exact absurd member List.not_mem_nil
  · rename_i last isLast
    rcases List.mem_or_eq_of_mem_set (List.dropLast_subset _ member) with old | moved
    · exact old
    · rw [moved]
      exact List.mem_of_getLast? isLast

theorem mem_sortBySeat {players : List Player} {player : Player} :
    player ∈ sortBySeat players ↔ player ∈ players :=
  List.mem_mergeSort

namespace Reseating

/-- Whoever a walk seats is updated from a polled entry, and was waiting before or is new. -/
theorem mem_seat {walk : Reseating} {place : Nat} {polled : PolledPlayer} {player : Player}
    (member : player ∈ (walk.seat place polled).seated) :
    player ∈ walk.seated ∨
      ∃ old, (old ∈ walk.waiting ∨ old = polled.newcomer place) ∧ player = polled.update old := by
  simp only [seat] at member
  split at member
  · rename_i index _
    rcases List.mem_append.mp member with known | seated
    · rw [Option.mem_toList, Option.map_eq_some_iff] at known
      rcases known with ⟨old, found, updated⟩
      exact Or.inr ⟨old, Or.inl (List.mem_of_getElem? found), updated.symm⟩
    · exact Or.inl seated
  · rcases List.mem_cons.mp member with new | seated
    · exact Or.inr ⟨polled.newcomer place, Or.inr rfl, new⟩
    · exact Or.inl seated

theorem mem_waiting_seat {walk : Reseating} {place : Nat} {polled : PolledPlayer} {player : Player}
    (member : player ∈ (walk.seat place polled).waiting) : player ∈ walk.waiting := by
  simp only [seat] at member
  split at member
  · exact mem_swapRemove member
  · exact member

/-- A property of players that updates keep and newcomers have holds of everyone a walk seats. -/
theorem seatAll_forall {property : Player → Prop} {polled : List PolledPlayer}
    (updates : ∀ entry ∈ polled, ∀ player, property player → property (entry.update player))
    (newcomers : ∀ entry ∈ polled, ∀ place, property (entry.newcomer place))
    (walk : Reseating) (place : Nat) (waiting : ∀ player ∈ walk.waiting, property player)
    (seated : ∀ player ∈ walk.seated, property player) :
    ∀ player ∈ (walk.seatAll place polled).seated, property player := by
  induction polled generalizing walk place with
  | nil => exact seated
  | cons entry rest hypothesis =>
    apply hypothesis
    · intro other member
      exact updates other (List.mem_cons_of_mem entry member)
    · intro other member
      exact newcomers other (List.mem_cons_of_mem entry member)
    · intro player member
      exact waiting player (mem_waiting_seat member)
    · intro player member
      rcases mem_seat member with old | ⟨old, origin, rfl⟩
      · exact seated player old
      apply updates entry List.mem_cons_self
      rcases origin with known | rfl
      · exact waiting old known
      · exact newcomers entry List.mem_cons_self place

end Reseating

namespace Table

/-- The snapshots that a merge passes through. -/
theorem merge_eq (table : Table) (mode : PlayMode) (poll : Poll) :
    (table.merge mode poll).1 =
      let frozen := mode.isSolo && table.phase = .settlement
      let phased := (table.mergePhase (if frozen then none else poll.phase)).1
      let counted := (phased.mergeHand poll.handNumber).1
      let dealt := { counted with dealerSeat := poll.dealerSeat.getD counted.dealerSeat }
      let seated := (if mode.isSolo then (dealt, 0, 0) else dealt.mergeChips poll).1
      let boarded := (seated.mergeBoard (if frozen then none else poll.board)).1
      { boarded.setPhase boarded.phase with confirmed := true } := rfl

theorem mergePhase_frame (table : Table) (phase : Option String) :
    ∃ merged, (table.mergePhase phase).1 = { table with phase := merged } := by
  simp only [mergePhase]
  split
  · exact ⟨table.phase, rfl⟩
  · split
    · exact ⟨_, rfl⟩
    · exact ⟨table.phase, rfl⟩

/-- A polled hand number is taken over where it is ahead, and then no private cards stay. -/
theorem mergeHand_cases (table : Table) (handNumber : Option UInt32) :
    (table.mergeHand handNumber).1 = table ∨
      ∃ number, handNumber = some number ∧ table.handNumber < number ∧
        (table.mergeHand handNumber).1 = { table with handNumber := number }.dropHoles := by
  simp only [mergeHand]
  split
  · rename_i number
    split
    · rename_i ahead
      exact Or.inr ⟨number, rfl, ahead, rfl⟩
    · exact Or.inl rfl
  · exact Or.inl rfl

theorem mergePlayers_frame (table : Table) (polled : Option (List PolledPlayer)) :
    ∃ players, (table.mergePlayers polled).1 = { table with players } := by
  simp only [mergePlayers]
  split
  · exact ⟨table.players, rfl⟩
  · exact ⟨table.players, rfl⟩
  · exact ⟨_, rfl⟩

theorem mergePlayers_forall (table : Table) (polled : Option (List PolledPlayer))
    {property : Player → Prop}
    (updates : ∀ entry ∈ polled.getD [], ∀ player, property player →
      property (entry.update player))
    (newcomers : ∀ (entry : PolledPlayer) place, property (entry.newcomer place))
    (holds : ∀ player ∈ table.players, property player) :
    ∀ player ∈ (table.mergePlayers polled).1.players, property player := by
  simp only [mergePlayers]
  split
  · exact holds
  · exact holds
  · intro player member
    rw [mem_sortBySeat, List.mem_reverse] at member
    refine Reseating.seatAll_forall ?_ ?_ _ 0 holds ?_ player member
    · exact updates
    · intro entry _
      exact newcomers entry
    · intro player seated
      exact absurd seated List.not_mem_nil

theorem mergeBoard_cases (table : Table) (board : Option (List Card)) :
    (table.mergeBoard board).1 = table ∨
      ∃ cards, board = some cards ∧ (table.mergeBoard board).1 = { table with board := cards } := by
  simp only [mergeBoard]
  split
  · exact Or.inl rfl
  · rename_i cards
    split
    · exact Or.inr ⟨cards, rfl, rfl⟩
    · exact Or.inl rfl

/-- A property that every part of a merge keeps is kept by the merge. -/
theorem merge_keeps (property : Table → Prop) {table : Table} {mode : PlayMode} {poll : Poll}
    (phase : ∀ table phase, property table → property { table with phase })
    (hand : ∀ table number, table.handNumber < number → property table →
      property { table with handNumber := number }.dropHoles)
    (dealer : ∀ table dealerSeat, property table → property { table with dealerSeat })
    (chips : mode.isSolo = false → ∀ table, property table → property (table.mergeChips poll).1)
    (board : ∀ table cards, poll.board = some cards → property table →
      property { table with board := cards })
    (last : ∀ table, property table → property { table.setPhase table.phase with confirmed := true })
    (holds : property table) : property (table.merge mode poll).1 := by
  rw [merge_eq]
  extract_lets frozen phased counted dealt seated boarded
  have phasedHolds : property phased := by
    rcases mergePhase_frame table (if frozen then none else poll.phase) with ⟨merged, eq⟩
    simp only [phased, eq]
    exact phase table merged holds
  have countedHolds : property counted := by
    rcases mergeHand_cases phased poll.handNumber with same | ⟨number, _, ahead, new⟩
    · simp only [counted, same]
      exact phasedHolds
    · simp only [counted, new]
      exact hand phased number ahead phasedHolds
  have dealtHolds : property dealt := dealer counted _ countedHolds
  have seatedHolds : property seated := by
    by_cases solo : mode.isSolo
    · simp only [seated, solo, ↓reduceIte]
      exact dealtHolds
    · simp only [seated, solo, Bool.false_eq_true, ↓reduceIte]
      exact chips (by simpa using solo) dealt dealtHolds
  have boardedHolds : property boarded := by
    rcases mergeBoard_cases seated (if frozen then none else poll.board) with
      same | ⟨cards, polled, new⟩
    · simp only [boarded, same]
      exact seatedHolds
    · simp only [boarded, new]
      apply board seated cards _ seatedHolds
      by_cases stays : frozen
      · simp [stays] at polled
      · simpa [stays] using polled
  exact last boarded boardedHolds

/-- A merge stays at the table. -/
theorem merge_tableId (table : Table) (mode : PlayMode) (poll : Poll) :
    (table.merge mode poll).1.tableId = table.tableId := by
  apply merge_keeps fun merged => merged.tableId = table.tableId
  · exact fun _ _ same => same
  · exact fun _ _ _ same => same
  · exact fun _ _ same => same
  · intro _ seen same
    simp only [mergeChips]
    rcases mergePlayers_frame { seen with
        pot := (usableAmount poll.pot).getD seen.pot
        currentTurn := poll.currentTurn.getD seen.currentTurn } poll.players with ⟨players, eq⟩
    rw [eq]
    exact same
  · exact fun _ _ _ same => same
  · exact fun _ same => same
  · rfl

/-! ## How the hand stands -/

theorem mergePhase_phase (table : Table) (phase : Option String) :
    (table.mergePhase phase).1.phase = (phase.bind reportedPhase?).getD table.phase := by
  simp only [mergePhase]
  split
  · rfl
  · rename_i raw
    cases mapped : reportedPhase? raw <;> simp [mapped]

theorem mergeHand_standing (table : Table) (handNumber : Option UInt32) :
    (table.mergeHand handNumber).1.phase = table.phase ∧
      (table.mergeHand handNumber).1.board = table.board ∧
      (table.mergeHand handNumber).1.winner = table.winner := by
  rcases mergeHand_cases table handNumber with same | ⟨number, _, _, new⟩
  · rw [same]
    exact ⟨rfl, rfl, rfl⟩
  · rw [new]
    exact ⟨rfl, rfl, rfl⟩

theorem mergeChips_standing (table : Table) (poll : Poll) :
    (table.mergeChips poll).1.phase = table.phase ∧
      (table.mergeChips poll).1.board = table.board ∧
      (table.mergeChips poll).1.winner = table.winner := by
  simp only [mergeChips]
  rcases mergePlayers_frame { table with
      pot := (usableAmount poll.pot).getD table.pot
      currentTurn := poll.currentTurn.getD table.currentTurn } poll.players with ⟨players, eq⟩
  rw [eq]
  exact ⟨rfl, rfl, rfl⟩

theorem mergeBoard_eq (table : Table) (board : Option (List Card)) :
    (table.mergeBoard board).1 =
      { table with
        board := (board.filter fun cards => cards.length ≤ table.phase.boardCapacity).getD
          table.board } := by
  simp only [mergeBoard]
  split
  · rfl
  · rename_i cards
    by_cases fits : cards.length ≤ table.phase.boardCapacity
    · simp [fits, Option.filter]
    · simp [fits, Option.filter]

/-- What a merge makes of phase, board and winner. A settled solo hand keeps all three, and the
winner is nothing that a poll knows about. -/
theorem merge_standing (table : Table) (mode : PlayMode) (poll : Poll) :
    let frozen := mode.isSolo && table.phase = .settlement
    let phase := ((if frozen then none else poll.phase).bind reportedPhase?).getD table.phase
    (table.merge mode poll).1.phase = phase ∧
      (table.merge mode poll).1.board =
        (((if frozen then none else poll.board).filter fun cards =>
          cards.length ≤ phase.boardCapacity).getD table.board).take phase.boardCapacity ∧
      (table.merge mode poll).1.winner = table.winner := by
  rw [merge_eq]
  extract_lets frozen phase phased counted dealt seated boarded
  have dealtEq : dealt.phase = phase ∧ dealt.board = table.board ∧ dealt.winner = table.winner := by
    rcases mergePhase_frame table (if frozen then none else poll.phase) with ⟨merged, eq⟩
    have phaseEq := table.mergePhase_phase (if frozen then none else poll.phase)
    rcases phased.mergeHand_standing poll.handNumber with ⟨countedPhase, board, winner⟩
    refine ⟨countedPhase.trans phaseEq, board.trans ?_, winner.trans ?_⟩
    · simp only [phased, eq]
    · simp only [phased, eq]
  have seatedEq : seated.phase = phase ∧ seated.board = table.board ∧
      seated.winner = table.winner := by
    by_cases solo : mode.isSolo
    · simp only [seated, solo, ↓reduceIte]
      exact dealtEq
    · simp only [seated, solo, Bool.false_eq_true, ↓reduceIte]
      rcases dealt.mergeChips_standing poll with ⟨seatedPhase, board, winner⟩
      exact ⟨seatedPhase.trans dealtEq.1, board.trans dealtEq.2.1, winner.trans dealtEq.2.2⟩
  have boardedEq := seated.mergeBoard_eq (if frozen then none else poll.board)
  rw [seatedEq.1, seatedEq.2.1] at boardedEq
  have phaseEq : boarded.phase = phase := by
    simp only [boarded, boardedEq]
  refine ⟨phaseEq, ?_, ?_⟩
  · change boarded.board.take boarded.phase.boardCapacity = _
    rw [phaseEq]
    simp only [boarded, boardedEq]
  · change boarded.winner = _
    simp only [boarded, boardedEq]
    exact seatedEq.2.2

/-! ## The count of hands -/

/-- A merge never counts hands backwards. -/
theorem handNumber_le_merge (table : Table) (mode : PlayMode) (poll : Poll) :
    table.handNumber ≤ (table.merge mode poll).1.handNumber := by
  apply merge_keeps (fun merged => table.handNumber ≤ merged.handNumber)
  · intro merged _ le
    exact le
  · intro merged number ahead le
    exact Nat.le_trans le (Nat.le_of_lt ahead)
  · intro merged _ le
    exact le
  · intro _ merged le
    rcases mergePlayers_frame { merged with
        pot := (usableAmount poll.pot).getD merged.pot
        currentTurn := poll.currentTurn.getD merged.currentTurn } poll.players with ⟨players, eq⟩
    simp only [mergeChips]
    rw [eq]
    exact le
  · intro merged _ _ le
    exact le
  · intro merged le
    exact le
  · exact Nat.le_refl _

/-! ## Solo tables -/

theorem dropHoles_balance (table : Table) :
    table.dropHoles.chips = table.chips ∧ table.dropHoles.roundBets = table.roundBets := by
  have stackTotal := Player.total_map Player.stack (fun player => { player with hole := none })
    (fun _ => rfl) table.players
  have bets := Player.total_map Player.bet (fun player => { player with hole := none })
    (fun _ => rfl) table.players
  refine ⟨?_, bets⟩
  rw [chips_eq, chips_eq]
  simp only [dropHoles]
  rw [stackTotal]

/-- In a solo session a merge leaves the pot and everyone's chips where they are. -/
theorem merge_solo_chips (table : Table) (poll : Poll) :
    (table.merge .single poll).1.pot = table.pot ∧
      (table.merge .single poll).1.chips = table.chips ∧
      (table.merge .single poll).1.roundBets = table.roundBets := by
  apply merge_keeps (fun merged =>
    merged.pot = table.pot ∧ merged.chips = table.chips ∧ merged.roundBets = table.roundBets)
  · intro merged _ same
    exact same
  · intro merged number _ same
    rcases same with ⟨pot, chips, bets⟩
    rcases dropHoles_balance { merged with handNumber := number } with ⟨droppedChips, droppedBets⟩
    exact ⟨pot, droppedChips.trans chips, droppedBets.trans bets⟩
  · intro merged _ same
    exact same
  · intro notSolo
    exact absurd notSolo (by decide)
  · intro merged _ _ same
    exact same
  · intro merged same
    exact same
  · exact ⟨rfl, rfl, rfl⟩

end Table

end Holdem
