import Holdem.Proofs.Table.Chips

/-!
# What the steps of a hand leave alone

Dealing, seating, betting and settling write a few fields each. Here is, step by step, what stays of
the snapshot, so that a property of the other fields never has to look into the step.
-/

namespace Holdem.Table

variable {arithmetic : Arithmetic}

theorem seatSolo_frame (table : Table) (hero : Address) (stack : Chips) :
    ∃ players, table.seatSolo hero stack = { table with players } := by
  unfold seatSolo seatNext
  dsimp only
  split <;> split <;> exact ⟨_, rfl⟩

theorem seatAll_frame (table : Table) (addresses : List Address) (stack : Chips) :
    ∃ players, table.seatAll addresses stack = { table with players } := by
  unfold seatAll
  split <;> exact ⟨_, rfl⟩

/-- A hand begins with a cleared table, whoever is dealt in. -/
theorem beginHand_frame (table : Table) (mode : PlayMode) (hero : Address) (seats : List Address)
    (buyIn soloStack : Chips) :
    ∃ players, table.beginHand mode hero seats buyIn soloStack =
      { table.clearedForHand with players, confirmed := false } := by
  unfold beginHand
  dsimp only
  split
  · rcases table.clearedForHand.seatSolo_frame hero soloStack with ⟨players, eq⟩
    rw [eq]
    exact ⟨players, rfl⟩
  · rcases table.clearedForHand.seatAll_frame seats buyIn with ⟨players, eq⟩
    rw [eq]
    exact ⟨players, rfl⟩

/-- A hand never has the number of the hand before it, also where the count begins again. -/
theorem clearedForHand_handNumber_ne (table : Table) :
    table.clearedForHand.handNumber ≠ table.handNumber := by
  change table.handNumber + 1 ≠ table.handNumber
  lia

theorem beginHand_tableId (table : Table) (mode : PlayMode) (hero : Address) (seats : List Address)
    (buyIn soloStack : Chips) :
    (table.beginHand mode hero seats buyIn soloStack).tableId = table.tableId := by
  rcases table.beginHand_frame mode hero seats buyIn soloStack with ⟨players, eq⟩
  rw [eq]
  rfl

theorem takeSeat_frame (table : Table) (address : Address) (seat : Nat) (buyIn : Chips) :
    ∃ players, table.takeSeat address seat buyIn = { table with players, confirmed := false } := by
  unfold takeSeat
  dsimp only
  split <;> exact ⟨_, rfl⟩

theorem takeSeat_tableId (table : Table) (address : Address) (seat : Nat) (buyIn : Chips) :
    (table.takeSeat address seat buyIn).tableId = table.tableId := by
  rcases table.takeSeat_frame address seat buyIn with ⟨players, eq⟩
  rw [eq]

theorem settle_frame (table : Table) (winner : Address) :
    ∃ players pot, table.settle arithmetic winner =
      { table.setPhase .settlement with players, pot, winner := some winner } := by
  unfold settle pay
  dsimp only
  split <;> exact ⟨_, _, rfl⟩

theorem settle_tableId (table : Table) (winner : Address) :
    (table.settle arithmetic winner).tableId = table.tableId := by
  rcases table.settle_frame winner with ⟨players, pot, eq⟩
  rw [eq]
  rfl

theorem settle_confirmed (table : Table) (winner : Address) :
    (table.settle arithmetic winner).confirmed = table.confirmed := by
  rcases table.settle_frame winner with ⟨players, pot, eq⟩
  rw [eq]
  rfl

theorem act?_confirmed {table after : Table} {address : Address} {action : Action} {moved : Chips}
    (acts : table.act? arithmetic address action = some (after, moved)) :
    after.confirmed = table.confirmed := by
  rw [act?_frame acts]

theorem applyAccepted?_of_map {table after : Table} {address : Address} {action : Action}
    {transaction : Option String} {result : Unit}
    (applied : (table.applyAccepted? arithmetic address action transaction).map
      (fun table => (table, ())) = some (after, result)) :
    table.applyAccepted? arithmetic address action transaction = some after := by
  rcases Option.map_eq_some_iff.mp applied with ⟨last, accepted, eq⟩
  rw [Prod.mk.injEq] at eq
  rw [accepted, eq.1]

/-- An action that was accepted elsewhere is applied like any other and noted. -/
theorem applyAccepted?_cases {table last : Table} {address : Address} {action : Action}
    {transaction : Option String}
    (applied : table.applyAccepted? arithmetic address action transaction = some last) :
    ∃ acted moved, table.act? arithmetic address action = some (acted, moved) ∧
      last = (acted.noteTransaction transaction).markUnconfirmed := by
  simp only [applyAccepted?] at applied
  rw [Option.map_eq_some_iff] at applied
  rcases applied with ⟨⟨acted, moved⟩, acts, rfl⟩
  exact ⟨acted, moved, acts, rfl⟩

end Holdem.Table
