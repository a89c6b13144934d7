import Holdem.Proofs.Table.Merge
import Holdem.Table.Hand

/-!
# The board of a hand

The five cards of a board are fixed before the first of them is seen. Streets show them slice by
slice, and a poll reports as many as its phase holds. A snapshot shows the hand when its board has
exactly the cards that its phase holds, in their order.

Both writers keep that, in whatever order they come. A street that finds the table in the phase
before brings just what is missing; one that finds its own phase finds the board full; and in any
other phase it lays nothing.
-/

namespace Holdem

/-- How many phases of a hand come before this one. -/
def Phase.place (phase : Phase) : Nat :=
  all.idxOf phase

theorem Phase.boardCapacity_le (phase : Phase) : phase.boardCapacity ≤ 5 := by
  cases phase <;> decide

namespace Street

/-- The cards of a hand that a street shows. -/
def slice (street : Street) (cards : List Card) : List Card :=
  (cards.take street.phase.boardCapacity).drop street.requestedFrom.boardCapacity

theorem requestedFrom_boardCapacity_le (street : Street) :
    street.requestedFrom.boardCapacity ≤ street.phase.boardCapacity := by
  cases street <;> decide

theorem requestedFrom_place_le (street : Street) :
    street.requestedFrom.place ≤ street.phase.place := by
  cases street <;> decide

/-- A slice continues the board on which the street is asked for. -/
theorem take_append_slice (street : Street) (cards : List Card) :
    cards.take street.requestedFrom.boardCapacity ++ street.slice cards =
      cards.take street.phase.boardCapacity := by
  have before : cards.take street.requestedFrom.boardCapacity =
      (cards.take street.phase.boardCapacity).take street.requestedFrom.boardCapacity := by
    rw [List.take_take, Nat.min_eq_left street.requestedFrom_boardCapacity_le]
  rw [before, slice, List.take_append_drop]

example (first second third fourth fifth : Card) :
    [Street.flop, .turn, .river].map (fun street =>
      street.slice [first, second, third, fourth, fifth]) =
        [[first, second, third], [fourth], [fifth]] := rfl

end Street

/-- A poll of a hand: it names a phase and gives the cards that the phase holds. Where these are none
the board may be left out. -/
def Poll.Shows (poll : Poll) (cards : List Card) : Prop :=
  ∃ phase ∈ poll.phase.bind reportedPhase?, poll.board.getD [] = cards.take phase.boardCapacity

instance (poll : Poll) (cards : List Card) : Decidable (poll.Shows cards) :=
  inferInstanceAs (Decidable (∃ phase ∈ poll.phase.bind reportedPhase?, _))

/-- The board has exactly the cards of the hand that the phase holds. -/
def Table.Shows (table : Table) (cards : List Card) : Prop :=
  table.board = cards.take table.phase.boardCapacity

namespace Table

variable {table : Table} {cards : List Card}

/-- What a street does: it opens its phase, lays cards where its phase is open already, or lays
nothing at all. -/
theorem showStreet_cases (table : Table) (street : Street) (cards : List Card) (size : Nat)
    (transaction : Option String) :
    (table.phase = street.requestedFrom ∧ table.showStreet street cards size transaction =
        ((((table.setPhase street.phase).resetBets).extendBoard cards).noteProof size
          transaction).markUnconfirmed) ∨
      (table.phase = street.phase ∧ table.showStreet street cards size transaction =
        ((table.extendBoard cards).noteProof size transaction).markUnconfirmed) ∨
      (table.phase ≠ street.requestedFrom ∧ table.phase ≠ street.phase ∧
        table.showStreet street cards size transaction =
          (table.noteProof size transaction).markUnconfirmed) := by
  simp only [showStreet]
  by_cases asked : table.phase = street.requestedFrom
  · left
    refine ⟨asked, ?_⟩
    have moved : (table.setPhase street.phase).resetBets.phase = street.phase := rfl
    rw [if_pos asked, if_pos moved]
  right
  rw [if_neg asked]
  by_cases here : table.phase = street.phase
  · left
    refine ⟨here, ?_⟩
    rw [if_pos here]
  · right
    refine ⟨asked, here, ?_⟩
    rw [if_neg here]

/-- A street is shown at the same table and in the same hand. -/
theorem showStreet_frame (table : Table) (street : Street) (cards : List Card) (size : Nat)
    (transaction : Option String) :
    (table.showStreet street cards size transaction).tableId = table.tableId ∧
      (table.showStreet street cards size transaction).handNumber = table.handNumber := by
  rcases table.showStreet_cases street cards size transaction with
    ⟨_, eq⟩ | ⟨_, eq⟩ | ⟨_, _, eq⟩
  all_goals
    rw [eq]
    exact ⟨rfl, rfl⟩

theorem place_le_showStreet (table : Table) (street : Street) (cards : List Card) (size : Nat)
    (transaction : Option String) :
    table.phase.place ≤ (table.showStreet street cards size transaction).phase.place := by
  rcases table.showStreet_cases street cards size transaction with
    ⟨asked, eq⟩ | ⟨_, eq⟩ | ⟨_, _, eq⟩
  · rw [eq, asked]
    exact street.requestedFrom_place_le
  · rw [eq]
    exact Nat.le_refl _
  · rw [eq]
    exact Nat.le_refl _

namespace Shows

theorem length (shows : table.Shows cards) (five : cards.length = 5) :
    table.board.length = table.phase.boardCapacity := by
  have capacity := table.phase.boardCapacity_le
  rw [shows, List.length_take]
  omega

/-- A street keeps the board showing the hand, wherever polls have moved the table meanwhile. -/
theorem showStreet (shows : table.Shows cards) (five : cards.length = 5) (street : Street)
    (size : Nat) (transaction : Option String) :
    (table.showStreet street (street.slice cards) size transaction).Shows cards := by
  have length := shows.length five
  rcases table.showStreet_cases street (street.slice cards) size transaction with
    ⟨asked, eq⟩ | ⟨here, eq⟩ | ⟨_, _, eq⟩
  · -- the board of the phase before is whole, so there is room for exactly the slice
    have before := street.requestedFrom_boardCapacity_le
    have capacity := street.phase.boardCapacity_le
    have fits : table.board.take street.phase.boardCapacity = table.board := by
      apply List.take_of_length_le
      rw [length, asked]
      exact before
    have room : street.phase.boardCapacity - table.board.length = (street.slice cards).length := by
      rw [length, asked]
      simp only [Street.slice, List.length_drop, List.length_take]
      omega
    rw [eq]
    change table.board.take street.phase.boardCapacity ++ (street.slice cards).take
      (street.phase.boardCapacity - (table.board.take street.phase.boardCapacity).length) =
        cards.take street.phase.boardCapacity
    rw [fits, room, List.take_length, shows, asked]
    exact street.take_append_slice cards
  · -- the board of the street's own phase is full, and nothing is laid twice
    rw [eq]
    change table.board ++ (street.slice cards).take
      (table.phase.boardCapacity - table.board.length) = cards.take table.phase.boardCapacity
    rw [length, Nat.sub_self, List.take_zero, List.append_nil]
    exact shows
  · rw [eq]
    exact shows

/-- A poll of the hand keeps the board showing it, also one that moves the phase back. -/
theorem merge (shows : table.Shows cards) (five : cards.length = 5) (mode : PlayMode) {poll : Poll}
    (polled : poll.Shows cards) : (table.merge mode poll).1.Shows cards := by
  rcases polled with ⟨phase, named, board⟩
  rcases table.merge_standing mode poll with ⟨phaseEq, boardEq, _⟩
  simp only [Shows, phaseEq, boardEq]
  by_cases frozen : mode.isSolo && table.phase = .settlement
  · simp only [frozen, ↓reduceIte, Option.bind_none, Option.getD_none, Option.filter_none]
    rw [shows, List.take_take, Nat.min_self]
  · simp only [frozen, Bool.false_eq_true, ↓reduceIte, Option.mem_def.mp named, Option.getD_some]
    rcases given : poll.board with _ | laid
    · -- only a phase that holds no cards goes without a board
      rw [given, Option.getD_none] at board
      have none : phase.boardCapacity = 0 := by
        have capacity := phase.boardCapacity_le
        have length := congrArg List.length board
        rw [List.length_take, List.length_nil] at length
        omega
      rw [none, List.take_zero, List.take_zero]
    · rw [given, Option.getD_some] at board
      have fits : laid.length ≤ phase.boardCapacity := by
        rw [board]
        exact List.length_take_le ..
      simp only [Option.filter_some, fits, decide_true, ↓reduceIte, Option.getD_some]
      rw [board, List.take_take, Nat.min_self]

end Shows

end Table

end Holdem
