import Holdem.Proofs.Table.Account
import Holdem.Proofs.Table.Kept

/-!
# Late completions

A bet that was accepted elsewhere, a revealed street and a decided hand are entered into the
snapshot when their answer arrives, and the snapshot may belong to another hand by then. Nothing in
it is compared with what the answer was asked for. Here is, for each of them, on which snapshots it
changes nothing of the hand.
-/

namespace Holdem

/-- What is seen of a hand is the same in both snapshots. -/
structure Table.SameHand (before after : Table) : Prop where
  phase : after.phase = before.phase
  board : after.board = before.board
  pot : after.pot = before.pot
  players : after.players = before.players
  winner : after.winner = before.winner

theorem Table.SameHand.refl (table : Table) : table.SameHand table := ⟨rfl, rfl, rfl, rfl, rfl⟩

/-- What completes an intent that was submitted, with what came back. -/
inductive Completion where
  | bet (action : Action) (transaction : Option String)
  | reveal (street : Street) (cards : List Card) (proofSize : Nat) (transaction : Option String)
  | showdown (winner : Address) (proofSize : Nat) (transaction : Option String)

namespace Completion

def enter? (mode : PlayMode) (arithmetic : Arithmetic) (hero : Address) (table : Table) :
    Completion → Option Table
  | bet action transaction => table.applyAccepted? arithmetic hero action transaction
  | reveal street cards proofSize transaction =>
    some (table.showStreet street cards proofSize transaction)
  | showdown winner proofSize transaction =>
    some (table.decide mode arithmetic winner proofSize transaction)

/-- Whether a completion finds nothing to do. A bet does not when its player has left, has folded
already or has nothing to put in; a street neither when its phase is over, nor when the board of its
phase is full; and a decision only where it has been made before. -/
def Idle (arithmetic : Arithmetic) (hero : Address) (table : Table) : Completion → Prop
  | bet action _ =>
    ∀ player, table.player? hero = some player →
      (action = .fold → player.folded) ∧
        ∀ stake,
          action.stake? arithmetic (table.toCall arithmetic player) player.stack = some stake →
            min stake player.stack ≤ 0
  | reveal street cards _ _ =>
    table.phase ≠ street.requestedFrom ∧
      (table.phase = street.phase →
        table.phase.boardCapacity ≤ table.board.length ∨ cards = [])
  | showdown winner _ _ =>
    table.phase = .settlement ∧ table.winner = some winner ∧
      table.board.length ≤ Phase.settlement.boardCapacity

end Completion

namespace Table

variable {table after : Table} {arithmetic : Arithmetic}

theorem updatePlayer_of_unchanged {address : Address} {change : Player → Player} {player : Player}
    (seated : table.player? address = some player) (unchanged : change player = player) :
    table.updatePlayer address change = table := by
  have players : (updateFirst (fun player => player.address = address) change table.players).map id =
      table.players.map id := map_updateFirst seated unchanged
  rw [List.map_id, List.map_id] at players
  simp only [updatePlayer, players]

/-- An action leaves a hand as it is when it puts nothing in and is no new fold. -/
theorem sameHand_act?_iff (kept : table.Kept arithmetic) {address : Address} {action : Action}
    {moved : Chips} (acts : table.act? arithmetic address action = some (after, moved))
    (transaction : Option String) :
    table.SameHand after ↔ (Completion.bet action transaction).Idle arithmetic address table := by
  have unchanged := SameHand.refl table
  rcases act?_cases acts with
    ⟨unknown, rfl, _⟩ | ⟨player, seated, ⟨rfl, _, rfl⟩ | ⟨rfl, _, rfl⟩ |
      ⟨stake, committed, staked, commits, rfl⟩⟩
  · refine ⟨fun _ player seated => ?_, fun _ => unchanged⟩
    rw [unknown] at seated
    exact absurd seated (by simp)
  · have keeps : ∀ player : Player, player.address = address →
        { player with folded := true }.address = address := fun _ same => same
    constructor
    · intro same other found
      have left : table.player? address = some { player with folded := true } := by
        rw [← player?_updatePlayer keeps seated]
        simp only [player?, same.players]
      rw [found, Option.some.injEq] at left
      refine ⟨fun _ => by rw [left], ?_⟩
      intro stake staked
      exact absurd staked (by simp [Action.stake?])
    · intro idle
      have folded := (idle player seated).1 rfl
      rw [updatePlayer_of_unchanged seated (by rw [← folded])]
      exact unchanged
  · refine ⟨fun _ player _ => ⟨fun fold => ?_, fun stake staked => ?_⟩, fun _ => unchanged⟩
    · exact absurd fold (by decide)
    · exact absurd staked (by simp [Action.stake?])
  · rcases Player.commit?_eq_some commits with ⟨solvent, movedEq, stack, _, addressEq, _⟩
    have noFold : action ≠ .fold := by
      rintro rfl
      exact absurd staked (by simp [Action.stake?])
    constructor
    · intro same other found
      rw [seated, Option.some.injEq] at found
      subst found
      refine ⟨fun fold => absurd fold noFold, ?_⟩
      intro again stakedAgain
      rw [staked, Option.some.injEq] at stakedAgain
      -- the pot can come round, but the stack of the actor cannot
      have keeps : ∀ other : Player, other.address = address → committed.address = address :=
        fun _ _ => addressEq.trans (address_of_player? seated)
      have left : table.player? address = some committed := by
        rw [← player?_updatePlayer keeps seated]
        simp only [player?, ← same.players]
      rw [seated, Option.some.injEq] at left
      rw [← left] at stack
      lia
    · intro idle
      have small := (idle player seated).2 stake staked
      have none : moved = 0 := by lia
      subst none
      have bet := kept.bets player (mem_of_player? seated)
      have pot : arithmetic.wrap (table.pot + 0) = table.pot := by
        rw [Int.add_zero]
        exact kept.pot
      rw [updatePlayer_of_unchanged seated (Player.eq_of_commit?_zero commits bet), pot]
      exact unchanged

/-- A street leaves a hand as it is when its phase is over, or when there is nothing to lay or no
room for it. -/
theorem sameHand_showStreet_iff (table : Table) (street : Street) (cards : List Card) (size : Nat)
    (transaction : Option String) (hero : Address) :
    table.SameHand (table.showStreet street cards size transaction) ↔
      (Completion.reveal street cards size transaction).Idle arithmetic hero table := by
  simp only [Completion.Idle]
  rcases table.showStreet_cases street cards size transaction with
    ⟨asked, eq⟩ | ⟨here, eq⟩ | ⟨past, elsewhere, eq⟩
  · rw [eq]
    refine ⟨fun same => ?_, fun idle => absurd asked idle.1⟩
    have phase : street.phase = table.phase := same.phase
    rw [asked] at phase
    exact absurd phase (by cases street <;> decide)
  · have past : table.phase ≠ street.requestedFrom := by
      rw [here]
      cases street <;> decide
    rw [eq]
    constructor
    · intro same
      refine ⟨past, fun _ => ?_⟩
      have board : table.board ++ cards.take (table.phase.boardCapacity - table.board.length) =
        table.board := same.board
      have laid := List.append_right_eq_self.mp board
      rw [List.take_eq_nil_iff, Nat.sub_eq_zero_iff_le] at laid
      exact laid
    · rintro ⟨_, full⟩
      have laid : cards.take (table.phase.boardCapacity - table.board.length) = [] := by
        rw [List.take_eq_nil_iff, Nat.sub_eq_zero_iff_le]
        exact full here
      refine ⟨rfl, ?_, rfl, rfl, rfl⟩
      change table.board ++ _ = table.board
      rw [laid, List.append_nil]
  · rw [eq]
    exact ⟨fun _ => ⟨past, fun here => absurd here elsewhere⟩, fun _ => ⟨rfl, rfl, rfl, rfl, rfl⟩⟩

/-- A decision leaves a hand as it is when it was made before. -/
theorem sameHand_decide_iff {mode : PlayMode} (shared : mode.isSolo = false) (table : Table)
    (winner : Address) (size : Nat) (transaction : Option String) (hero : Address) :
    table.SameHand (table.decide mode arithmetic winner size transaction) ↔
      (Completion.showdown winner size transaction).Idle arithmetic hero table := by
  simp only [Completion.Idle, decide, shared, Bool.false_eq_true, ↓reduceIte]
  constructor
  · intro same
    have board : table.board.take Phase.settlement.boardCapacity = table.board := same.board
    refine ⟨same.phase.symm, same.winner.symm, ?_⟩
    rw [← board]
    exact List.length_take_le ..
  · rintro ⟨phase, decided, fits⟩
    refine ⟨phase.symm, ?_, rfl, rfl, decided.symm⟩
    exact List.take_of_length_le fits

end Table

theorem Completion.sameHand_iff {mode : PlayMode} (shared : mode.isSolo = false)
    {arithmetic : Arithmetic} {hero : Address} {table after : Table} {completion : Completion}
    (kept : table.Kept arithmetic)
    (applied : completion.enter? mode arithmetic hero table = some after) :
    table.SameHand after ↔ completion.Idle arithmetic hero table := by
  cases completion with
  | bet action transaction =>
    rcases Table.applyAccepted?_cases applied with ⟨acted, moved, acts, rfl⟩
    rw [← Table.sameHand_act?_iff kept acts transaction]
    exact ⟨fun same => ⟨same.phase, same.board, same.pot, same.players, same.winner⟩,
      fun same => ⟨same.phase, same.board, same.pot, same.players, same.winner⟩⟩
  | reveal street cards size transaction =>
    rw [← Option.some.inj applied]
    exact table.sameHand_showStreet_iff street cards size transaction hero
  | showdown winner size transaction =>
    rw [← Option.some.inj applied]
    exact table.sameHand_decide_iff shared winner size transaction hero

end Holdem
