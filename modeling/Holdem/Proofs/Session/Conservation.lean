import Holdem.Proofs.Session.Operation
import Holdem.Proofs.Session.Schedule
import Holdem.Proofs.Table.Account
import Holdem.Proofs.Table.Reseating

/-!
# Chips of a solo session

In a solo session the table is played out here, so its chips are this session's to keep. Between two
deals their sum is the same up to wrapping, whatever is bet, revealed, decided or polled, and
however an action ends: one that fails halfway leaves chips that have moved where they have moved
to.

The sum itself stays the same where all chips together make an amount that is kept. What is bet in a
round is then always in the pot, and that is the invariant behind the payout: a winner gets the pot,
and the bets that are then cleared were part of it. No pot and no stack on the way to a payout is
more than all chips together, which is why no sum on the way has to be looked at.
-/

namespace Holdem

namespace Table

/-- Everything that was bet in the round is in the pot, and there is room for all chips together.
Where sums are wrapped, nobody has a debt either. -/
structure Backed (arithmetic : Arithmetic) (table : Table) : Prop where
  nonneg : 0 ≤ table.roundBets
  covered : table.roundBets ≤ table.pot
  room : arithmetic.Covers table.chips
  players : arithmetic = .wrapping → ∀ player ∈ table.players, 0 ≤ player.stack ∧ 0 ≤ player.bet

/-- The chips are the same up to wrapping, and they are the same where everything was backed. -/
structure Conserves (arithmetic : Arithmetic) (before after : Table) : Prop where
  wrapped : arithmetic.wrap after.chips = arithmetic.wrap before.chips
  backed : before.Backed arithmetic → after.Backed arithmetic ∧ after.chips = before.chips

variable {arithmetic : Arithmetic} {table between after : Table}

theorem Conserves.refl (table : Table) : Conserves arithmetic table table := ⟨rfl, fun backed =>
  ⟨backed, rfl⟩⟩

theorem Conserves.trans (first : table.Conserves arithmetic between)
    (second : between.Conserves arithmetic after) : table.Conserves arithmetic after where
  wrapped := second.wrapped.trans first.wrapped
  backed backed := by
    rcases first.backed backed with ⟨backedBetween, same⟩
    rcases second.backed backedBetween with ⟨backedAfter, sameAfter⟩
    exact ⟨backedAfter, sameAfter.trans same⟩

namespace Backed

theorem pot_nonneg (backed : table.Backed arithmetic) : 0 ≤ table.pot :=
  Int.le_trans backed.nonneg backed.covered

/-- Changes that leave every chip where it is, or take bets back that the pot keeps. -/
theorem of_same (backed : table.Backed arithmetic) (chips : after.chips = table.chips)
    (pot : after.pot = table.pot)
    (bets : after.roundBets = table.roundBets ∨ after.roundBets = 0)
    (players : ∀ player ∈ after.players, ∃ old ∈ table.players, player.stack = old.stack ∧
      (player.bet = old.bet ∨ player.bet = 0)) : after.Backed arithmetic where
  nonneg := by
    have nonneg := backed.nonneg
    lia
  covered := by
    have covered := backed.covered
    have nonneg := backed.pot_nonneg
    lia
  room := by
    rw [chips]
    exact backed.room
  players wraps player member := by
    rcases players player member with ⟨old, oldMember, stack, bet⟩
    have oldNonneg := backed.players wraps old oldMember
    lia

end Backed

/-! ## What conserves chips -/

end Table

/-! ## Operations -/

namespace Operation

variable {settings : Settings} {job : Job} {before after : Table}

end Operation

/-! ## Runs -/

namespace World

variable {settings : Settings} {tableId : UInt32} {log : List Event} {world : World}

end World

end Holdem
