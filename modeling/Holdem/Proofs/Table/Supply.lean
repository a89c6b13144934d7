import Holdem.Proofs.Table.Hand

/-!
# Chips for a new solo hand

A solo hand begins with an empty pot. The hero and an opponent are seated where they are missing and
empty stacks are refilled, and that is all that is handed out. So a hand begins with fewer chips than
there were before exactly when more was left in the pot than is handed out now.
-/

namespace Holdem

namespace Player

/-- What refilling a player's stack adds to it; a stack with chips in it is not refilled. -/
def topUp (stack : Chips) (player : Player) : Chips :=
  if player.stack ≤ 0 then stack - player.stack else 0

theorem total_map_add {amount added : Player → Chips} {change : Player → Player}
    (adds : ∀ player, amount (change player) = amount player + added player)
    (players : List Player) :
    total amount (players.map change) = total amount players + total added players := by
  induction players with
  | nil => rfl
  | cons player players hypothesis =>
    simp only [List.map_cons, total_cons, adds, hypothesis]
    lia

end Player

namespace Table

def hasOther (table : Table) (address : Address) : Bool :=
  table.players.any fun player => player.address ≠ address

/-- What is handed out at the start of a solo hand. -/
def supply (table : Table) (hero : Address) (stack : Chips) : Chips :=
  (if table.isSeated hero then 0 else stack) + (if table.hasOther hero then 0 else stack) +
    Player.total (Player.topUp stack) table.players

theorem supply_nonneg (table : Table) (hero : Address) {stack : Chips} (nonneg : 0 ≤ stack) :
    0 ≤ table.supply hero stack := by
  have toppedUp : 0 ≤ Player.total (Player.topUp stack) table.players := by
    apply Player.total_nonneg
    intro player _
    simp only [Player.topUp]
    split
    · lia
    · exact Int.le_refl 0
  simp only [supply]
  split <;> split <;> lia

theorem total_seatNext (table : Table) (address : Address) (stack : Chips) :
    Player.total Player.stack (table.seatNext address stack).players =
        Player.total Player.stack table.players + stack ∧
      Player.total (Player.topUp stack) (table.seatNext address stack).players =
        Player.total (Player.topUp stack) table.players := by
  have full : Player.topUp stack { address, seat := table.nextFreeSeat, stack } = 0 := by
    simp [Player.topUp]
  simp only [seatNext, Player.total_append, Player.total_cons, Player.total_nil, full]
  exact ⟨by lia, by lia⟩

theorem chips_seatSolo (table : Table) (hero : Address) (stack : Chips) :
    (table.seatSolo hero stack).chips = table.chips + table.supply hero stack := by
  have refill : ∀ players,
      Player.total Player.stack (players.map fun player : Player =>
        if player.stack ≤ 0 then { player with stack } else player) =
      Player.total Player.stack players + Player.total (Player.topUp stack) players := by
    apply Player.total_map_add
    intro player
    simp only [Player.topUp]
    split
    · dsimp only
      lia
    · lia
  rcases table.total_seatNext hero stack with ⟨heroStack, heroFull⟩
  have others : (table.seatNext hero stack).hasOther hero = table.hasOther hero := by
    simp [seatNext, hasOther]
  unfold seatSolo
  extract_lets withHero withOpponent
  -- whoever is seated now comes with a full stack, so only those from before are refilled
  have atHero : Player.total Player.stack withHero.players =
        Player.total Player.stack table.players + (if table.isSeated hero then 0 else stack) ∧
      Player.total (Player.topUp stack) withHero.players =
        Player.total (Player.topUp stack) table.players ∧
      withHero.hasOther hero = table.hasOther hero ∧ withHero.pot = table.pot := by
    simp only [withHero]
    split
    · exact ⟨by lia, rfl, rfl, rfl⟩
    · exact ⟨heroStack, heroFull, others, rfl⟩
  rcases atHero with ⟨held, full, sameOthers, pot⟩
  rcases withHero.total_seatNext simulatedOpponent stack with ⟨opponentStack, opponentFull⟩
  have atOpponent : Player.total Player.stack withOpponent.players =
        Player.total Player.stack withHero.players +
          (if withHero.hasOther hero then 0 else stack) ∧
      Player.total (Player.topUp stack) withOpponent.players =
        Player.total (Player.topUp stack) withHero.players ∧ withOpponent.pot = withHero.pot := by
    by_cases someone : withHero.hasOther hero
    · rw [show withOpponent = withHero from if_pos someone, if_pos someone]
      exact ⟨by lia, rfl, rfl⟩
    · rw [show withOpponent = withHero.seatNext simulatedOpponent stack from if_neg someone,
        if_neg someone]
      exact ⟨opponentStack, opponentFull, rfl⟩
  rcases atOpponent with ⟨heldAll, fullAll, potAll⟩
  rw [sameOthers] at heldAll
  rw [chips_eq, chips_eq, supply]
  dsimp only
  rw [refill, heldAll, held, fullAll, full, potAll, pot]
  lia

theorem chips_clearedForHand (table : Table) :
    table.clearedForHand.chips + table.pot = table.chips := by
  have held := Player.total_map Player.stack Player.fresh (fun _ => rfl) table.players
  rw [chips_eq, chips_eq]
  simp only [clearedForHand]
  rw [held]
  lia

theorem supply_clearedForHand (table : Table) (hero : Address) (stack : Chips) :
    table.clearedForHand.supply hero stack = table.supply hero stack := by
  have full :=
    Player.total_map (Player.topUp stack) Player.fresh (fun _ => rfl) table.players
  have seated : table.clearedForHand.isSeated hero = table.isSeated hero := by
    simp only [clearedForHand, isSeated, player?, List.find?_map, Option.isSome_map]
    rfl
  have others : table.clearedForHand.hasOther hero = table.hasOther hero := by
    simp only [clearedForHand, hasOther, List.any_map]
    rfl
  simp only [supply, seated, others]
  simp only [clearedForHand]
  rw [full]

/-- A solo hand begins with what the players had and what is handed out; the pot before is gone. -/
theorem chips_beginHand (table : Table) (hero : Address) (seats : List Address)
    (buyIn soloStack : Chips) :
    (table.beginHand .single hero seats buyIn soloStack).chips + table.pot =
      table.chips + table.supply hero soloStack := by
  have cleared := table.chips_clearedForHand
  have seated := table.clearedForHand.chips_seatSolo hero soloStack
  rw [supply_clearedForHand] at seated
  change (table.clearedForHand.seatSolo hero soloStack).chips + table.pot = _
  lia

end Table

end Holdem
