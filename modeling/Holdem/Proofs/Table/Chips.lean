import Holdem.Proofs.Table.Sums
import Holdem.Table.Hand

/-!
# Chips on the table

A betting action and the end of a hand move chips between a stack and the pot. This file says once
what each of them can do, and derives the two balances of a table from it: the chips of all stacks
together with the pot, and the part of the pot that was not bet in the current round. Up to wrapping
they always hold; they hold of the amounts themselves where the sums that are made fit.

Sums over players are taken with `Player.total`, which is what `Table.chips` and `Table.roundBets`
fold over the list.
-/

namespace Holdem

/-! ## Changing one player -/

theorem mem_updateFirst {wanted : α → Bool} {change : α → α} {elements : List α} {element : α}
    (member : element ∈ updateFirst wanted change elements) :
    element ∈ elements ∨ ∃ old ∈ elements, wanted old ∧ element = change old := by
  induction elements with
  | nil => exact absurd member List.not_mem_nil
  | cons first rest hypothesis =>
    simp only [updateFirst] at member
    split at member
    · rename_i found
      rcases List.mem_cons.mp member with new | old
      · exact Or.inr ⟨first, List.mem_cons_self, found, new⟩
      · exact Or.inl (List.mem_cons_of_mem first old)
    · rcases List.mem_cons.mp member with same | later
      · exact Or.inl (same ▸ List.mem_cons_self)
      · rcases hypothesis later with old | ⟨old, oldMember, found, new⟩
        · exact Or.inl (List.mem_cons_of_mem first old)
        · exact Or.inr ⟨old, List.mem_cons_of_mem first oldMember, found, new⟩

/-- The first wanted element is the changed one, when a change leaves it wanted. -/
theorem find?_updateFirst {wanted : α → Bool} {change : α → α} {elements : List α} {element : α}
    (stays : ∀ element, wanted element → wanted (change element))
    (found : elements.find? wanted = some element) :
    (updateFirst wanted change elements).find? wanted = some (change element) := by
  induction elements with
  | nil => exact absurd found (by simp)
  | cons first rest hypothesis =>
    simp only [updateFirst]
    by_cases here : wanted first
    · rw [List.find?_cons_of_pos here, Option.some.injEq] at found
      subst found
      rw [if_pos here, List.find?_cons_of_pos (stays first here)]
    · rw [List.find?_cons_of_neg here] at found
      rw [if_neg here, List.find?_cons_of_neg here]
      exact hypothesis found

theorem map_updateFirst {wanted : α → Bool} {change : α → α} {elements : List α} {element : α}
    {image : α → β} (found : elements.find? wanted = some element)
    (kept : image (change element) = image element) :
    (updateFirst wanted change elements).map image = elements.map image := by
  induction elements with
  | nil => rfl
  | cons first rest hypothesis =>
    simp only [updateFirst]
    by_cases here : wanted first
    · rw [List.find?_cons_of_pos here, Option.some.injEq] at found
      subst found
      rw [if_pos here, List.map_cons, List.map_cons, kept]
    · rw [List.find?_cons_of_neg here] at found
      rw [if_neg here, List.map_cons, List.map_cons, hypothesis found]

theorem map_updateFirst_of_unchanged {image : α → β} {change : α → α}
    (unchanged : ∀ element, image (change element) = image element) (wanted : α → Bool)
    (elements : List α) : (updateFirst wanted change elements).map image = elements.map image := by
  induction elements with
  | nil => rfl
  | cons first rest hypothesis =>
    simp only [updateFirst]
    split
    · rw [List.map_cons, List.map_cons, unchanged]
    · rw [List.map_cons, List.map_cons, hypothesis]

namespace Player

/-- The sum of an amount over players. -/
def total (amount : Player → Chips) (players : List Player) : Chips :=
  players.foldr (fun player sum => amount player + sum) 0

variable {amount : Player → Chips}

@[simp]
theorem total_nil : total amount [] = 0 := rfl

@[simp]
theorem total_cons (player : Player) (players : List Player) :
    total amount (player :: players) = amount player + total amount players := rfl

@[simp]
theorem total_append (players others : List Player) :
    total amount (players ++ others) = total amount players + total amount others := by
  induction players with
  | nil => simp
  | cons player players hypothesis =>
    simp only [List.cons_append, total_cons, hypothesis]
    lia

/-- Changing the first player that is wanted changes the sum by that player's difference. -/
theorem total_updateFirst {wanted : Player → Bool} {change : Player → Player}
    {players : List Player} {player : Player} (found : players.find? wanted = some player) :
    total amount (updateFirst wanted change players) =
      total amount players - amount player + amount (change player) := by
  induction players with
  | nil => simp at found
  | cons first rest hypothesis =>
    simp only [updateFirst]
    by_cases here : wanted first
    · simp only [List.find?_cons, here, Option.some.injEq] at found
      subst found
      simp only [here, ↓reduceIte, total_cons]
      lia
    · simp only [List.find?_cons, here] at found
      simp only [here, Bool.false_eq_true, ↓reduceIte, total_cons, hypothesis found]
      lia

theorem total_map (amount : Player → Chips) (change : Player → Player)
    (unchanged : ∀ player, amount (change player) = amount player) (players : List Player) :
    total amount (players.map change) = total amount players := by
  induction players with
  | nil => rfl
  | cons player players hypothesis =>
    simp only [List.map_cons, total_cons, unchanged, hypothesis]

theorem total_congr {players others : List Player}
    (same : players.map amount = others.map amount) :
    total amount players = total amount others := by
  have sums := congrArg (List.foldr (· + ·) 0) same
  rw [List.foldr_map, List.foldr_map] at sums
  exact sums

theorem total_eq_zero {players : List Player} (none : ∀ player ∈ players, amount player = 0) :
    total amount players = 0 := by
  induction players with
  | nil => rfl
  | cons player players hypothesis =>
    have first := none player List.mem_cons_self
    have rest := hypothesis fun other member => none other (List.mem_cons_of_mem player member)
    simp only [total_cons, first, rest]
    rfl

theorem total_nonneg {amount : Player → Chips} {players : List Player}
    (each : ∀ player ∈ players, 0 ≤ amount player) : 0 ≤ total amount players := by
  induction players with
  | nil => exact Int.le_refl 0
  | cons player players hypothesis =>
    have first := each player List.mem_cons_self
    have rest := hypothesis fun other member => each other (List.mem_cons_of_mem player member)
    simp only [total_cons]
    lia

theorem le_total {players : List Player} {player : Player}
    (each : ∀ player ∈ players, 0 ≤ amount player) (member : player ∈ players) :
    amount player ≤ total amount players := by
  induction players with
  | nil => exact absurd member List.not_mem_nil
  | cons first rest hypothesis =>
    have others := fun other member => each other (List.mem_cons_of_mem first member)
    have firstNonneg := each first List.mem_cons_self
    have restNonneg := total_nonneg others
    simp only [total_cons]
    rcases List.mem_cons.mp member with rfl | later
    · lia
    · have below := hypothesis others later
      lia

variable {arithmetic : Arithmetic}

/-- What committing chips does: it moves between nothing and the whole stack, and never leaves a
debt. -/
theorem commit?_eq_some {player after : Player} {amount moved : Chips}
    (committed : player.commit? arithmetic amount = some (after, moved)) :
    0 ≤ player.stack ∧ moved = max 0 (min amount player.stack) ∧
      after.stack = player.stack - moved ∧ after.bet = arithmetic.wrap (player.bet + moved) ∧
      after.address = player.address ∧ after.seat = player.seat ∧
      after.folded = player.folded ∧ after.hole = player.hole := by
  simp only [commit?] at committed
  split at committed
  · exact absurd committed (by simp)
  · rename_i solvent
    simp only [Option.some.injEq, Prod.mk.injEq] at committed
    rcases committed with ⟨afterEq, movedEq⟩
    subst afterEq movedEq
    refine ⟨by lia, rfl, rfl, rfl, rfl, rfl, rfl, rfl⟩

/-- Committing nothing leaves the player as before. -/
theorem eq_of_commit?_zero {player after : Player} {amount : Chips}
    (committed : player.commit? arithmetic amount = some (after, 0))
    (fits : arithmetic.Fits player.bet) : after = player := by
  simp only [commit?] at committed
  split at committed
  · exact absurd committed (by simp)
  · simp only [Option.some.injEq, Prod.mk.injEq] at committed
    rcases committed with ⟨afterEq, none⟩
    rw [← afterEq, none, Int.add_zero, show arithmetic.wrap player.bet = player.bet from fits]
    simp

theorem exists_commit? {player : Player} (solvent : 0 ≤ player.stack) (arithmetic : Arithmetic)
    (amount : Chips) : ∃ after moved, player.commit? arithmetic amount = some (after, moved) := by
  have notInDebt : ¬player.stack < 0 := by lia
  simp [commit?, notInDebt]

end Player

namespace Table

theorem chips_eq (table : Table) :
    table.chips = table.pot + Player.total Player.stack table.players := by
  simp only [chips]
  induction table.players with
  | nil => simp
  | cons player players hypothesis =>
    simp only [List.foldr_cons, Player.total_cons, hypothesis]
    lia

theorem roundBets_eq (table : Table) :
    table.roundBets = Player.total Player.bet table.players := rfl

theorem address_of_player? {table : Table} {address : Address} {player : Player}
    (seated : table.player? address = some player) : player.address = address := by
  simpa using List.find?_some seated

theorem mem_of_player? {table : Table} {address : Address} {player : Player}
    (seated : table.player? address = some player) : player ∈ table.players :=
  List.mem_of_find?_eq_some seated

theorem mem_updatePlayer {table : Table} {address : Address} {change : Player → Player}
    {player : Player}
    (member : player ∈ (table.updatePlayer address change).players) :
    player ∈ table.players ∨
      ∃ old ∈ table.players, old.address = address ∧ player = change old := by
  rcases mem_updateFirst member with same | ⟨old, oldMember, found, new⟩
  · exact Or.inl same
  · exact Or.inr ⟨old, oldMember, by simpa using found, new⟩

theorem total_updatePlayer (amount : Player → Chips) {table : Table} {address : Address}
    {player : Player} (change : Player → Player) (seated : table.player? address = some player) :
    Player.total amount (table.updatePlayer address change).players =
      Player.total amount table.players - amount player + amount (change player) :=
  Player.total_updateFirst seated

/-! ## Betting actions -/

variable {arithmetic : Arithmetic}

/-- Everything that an action can do: nothing for an unknown address, a mark for a fold, nothing for
a check, and chips from the actor's stack to the pot otherwise. -/
theorem act?_cases {table after : Table} {address : Address} {action : Action} {moved : Chips}
    (acted : table.act? arithmetic address action = some (after, moved)) :
    (table.player? address = none ∧ after = table ∧ moved = 0) ∨
    ∃ player, table.player? address = some player ∧
      ((action = .fold ∧ moved = 0 ∧
          after = table.updatePlayer address fun player => { player with folded := true }) ∨
        (action = .check ∧ moved = 0 ∧ after = table) ∨
        ∃ stake committed,
          action.stake? arithmetic (table.toCall arithmetic player) player.stack = some stake ∧
          player.commit? arithmetic stake = some (committed, moved) ∧
          after =
            { table.updatePlayer address fun _ => committed with
                pot := arithmetic.wrap (table.pot + moved) }) := by
  simp only [act?] at acted
  rcases seated : table.player? address with _ | player
  · simp only [seated, Option.some.injEq, Prod.mk.injEq] at acted
    exact Or.inl ⟨rfl, acted.1.symm, acted.2.symm⟩
  · right
    refine ⟨player, rfl, ?_⟩
    rcases staked : action.stake? arithmetic (table.toCall arithmetic player) player.stack with
      _ | stake
    · simp only [seated, staked] at acted
      cases action with
      | fold =>
        simp only [Option.some.injEq, Prod.mk.injEq] at acted
        exact Or.inl ⟨rfl, acted.2.symm, acted.1.symm⟩
      | check =>
        simp only [Option.some.injEq, Prod.mk.injEq] at acted
        exact Or.inr (Or.inl ⟨rfl, acted.2.symm, acted.1.symm⟩)
      | call | bet | raise | allIn => simp [Action.stake?] at staked
    · simp only [seated, staked, Option.map_eq_some_iff] at acted
      rcases acted with ⟨⟨committed, chips⟩, commits, result⟩
      simp only [Prod.mk.injEq] at result
      rcases result with ⟨afterEq, rfl⟩
      exact Or.inr (Or.inr ⟨stake, committed, rfl, commits, afterEq.symm⟩)

/-- An action of a player without debts is always defined. -/
theorem exists_act? {table : Table} (arithmetic : Arithmetic) (address : Address) (action : Action)
    (solvent : ∀ player ∈ table.players, 0 ≤ player.stack) :
    ∃ after moved, table.act? arithmetic address action = some (after, moved) := by
  simp only [act?]
  rcases seated : table.player? address with _ | player
  · exact ⟨table, 0, rfl⟩
  · dsimp only
    split
    · split <;> exact ⟨_, _, rfl⟩
    · rename_i stake _
      have playerSolvent := solvent player (mem_of_player? seated)
      rcases Player.exists_commit? playerSolvent arithmetic stake with ⟨after, moved, commits⟩
      simp [commits]

/-- An action changes nothing but the players and the pot. -/
theorem act?_frame {table after : Table} {address : Address} {action : Action} {moved : Chips}
    (acted : table.act? arithmetic address action = some (after, moved)) :
    after = { table with players := after.players, pot := after.pot } := by
  rcases act?_cases acted with
    ⟨_, rfl, _⟩ | ⟨player, _, ⟨_, _, rfl⟩ | ⟨_, _, rfl⟩ | ⟨stake, committed, _, _, rfl⟩⟩
  · rfl
  · rfl
  · rfl
  · rfl

/-- An action takes from the actor's stack what it adds to the pot and to the bets, up to wrapping
there. -/
theorem act?_wrapped {table after : Table} {address : Address} {action : Action} {moved : Chips}
    (acted : table.act? arithmetic address action = some (after, moved)) :
    0 ≤ moved ∧
      Player.total Player.stack after.players = Player.total Player.stack table.players - moved ∧
      arithmetic.wrap after.pot = arithmetic.wrap (table.pot + moved) ∧
      arithmetic.wrap after.chips = arithmetic.wrap table.chips := by
  have chips : Player.total Player.stack after.players =
        Player.total Player.stack table.players - moved →
      arithmetic.wrap after.pot = arithmetic.wrap (table.pot + moved) →
        arithmetic.wrap after.chips = arithmetic.wrap table.chips := by
    intro stackTotal pot
    rw [chips_eq, chips_eq, stackTotal, Arithmetic.wrap_add_congr pot]
    congr 1
    lia
  rcases act?_cases acted with
    ⟨_, rfl, rfl⟩ | ⟨player, seated, ⟨_, rfl, rfl⟩ | ⟨_, rfl, rfl⟩ |
      ⟨stake, committed, _, commits, rfl⟩⟩
  · simp
  · have stackTotal := total_updatePlayer Player.stack
      (fun player => { player with folded := true }) seated
    have pot : (table.updatePlayer address fun player => { player with folded := true }).pot =
        table.pot + 0 := (Int.add_zero table.pot).symm
    exact ⟨Int.le_refl 0, by lia, congrArg _ pot, chips (by lia) (congrArg _ pot)⟩
  · simp
  · rcases Player.commit?_eq_some commits with ⟨solvent, amount, stack, _⟩
    have stackTotal := total_updatePlayer Player.stack (fun _ => committed) seated
    have pot := arithmetic.fits_wrap (table.pot + moved)
    exact ⟨by lia, by dsimp only; lia, pot, chips (by dsimp only; lia) pot⟩

/-- Where pot and bet have room for what an action moves, it takes from the actor's stack what it
adds to the pot and to the bets. -/
theorem act?_balance {table after : Table} {address : Address} {action : Action} {moved : Chips}
    (acted : table.act? arithmetic address action = some (after, moved))
    (pot : arithmetic.Fits (table.pot + moved))
    (bet : ∀ player, table.player? address = some player → arithmetic.Fits (player.bet + moved)) :
    after.pot = table.pot + moved ∧ after.chips = table.chips ∧
      after.roundBets = table.roundBets + moved := by
  rcases act?_wrapped acted with ⟨_, stackTotal, _⟩
  have chips : after.pot = table.pot + moved → after.chips = table.chips := by
    intro added
    rw [chips_eq, chips_eq]
    lia
  simp only [roundBets_eq]
  rcases act?_cases acted with
    ⟨_, rfl, rfl⟩ | ⟨player, seated, ⟨_, rfl, rfl⟩ | ⟨_, rfl, rfl⟩ |
      ⟨stake, committed, _, commits, rfl⟩⟩
  · simp
  · have bets := total_updatePlayer Player.bet
      (fun player => { player with folded := true }) seated
    have same : (table.updatePlayer address fun player => { player with folded := true }).pot =
        table.pot + 0 := (Int.add_zero table.pot).symm
    exact ⟨same, chips same, by lia⟩
  · simp
  · rcases Player.commit?_eq_some commits with ⟨_, _, _, betEq, _⟩
    have bets := total_updatePlayer Player.bet (fun _ => committed) seated
    have fits : arithmetic.wrap (player.bet + moved) = player.bet + moved := bet player seated
    exact ⟨pot, chips pot, by dsimp only; lia⟩

/-! ## The end of a hand -/

theorem total_bet_resetBets (table : Table) :
    Player.total Player.bet table.resetBets.players = 0 := by
  apply Player.total_eq_zero
  intro player member
  rcases List.mem_map.mp member with ⟨old, _, rfl⟩
  rfl

theorem isSeated_iff {table : Table} {address : Address} :
    table.isSeated address ↔ ∃ player, table.player? address = some player :=
  Option.isSome_iff_exists

theorem pay_pot (table : Table) (winner : Address) :
    (table.pay arithmetic winner).pot = if table.isSeated winner then 0 else table.pot := by
  simp only [pay]
  split
  · rfl
  · rfl

@[simp]
theorem settle_handNumber (table : Table) (winner : Address) :
    (table.settle arithmetic winner).handNumber = table.handNumber := by
  simp only [settle, pay]
  split <;> rfl

/-- Settling a hand empties the pot, or leaves it where it is when the winner is not seated; either
way no bet is left. -/
theorem settle_balance (table : Table) (winner : Address) :
    (table.settle arithmetic winner).roundBets = 0 ∧
      (table.settle arithmetic winner).pot = if table.isSeated winner then 0 else table.pot :=
  ⟨total_bet_resetBets _, table.pay_pot winner⟩

/-! ## Deals -/

/-- Whoever is dealt in at a solo table was there before or has just been seated, and an empty stack
is refilled. -/
theorem exists_of_mem_seatSolo {property : Player → Prop} {table : Table} {hero : Address}
    {stack : Chips} (present : ∀ player ∈ table.players, property player)
    (seated : ∀ address seat, property { address, seat, stack }) :
    ∀ player ∈ (table.seatSolo hero stack).players,
      ∃ old, property old ∧ player = if old.stack ≤ 0 then { old with stack } else old := by
  have nextSeated : ∀ {table : Table} (address : Address),
      (∀ player ∈ table.players, property player) →
        ∀ player ∈ (table.seatNext address stack).players, property player := by
    intro table address present player member
    rcases List.mem_append.mp member with old | new
    · exact present player old
    · rw [List.mem_singleton.mp new]
      exact seated address _
  unfold seatSolo
  extract_lets withHero withOpponent
  have heroSeated : ∀ player ∈ withHero.players, property player := by
    simp only [withHero]
    split
    · exact present
    · exact nextSeated hero present
  have opponentSeated : ∀ player ∈ withOpponent.players, property player := by
    simp only [withOpponent]
    split
    · exact heroSeated
    · exact nextSeated simulatedOpponent heroSeated
  intro player member
  rcases List.mem_map.mp member with ⟨old, oldMember, rfl⟩
  exact ⟨old, opponentSeated old oldMember, rfl⟩

theorem bet_of_mem_seatSolo {table : Table} {hero : Address} {stack : Chips}
    (none : ∀ player ∈ table.players, player.bet = 0) :
    ∀ player ∈ (table.seatSolo hero stack).players, player.bet = 0 := by
  intro player member
  rcases exists_of_mem_seatSolo none (fun _ _ => rfl) player member with ⟨old, oldNone, rfl⟩
  split
  · exact oldNone
  · exact oldNone

end Table

end Holdem
