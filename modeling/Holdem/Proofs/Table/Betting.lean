import Holdem.Proofs.Table.Level

/-!
# Betting accounts

Calls come from anyone, in any order and with any amount: from addresses that are not seated, out of
turn, with amounts below zero or beyond the stack. Where no two players share an address and nobody
is in debt, one call does the same in all of these cases. It moves some chips, possibly none, from the
actor's stack to the actor's bet and to the pot, and leaves everyone else alone.

So the accounts balance after a single call, the players still are told apart and solvent, and the
next call finds what the first one found. Nothing is assumed of the bets before.
-/

namespace Holdem

/-- The player after an action that has moved chips into the pot. -/
def Player.putIn (player : Player) (action : Action) (moved : Chips) : Player :=
  { player with
    stack := player.stack - moved
    bet := player.bet + moved
    folded := player.folded || action = .fold
    allIn := player.allIn || (player.stack - moved = 0 && 0 < moved) }

/-- Whether an action is meant to match the highest bet: a call, or a raise that does not ask for less
than one. -/
def Action.Covers (action : Action) : Prop :=
  action = .call ∨ ∃ amount, action = .raise amount ∧ 0 ≤ amount

namespace Table

variable {table after : Table} {address : Address} {action : Action} {player : Player}
  {moved : Chips}

/-- Applies actions one after another, each of the player with an address. -/
def actAll? (table : Table) (calls : List (Address × Action)) : Option Table :=
  calls.foldlM (fun table (address, action) => (table.act? .exact address action).map Prod.fst)
    table

/-- No two players share an address, and nobody is in debt. -/
structure Solvent (table : Table) : Prop where
  distinct : (table.players.map Player.address).Nodup
  nonneg : ∀ player ∈ table.players, 0 ≤ player.stack

/-- What a call does at a table: it moves chips, within the stack, from the actor to the pot, and
touches nobody else. -/
structure Moves (table : Table) (address : Address) (action : Action) (after : Table)
    (moved : Chips) : Prop where
  nonneg : 0 ≤ moved
  unseated : table.player? address = none → moved = 0
  capped : ∀ player, table.player? address = some player → moved ≤ player.stack
  only : after =
    { table with
      pot := table.pot + moved
      players := table.players.map fun player =>
        if player.address = address then player.putIn action moved else player }
  covered : action.Covers → ∀ player, table.player? address = some player →
    ∃ left, after.player? address = some left ∧ (table.highestBet ≤ left.bet ∨ left.stack = 0)

/-- What any number of calls keep: the chips altogether, the part of the pot that was not bet in the
round, and every player in their seat with no bet taken back. -/
structure Balances (before after : Table) : Prop where
  chips : after.chips = before.chips
  carried : after.pot - after.roundBets = before.pot - before.roundBets
  players : List.Forall₂
    (fun old new : Player => new.address = old.address ∧ new.seat = old.seat ∧ old.bet ≤ new.bet)
    before.players after.players

/-! ## One call -/

theorem map_of_unseated {players : List Player} {new : Player → Player}
    (absent : ∀ other ∈ players, other.address ≠ address) :
    (players.map fun other => if other.address = address then new other else other) = players := by
  induction players with
  | nil => rfl
  | cons first rest hypothesis =>
    have others := hypothesis fun other member => absent other (List.mem_cons_of_mem first member)
    simp [absent first List.mem_cons_self, others]

/-- Where addresses are distinct, changing the first player with one changes all players with it. -/
theorem players_updatePlayer {change new : Player → Player}
    (distinct : (table.players.map Player.address).Nodup)
    (seated : table.player? address = some player) (changed : change player = new player) :
    (table.updatePlayer address change).players =
      table.players.map fun other => if other.address = address then new other else other := by
  simp only [updatePlayer, player?] at seated ⊢
  generalize table.players = players at distinct seated
  induction players with
  | nil => rfl
  | cons first rest hypothesis =>
    rw [List.map_cons, List.nodup_cons] at distinct
    by_cases here : first.address = address
    · obtain rfl : first = player := by simpa [here] using seated
      -- The update stops here, and the map goes on to players with other addresses.
      have absent : ∀ other ∈ rest, other.address ≠ address := by
        intro other member same
        exact distinct.1 (List.mem_map.mpr ⟨other, member, same.trans here.symm⟩)
      simp [updateFirst, here, changed, map_of_unseated absent]
    · have later : rest.find? (fun other => other.address = address) = some player := by
        simpa [here] using seated
      simp [updateFirst, here, hypothesis distinct.2 later]

theorem putIn_of_commit? {committed : Player} {stake : Chips} (acts : action ≠ .fold)
    (commits : player.commit? .exact stake = some (committed, moved)) :
    committed = player.putIn action moved := by
  simp only [Player.commit?] at commits
  split at commits
  · exact absurd commits (by simp)
  · simp only [Option.some.injEq, Prod.mk.injEq] at commits
    rcases commits with ⟨rfl, rfl⟩
    simp [Player.putIn, acts]

namespace Solvent

theorem balance (acts : table.act? .exact address action = some (after, moved)) :
    after.pot = table.pot + moved ∧ after.chips = table.chips ∧
      after.roundBets = table.roundBets + moved :=
  act?_balance acts (Arithmetic.fits_exact _) fun _ _ => Arithmetic.fits_exact _

theorem only (solvent : table.Solvent)
    (acts : table.act? .exact address action = some (after, moved)) :
    after =
      { table with
        pot := table.pot + moved
        players := table.players.map fun player =>
          if player.address = address then player.putIn action moved else player } := by
  have players : after.players = table.players.map fun player =>
      if player.address = address then player.putIn action moved else player := by
    rcases act?_cases acts with
      ⟨absent, rfl, _⟩ | ⟨actor, seated, ⟨rfl, rfl, rfl⟩ | ⟨rfl, rfl, rfl⟩ |
        ⟨stake, committed, staked, commits, rfl⟩⟩
    · symm
      apply map_of_unseated
      simpa [player?] using absent
    · exact players_updatePlayer solvent.distinct seated (by simp [Player.putIn])
    · -- A check puts in nothing, which leaves every player as it is.
      simp [Player.putIn]
    · have notFold : action ≠ .fold := by
        rintro rfl
        simp [Action.stake?] at staked
      exact players_updatePlayer solvent.distinct seated (putIn_of_commit? notFold commits)
  rw [act?_frame acts, players, (balance acts).1]

/-- A call that is meant to match the highest bet does so, or takes all the chips. -/
theorem covered (acts : table.act? .exact address action = some (after, moved))
    (covers : action.Covers) (seated : table.player? address = some player) :
    ∃ left, after.player? address = some left ∧ (table.highestBet ≤ left.bet ∨ left.stack = 0) := by
  rcases act?_actor acts seated (Arithmetic.fits_exact _) with ⟨_, left, found, stack, bet⟩
  refine ⟨left, found, ?_⟩
  have staked := act?_moved acts seated
  rcases covers with rfl | ⟨amount, rfl, nonneg⟩
  · simp only [Action.stake?, toCall, Arithmetic.wrap_exact] at staked
    lia
  · simp only [Action.stake?, toCall, Arithmetic.wrap_exact] at staked
    lia

theorem moves (solvent : table.Solvent)
    (acts : table.act? .exact address action = some (after, moved)) :
    table.Moves address action after moved where
  nonneg := (act?_wrapped acts).1
  unseated absent := by
    rcases act?_cases acts with ⟨_, _, none⟩ | ⟨player, seated, _⟩
    · exact none
    · simp [absent] at seated
  capped player seated :=
    moved_le_stack acts seated (solvent.nonneg player (mem_of_player? seated))
  only := solvent.only acts
  covered covers player seated := covered acts covers seated

theorem act? (solvent : table.Solvent)
    (acts : table.act? .exact address action = some (after, moved)) : after.Solvent where
  distinct := by
    rw [addresses_act? acts]
    exact solvent.distinct
  nonneg player member := by
    rcases List.mem_map.mp (congrArg players (solvent.only acts) ▸ member) with ⟨old, seated, rfl⟩
    split
    · rename_i own
      have capped := (solvent.moves acts).capped old (own ▸ player?_of_mem solvent.distinct seated)
      simp only [Player.putIn]
      lia
    · exact solvent.nonneg old seated

end Solvent

/-! ## Any number of calls -/

theorem forall₂_trans {related : α → α → Prop} {olds middles news : List α}
    (trans : ∀ old middle new, related old middle → related middle new → related old new)
    (first : List.Forall₂ related olds middles) (second : List.Forall₂ related middles news) :
    List.Forall₂ related olds news := by
  induction first generalizing news with
  | nil => exact second
  | cons here _ hypothesis =>
    cases second with
    | cons there later => exact .cons (trans _ _ _ here there) (hypothesis later)

namespace Balances

theorem refl (table : Table) : table.Balances table :=
  ⟨rfl, rfl, List.forall₂_same.mpr fun _ _ => ⟨rfl, rfl, Int.le_refl _⟩⟩

theorem trans {before between after : Table} (first : before.Balances between)
    (second : between.Balances after) : before.Balances after where
  chips := second.chips.trans first.chips
  carried := second.carried.trans first.carried
  players := by
    apply forall₂_trans _ first.players second.players
    rintro old middle new ⟨address, seat, bet⟩ ⟨address', seat', bet'⟩
    exact ⟨address'.trans address, seat'.trans seat, Int.le_trans bet bet'⟩

end Balances

theorem Solvent.balances (solvent : table.Solvent)
    (acts : table.act? .exact address action = some (after, moved)) : table.Balances after := by
  rcases Solvent.balance acts with ⟨pot, chips, bets⟩
  have nonneg := (act?_wrapped acts).1
  refine ⟨chips, by lia, ?_⟩
  rw [solvent.only acts]
  apply List.forall₂_map_right_iff.mpr
  apply List.forall₂_same.mpr
  intro player _
  split
  · exact ⟨rfl, rfl, Int.le_add_of_nonneg_right nonneg⟩
  · exact ⟨rfl, rfl, Int.le_refl _⟩

theorem Solvent.exists_actAll? (solvent : table.Solvent) (calls : List (Address × Action)) :
    ∃ last, table.actAll? calls = some last ∧ last.Solvent ∧ table.Balances last := by
  induction calls generalizing table with
  | nil => exact ⟨table, rfl, solvent, .refl table⟩
  | cons call calls hypothesis =>
    rcases call with ⟨address, action⟩
    rcases exists_act? .exact address action solvent.nonneg with ⟨after, moved, acts⟩
    rcases hypothesis (solvent.act? acts) with ⟨last, ends, solventLast, balances⟩
    refine ⟨last, ?_, solventLast, (solvent.balances acts).trans balances⟩
    simpa [actAll?, acts] using ends

/-- Betting accounts balance at any table where no two players share an address and nobody is in debt.
After any calls, by anyone and with any amounts, the chips altogether and the part of the pot that was
not bet in the round are what they were, nobody is in debt and no bet is lower. Whoever calls next, and
with whatever action, moves exactly the chips that the call gives back and touches no other player;
and a player who calls, or raises by no less than nothing, reaches the highest bet or is left without
chips. -/
theorem betting_balances (distinct : (table.players.map Player.address).Nodup)
    (nonneg : ∀ player ∈ table.players, 0 ≤ player.stack) (calls : List (Address × Action)) :
    ∃ last, table.actAll? calls = some last ∧ table.Balances last ∧
      (∀ player ∈ last.players, 0 ≤ player.stack) ∧
      ∀ address action, ∃ after moved, last.act? .exact address action = some (after, moved) ∧
        last.Moves address action after moved := by
  rcases Solvent.exists_actAll? ⟨distinct, nonneg⟩ calls with ⟨last, ends, solvent, balances⟩
  refine ⟨last, ends, balances, solvent.nonneg, ?_⟩
  intro address action
  rcases exists_act? .exact address action solvent.nonneg with ⟨after, moved, acts⟩
  exact ⟨after, moved, acts, solvent.moves acts⟩

/-- Someone without a seat bets, a raise is below a call, and another one beyond the stack. -/
theorem betting_balances_three_seats :
    let table : Table :=
      { opened 7 with
        pot := 75
        players := [{ address := "ann", seat := 0, stack := 100, bet := 0 },
          { address := "bob", seat := 1, stack := 30, bet := 20 },
          { address := "cid", seat := 2, stack := 0, bet := 50, allIn := true }] }
    let calls : List (Address × Action) :=
      [("dan", .bet 5), ("ann", .raise (-10)), ("bob", .raise 40)]
    (table.players.map Player.address).Nodup ∧ (∀ player ∈ table.players, 0 ≤ player.stack) ∧
      ∃ last, table.actAll? calls = some last ∧ table.Balances last ∧
        (∀ player ∈ last.players, 0 ≤ player.stack) ∧
        ∀ address action, ∃ after moved, last.act? .exact address action = some (after, moved) ∧
          last.Moves address action after moved := by
  intro table calls
  have distinct : (table.players.map Player.address).Nodup := by decide
  have nonneg : ∀ player ∈ table.players, 0 ≤ player.stack := by decide
  exact ⟨distinct, nonneg, betting_balances distinct nonneg calls⟩

end Table

end Holdem
