import Mathlib.Data.List.Nodup
import Holdem.Proofs.Table.Merge

/-!
# Accounts at a table

The account of a player is what a poll can say about its chips: the stack and the bet. A poll
carries a snapshot when it tells the pot and every account. Merging such a poll brings exactly these
amounts into any snapshot, and an action that is then applied again takes its stake a second time.
-/

namespace Holdem

/-- The chips of an address. -/
structure Account where
  address : Address
  stack : Chips
  bet : Chips
  deriving DecidableEq

/-- The account of a player. -/
def Player.account (player : Player) : Account where
  address := player.address
  stack := player.stack
  bet := player.bet

/-- The account that an entry of a poll tells, if it tells stack and bet. -/
def PolledPlayer.account? (polled : PolledPlayer) : Option Account :=
  match polled.stack, polled.bet with
  | some stack, some bet => some { address := polled.address, stack, bet }
  | _, _ => none

/-- The accounts at a table, in the order of the seats. -/
def Table.accounts (table : Table) : List Account :=
  table.players.map Player.account

theorem Table.accounts_eq_nil_iff {table : Table} : table.accounts = [] ↔ table.players = [] :=
  List.map_eq_nil_iff

/-- A poll tells the pot and every account of a snapshot, in any order, and no other account. -/
structure Poll.Carries (poll : Poll) (table : Table) : Prop where
  pot : poll.pot = some table.pot
  players : ∃ (entries : List PolledPlayer) (accounts : List Account),
    poll.players = some entries ∧ entries.map PolledPlayer.account? = accounts.map some ∧
      accounts.Perm table.accounts

namespace Reseating

theorem seat_accounts (walk : Reseating) (place : Nat) {polled : PolledPlayer} {account : Account}
    (told : polled.account? = some account) (stack : 0 ≤ account.stack) (bet : 0 ≤ account.bet) :
    (walk.seat place polled).seated.map Player.account =
      account :: walk.seated.map Player.account := by
  have updated : ∀ player : Player, player.address = polled.address →
      (polled.update player).account = account := by
    intro player same
    simp only [PolledPlayer.account?] at told
    split at told
    · rename_i toldStack toldBet stackEq betEq
      rw [Option.some.injEq] at told
      subst told
      simp only [Player.account, PolledPlayer.update, same, stackEq, betEq, usableAmount,
        Option.filter_some, stack, bet, decide_true, ↓reduceIte, Option.getD_some]
    · exact absurd told (by simp)
  simp only [seat]
  split
  · rename_i index found
    rcases List.findIdx?_eq_some_iff_getElem.mp found with ⟨inRange, here, _⟩
    have same := of_decide_eq_true here
    simp only [List.getElem?_eq_getElem inRange, Option.map_some, Option.toList_some,
      List.cons_append, List.nil_append, List.map_cons, updated _ same]
  · simp only [List.map_cons, updated (polled.newcomer place) rfl]

theorem seatAll_accounts {accounts : List Account} {polled : List PolledPlayer}
    (told : polled.map PolledPlayer.account? = accounts.map some)
    (nonneg : ∀ account ∈ accounts, 0 ≤ account.stack ∧ 0 ≤ account.bet) (walk : Reseating)
    (place : Nat) :
    (walk.seatAll place polled).seated.map Player.account =
      accounts.reverse ++ walk.seated.map Player.account := by
  induction polled generalizing accounts walk place with
  | nil =>
    rw [List.map_nil, eq_comm, List.map_eq_nil_iff] at told
    subst told
    rfl
  | cons entry rest hypothesis =>
    rcases accounts with _ | ⟨account, accounts⟩
    · exact absurd told (by simp)
    simp only [List.map_cons, List.cons.injEq] at told
    rcases nonneg account List.mem_cons_self with ⟨stack, bet⟩
    have others := hypothesis told.2
      (fun other member => nonneg other (List.mem_cons_of_mem account member))
      (walk.seat place entry) (place + 1)
    simp only [seatAll]
    rw [others, seat_accounts walk place told.1 stack bet]
    simp

end Reseating

/-- An amount that is positive where there is one is nowhere a debt. -/
theorem Action.amount_nonneg {action : Action}
    (positive : ∀ amount, action.amount? = some amount → 0 < amount) :
    0 ≤ action.amount?.getD 0 := by
  rcases named : action.amount? with _ | amount
  · exact Int.le_refl 0
  · exact Int.le_of_lt (positive amount named)

namespace Table

/-- Polled players that tell their accounts leave exactly these accounts at the table. -/
theorem mergePlayers_accounts (table : Table) {entries : List PolledPlayer}
    {accounts : List Account} (told : entries.map PolledPlayer.account? = accounts.map some)
    (nonneg : ∀ account ∈ accounts, 0 ≤ account.stack ∧ 0 ≤ account.bet)
    (seated : accounts ≠ []) :
    (table.mergePlayers (some entries)).1.accounts.Perm accounts := by
  rcases entries with _ | ⟨first, rest⟩
  · rw [List.map_nil, eq_comm, List.map_eq_nil_iff] at told
    exact absurd told seated
  · have walked := Reseating.seatAll_accounts told nonneg { waiting := table.players } 0
    rw [List.map_nil, List.append_nil] at walked
    have sorted := (List.mergeSort_perm
      (Reseating.seatAll { waiting := table.players } 0 (first :: rest)).seated.reverse
      fun first second => first.seat ≤ second.seat).map Player.account
    rw [List.map_reverse, walked, List.reverse_reverse] at sorted
    exact sorted

/-- Outside a solo session pot and players after a merge are those that the poll leads to. -/
theorem merge_chips {mode : PlayMode} (notSolo : mode.isSolo = false) (table : Table)
    (poll : Poll) :
    ∃ dealt : Table, (table.merge mode poll).1.pot = (dealt.mergeChips poll).1.pot ∧
      (table.merge mode poll).1.players = (dealt.mergeChips poll).1.players := by
  rw [merge_eq]
  extract_lets frozen phased counted dealt seated boarded
  have seatedEq : seated = (dealt.mergeChips poll).1 := by
    simp only [seated, notSolo, Bool.false_eq_true, ↓reduceIte]
  have boardedEq : boarded.pot = seated.pot ∧ boarded.players = seated.players := by
    rcases mergeBoard_cases seated (if frozen then none else poll.board) with
      same | ⟨cards, _, new⟩
    · simp only [boarded, same, and_self]
    · simp only [boarded, new, and_self]
  rw [seatedEq] at boardedEq
  exact ⟨dealt, boardedEq⟩

/-- Merging a poll that carries a snapshot brings the snapshot's pot and accounts, whatever the
table was before. -/
theorem merge_carried {mode : PlayMode} (notSolo : mode.isSolo = false) {shown : Table}
    (table : Table) {poll : Poll} (carries : poll.Carries shown) (seated : shown.players ≠ [])
    (pot : 0 ≤ shown.pot)
    (nonneg : ∀ player ∈ shown.players, 0 ≤ player.stack ∧ 0 ≤ player.bet) :
    (table.merge mode poll).1.pot = shown.pot ∧
      (table.merge mode poll).1.accounts.Perm shown.accounts := by
  rcases merge_chips notSolo table poll with ⟨dealt, potEq, playersEq⟩
  rcases carries.players with ⟨entries, accounts, polled, told, same⟩
  have polledNonneg : ∀ account ∈ accounts, 0 ≤ account.stack ∧ 0 ≤ account.bet := by
    intro account member
    rcases List.mem_map.mp (same.mem_iff.mp member) with ⟨player, playerMember, rfl⟩
    exact nonneg player playerMember
  have polledSeated : accounts ≠ [] := by
    intro none
    rw [none, List.nil_perm, accounts_eq_nil_iff] at same
    exact seated same
  let offered : Table :=
    { dealt with
      pot := (usableAmount poll.pot).getD dealt.pot
      currentTurn := poll.currentTurn.getD dealt.currentTurn }
  have chips : (dealt.mergeChips poll).1 = (offered.mergePlayers (some entries)).1 := by
    rw [← polled]
    rfl
  rw [chips] at potEq playersEq
  refine ⟨?_, ?_⟩
  · rcases mergePlayers_frame offered (some entries) with ⟨players, eq⟩
    rw [potEq, eq]
    simp only [offered, carries.pot, usableAmount, Option.filter_some, pot, decide_true, ↓reduceIte,
      Option.getD_some]
  · have merged := mergePlayers_accounts offered told polledNonneg polledSeated
    change ((table.merge mode poll).1.players.map Player.account).Perm shown.accounts
    rw [playersEq]
    exact merged.trans same

/-! ## Acting again -/

variable {arithmetic : Arithmetic}

theorem bet_le_highestBet {table : Table} {player : Player} (member : player ∈ table.players) :
    player.bet ≤ table.highestBet := by
  have folded : ∀ (players : List Player) (start : Chips),
      start ≤ players.foldl (fun highest player => max highest player.bet) start ∧
        ∀ player ∈ players,
          player.bet ≤ players.foldl (fun highest player => max highest player.bet) start := by
    intro players
    induction players with
    | nil => exact fun start => ⟨Int.le_refl start, fun _ none => absurd none List.not_mem_nil⟩
    | cons first rest hypothesis =>
      intro start
      rcases hypothesis (max start first.bet) with ⟨startLe, restLe⟩
      rw [List.foldl_cons]
      refine ⟨by lia, ?_⟩
      intro player member
      rcases List.mem_cons.mp member with rfl | later
      · lia
      · exact restLe player later
  simp only [highestBet]
  split
  · rename_i none
    rw [none] at member
    exact absurd member List.not_mem_nil
  · rename_i first rest players
    rw [players] at member
    rcases folded rest first.bet with ⟨startLe, restLe⟩
    rcases List.mem_cons.mp member with rfl | later
    · exact startLe
    · exact restLe player later

theorem highestBet_le {table : Table} {bound : Chips} (seated : table.players ≠ [])
    (bounded : ∀ player ∈ table.players, player.bet ≤ bound) : table.highestBet ≤ bound := by
  have folded : ∀ (players : List Player) (start : Chips), start ≤ bound →
      (∀ player ∈ players, player.bet ≤ bound) →
        players.foldl (fun highest player => max highest player.bet) start ≤ bound := by
    intro players
    induction players with
    | nil => exact fun _ startLe _ => startLe
    | cons first rest hypothesis =>
      intro start startLe bounded
      have firstLe := bounded first List.mem_cons_self
      rw [List.foldl_cons]
      apply hypothesis
      · lia
      · intro player member
        exact bounded player (List.mem_cons_of_mem first member)
  simp only [highestBet]
  split
  · rename_i none
    exact absurd none seated
  · rename_i first rest players
    rw [players] at bounded
    apply folded rest first.bet (bounded first List.mem_cons_self)
    intro player member
    exact bounded player (List.mem_cons_of_mem first member)

theorem player?_of_mem {table : Table} {player : Player}
    (distinct : (table.players.map Player.address).Nodup) (member : player ∈ table.players) :
    table.player? player.address = some player := by
  obtain ⟨found, search⟩ : ∃ found, table.player? player.address = some found := by
    apply isSeated_iff.mp
    exact List.find?_isSome.mpr ⟨player, member, by simp⟩
  rw [search, List.inj_on_of_nodup_map distinct (mem_of_player? search) member
    (address_of_player? search)]

theorem addresses_of_accounts (table : Table) :
    table.accounts.map Account.address = table.players.map Player.address := by
  simp only [accounts]
  rw [List.map_map]
  rfl

/-- Where addresses are distinct the accounts decide what the player of an address has. -/
theorem exists_player?_of_accounts {shown other : Table} {address : Address} {player : Player}
    (distinct : (shown.players.map Player.address).Nodup)
    (same : other.accounts.Perm shown.accounts) (found : shown.player? address = some player) :
    ∃ again, other.player? address = some again ∧ again.account = player.account := by
  have told : player.account ∈ shown.accounts := List.mem_map_of_mem (mem_of_player? found)
  rcases List.mem_map.mp (same.mem_iff.mpr told) with ⟨again, member, account⟩
  have addressEq : again.address = address :=
    (congrArg Account.address account).trans (address_of_player? found)
  have otherDistinct : (other.players.map Player.address).Nodup := by
    rw [← addresses_of_accounts] at distinct ⊢
    exact (same.map Account.address).nodup_iff.mpr distinct
  have foundAgain := player?_of_mem otherDistinct member
  rw [addressEq] at foundAgain
  exact ⟨again, foundAgain, account⟩

theorem player?_updatePlayer {table : Table} {address : Address} {change : Player → Player}
    {player : Player} (keeps : ∀ player : Player, player.address = address →
      (change player).address = address)
    (seated : table.player? address = some player) :
    (table.updatePlayer address change).player? address = some (change player) := by
  apply find?_updateFirst _ seated
  intro other wanted
  exact decide_eq_true (keeps other (of_decide_eq_true wanted))

/-- What an action leaves the actor with, where the bet has room for it; everyone keeps their
address. -/
theorem act?_actor {table after : Table} {address : Address} {action : Action} {player : Player}
    {moved : Chips} (acts : table.act? arithmetic address action = some (after, moved))
    (seated : table.player? address = some player)
    (fits : arithmetic.Fits (player.bet + moved)) :
    after.players.map Player.address = table.players.map Player.address ∧
      ∃ left, after.player? address = some left ∧ left.stack = player.stack - moved ∧
        left.bet = player.bet + moved := by
  rcases act?_cases acts with
    ⟨unknown, _⟩ | ⟨actor, found, ⟨_, rfl, rfl⟩ | ⟨_, rfl, rfl⟩ |
      ⟨stake, committed, _, commits, rfl⟩⟩
  · rw [seated] at unknown
    exact absurd unknown (by simp)
  · have keeps : ∀ player : Player, player.address = address →
        { player with folded := true }.address = address := fun _ same => same
    refine ⟨map_updateFirst seated rfl, _, player?_updatePlayer keeps seated, ?_, ?_⟩
    · exact (Int.sub_zero player.stack).symm
    · exact (Int.add_zero player.bet).symm
  · refine ⟨rfl, player, seated, ?_, ?_⟩
    · exact (Int.sub_zero player.stack).symm
    · exact (Int.add_zero player.bet).symm
  · rw [seated, Option.some.injEq] at found
    subst found
    rcases Player.commit?_eq_some commits with ⟨_, _, stack, bet, addressEq, _⟩
    have keeps : ∀ other : Player, other.address = address → committed.address = address :=
      fun _ _ => addressEq.trans (address_of_player? seated)
    exact ⟨map_updateFirst seated addressEq, committed, player?_updatePlayer keeps seated, stack,
      bet.trans fits⟩

/-- The chips that an action moves: none, or what is staked as far as the stack goes. -/
theorem act?_moved {table after : Table} {address : Address} {action : Action} {player : Player}
    {moved : Chips} (acts : table.act? arithmetic address action = some (after, moved))
    (seated : table.player? address = some player) :
    match action.stake? arithmetic (table.toCall arithmetic player) player.stack with
    | none => moved = 0
    | some stake => 0 ≤ player.stack ∧ moved = max 0 (min stake player.stack) := by
  rcases act?_cases acts with
    ⟨unknown, _⟩ | ⟨actor, found, ⟨rfl, rfl, _⟩ | ⟨rfl, rfl, _⟩ |
      ⟨stake, committed, staked, commits, _⟩⟩
  · rw [seated] at unknown
    exact absurd unknown (by simp)
  · rfl
  · rfl
  · rw [seated, Option.some.injEq] at found
    subst found
    rw [staked]
    rcases Player.commit?_eq_some commits with ⟨solvent, movedEq, _⟩
    exact ⟨solvent, movedEq⟩

/-- Nobody bets more than the stack. -/
theorem moved_le_stack {table after : Table} {address : Address} {action : Action}
    {player : Player} {moved : Chips}
    (acts : table.act? arithmetic address action = some (after, moved))
    (seated : table.player? address = some player) (solvent : 0 ≤ player.stack) :
    moved ≤ player.stack := by
  have staked := act?_moved acts seated
  split at staked
  · lia
  · lia

theorem act?_accounts {table after : Table} {address : Address} {action : Action}
    (acts : table.act? .exact address action = some (after, 0)) :
    after.accounts = table.accounts := by
  rcases act?_cases acts with
    ⟨_, rfl, _⟩ | ⟨actor, seated, ⟨_, _, rfl⟩ | ⟨_, _, rfl⟩ | ⟨stake, committed, _, commits, rfl⟩⟩
  · rfl
  · exact map_updateFirst seated rfl
  · rfl
  · rcases Player.commit?_eq_some commits with ⟨_, _, stack, bet, addressEq, _⟩
    apply map_updateFirst seated
    simp only [Player.account, Account.mk.injEq]
    exact ⟨addressEq, stack.trans (Int.sub_zero actor.stack), bet.trans (Int.add_zero actor.bet)⟩

/-- After an action no bet is above the highest before and the one that the actor has now. -/
theorem act?_bets {table after : Table} {address : Address} {action : Action} {player : Player}
    {moved : Chips} (acts : table.act? arithmetic address action = some (after, moved))
    (seated : table.player? address = some player)
    (fits : arithmetic.Fits (player.bet + moved)) :
    ∀ other ∈ after.players, other.bet ≤ max table.highestBet (player.bet + moved) := by
  intro other member
  rcases act?_cases acts with
    ⟨_, rfl, _⟩ | ⟨actor, found, ⟨_, _, rfl⟩ | ⟨_, _, rfl⟩ | ⟨stake, committed, _, commits, rfl⟩⟩
  · have le := bet_le_highestBet member
    lia
  · rcases mem_updatePlayer member with old | ⟨old, oldMember, _, rfl⟩
    · have le := bet_le_highestBet old
      lia
    · have le := bet_le_highestBet oldMember
      dsimp only
      lia
  · have le := bet_le_highestBet member
    lia
  · rw [seated, Option.some.injEq] at found
    subst found
    rcases Player.commit?_eq_some commits with ⟨_, _, _, bet, _⟩
    rcases mem_updatePlayer member with old | ⟨_, _, _, rfl⟩
    · have le := bet_le_highestBet old
      lia
    · rw [show _ = player.bet + moved from bet.trans fits]
      lia

/-- Every player at a table that shows the accounts of another has the account of a player there. -/
theorem exists_holder_of_shown {table shown : Table} (same : shown.accounts.Perm table.accounts)
    {player : Player} (member : player ∈ shown.players) :
    ∃ holder ∈ table.players, holder.stack = player.stack ∧ holder.bet = player.bet := by
  have account : player.account ∈ shown.accounts := List.mem_map_of_mem member
  rcases List.mem_map.mp (same.mem_iff.mp account) with ⟨holder, holderMember, sameAccount⟩
  exact ⟨holder, holderMember, congrArg Account.stack sameAccount,
    congrArg Account.bet sameAccount⟩

theorem highestBet_of_shown {table shown : Table} (seated : table.players ≠ [])
    (same : shown.accounts.Perm table.accounts) : shown.highestBet ≤ table.highestBet := by
  apply highestBet_le
  · intro none
    rw [← accounts_eq_nil_iff] at none
    rw [none, List.nil_perm, accounts_eq_nil_iff] at same
    exact seated same
  · intro player member
    rcases exists_holder_of_shown same member with ⟨holder, holderMember, _, bet⟩
    rw [← bet]
    exact bet_le_highestBet holderMember

/-- The chips that an action moves when it is applied to a snapshot that shows it already: a bet and
a raise ask for their amount again, and the rest has nothing left to ask for. -/
theorem moved_again {table after shown again : Table} {address : Address} {action : Action}
    {player : Player} {moved extra : Chips}
    (seated : table.player? address = some player)
    (acts : table.act? .exact address action = some (after, moved))
    (positive : ∀ amount, action.amount? = some amount → 0 < amount)
    (distinct : (table.players.map Player.address).Nodup)
    (same : shown.accounts.Perm after.accounts)
    (repeats : shown.act? .exact address action = some (again, extra)) :
    extra = (action.amount?.map fun amount => min amount (player.stack - moved)).getD 0 := by
  have fits := Arithmetic.fits_exact (player.bet + moved)
  rcases act?_actor acts seated fits with ⟨addresses, left, found, leftStack, leftBet⟩
  rw [← addresses] at distinct
  rcases exists_player?_of_accounts distinct same found with ⟨other, foundAgain, account⟩
  have stack : other.stack = player.stack - moved :=
    (congrArg Account.stack account).trans leftStack
  have bet : other.bet = player.bet + moved := (congrArg Account.bet account).trans leftBet
  have someone := List.ne_nil_of_mem (mem_of_player? found)
  have shownHighest := highestBet_of_shown someone same
  have highest := highestBet_le someone (act?_bets acts seated fits)
  have movedFirst := act?_moved acts seated
  have movedThen := act?_moved repeats foundAgain
  cases action with
  | fold => exact movedThen
  | check => exact movedThen
  | call =>
    simp only [Action.stake?, toCall, Arithmetic.wrap_exact] at movedFirst movedThen
    simp only [Action.amount?, Option.map_none, Option.getD_none]
    lia
  | bet amount =>
    have amountPos := positive amount rfl
    simp only [Action.stake?] at movedFirst movedThen
    simp only [Action.amount?, Option.map_some, Option.getD_some]
    lia
  | raise amount =>
    have amountPos := positive amount rfl
    simp only [Action.stake?, toCall, Arithmetic.wrap_exact] at movedFirst movedThen
    simp only [Action.amount?, Option.map_some, Option.getD_some]
    lia
  | allIn =>
    simp only [Action.stake?] at movedFirst movedThen
    simp only [Action.amount?, Option.map_none, Option.getD_none]
    lia

/-! ## Room for an action -/

/-- There is room for whatever an action can add up: the pot with a stack, a bet with the stack
behind it, and an amount on top of the highest bet. -/
structure Ample (arithmetic : Arithmetic) (action : Action) (table : Table) : Prop where
  pot : ∀ player ∈ table.players, arithmetic.Covers (table.pot + player.stack)
  bet : ∀ player ∈ table.players, arithmetic.Covers (player.bet + player.stack)
  stake : arithmetic.Covers (table.highestBet + action.amount?.getD 0)

/-- Where there is room an action does what it does with exact sums. -/
theorem Ample.act?_eq {table : Table} {action : Action} (ample : table.Ample arithmetic action)
    (pot : 0 ≤ table.pot) (nonneg : ∀ player ∈ table.players, 0 ≤ player.stack ∧ 0 ≤ player.bet)
    (positive : ∀ amount, action.amount? = some amount → 0 < amount) (address : Address) :
    table.act? arithmetic address action = table.act? .exact address action := by
  simp only [act?]
  rcases seated : table.player? address with _ | player
  · rfl
  have member := mem_of_player? seated
  have own := nonneg player member
  have highest := bet_le_highestBet member
  have stake := ample.stake
  have owes : table.toCall arithmetic player = table.toCall .exact player := by
    have fits : arithmetic.wrap (table.highestBet - player.bet) =
        table.highestBet - player.bet := by
      have amount := Action.amount_nonneg positive
      exact stake _ (by lia) (by lia)
    simp only [toCall, fits, Arithmetic.wrap_exact]
  have staked : action.stake? arithmetic (table.toCall arithmetic player) player.stack =
      action.stake? .exact (table.toCall .exact player) player.stack := by
    rw [owes]
    cases action with
    | fold | check | call | bet | allIn => rfl
    | raise amount =>
      have amountPos := positive amount rfl
      have fits : arithmetic.wrap (table.toCall .exact player + amount) =
          table.toCall .exact player + amount := by
        simp only [toCall, Arithmetic.wrap_exact]
        exact stake _ (by lia) (by dsimp only [Action.amount?, Option.getD_some]; lia)
      simp only [Action.stake?, fits, Arithmetic.wrap_exact]
  have commits : ∀ amount, player.commit? arithmetic amount = player.commit? .exact amount := by
    intro amount
    have fits : arithmetic.wrap (player.bet + max 0 (min amount player.stack)) =
        player.bet + max 0 (min amount player.stack) :=
      ample.bet player member _ (by lia) (by lia)
    simp only [Player.commit?, fits, Arithmetic.wrap_exact]
  dsimp only
  rw [staked]
  rcases action.stake? .exact (table.toCall .exact player) player.stack with _ | amount
  · rfl
  dsimp only
  rw [commits]
  rcases committed : player.commit? .exact amount with _ | ⟨after, moved⟩
  · rfl
  rcases Player.commit?_eq_some committed with ⟨_, movedEq, _⟩
  have fits : arithmetic.wrap (table.pot + moved) = table.pot + moved :=
    ample.pot player member _ (by lia) (by lia)
  simp only [Option.map_some, fits, Arithmetic.wrap_exact]

theorem highestBet_le_roundBets {table : Table} (seated : table.players ≠ [])
    (nonneg : ∀ player ∈ table.players, 0 ≤ player.bet) : table.highestBet ≤ table.roundBets :=
  highestBet_le seated fun _ member => Player.le_total nonneg member

theorem nonneg_of_shown {table shown : Table} (same : shown.accounts.Perm table.accounts)
    (nonneg : ∀ player ∈ table.players, 0 ≤ player.stack ∧ 0 ≤ player.bet) :
    ∀ player ∈ shown.players, 0 ≤ player.stack ∧ 0 ≤ player.bet := by
  intro player member
  rcases exists_holder_of_shown same member with ⟨holder, holderMember, stack, bet⟩
  rw [← stack, ← bet]
  exact nonneg holder holderMember

/-- The room at a table is enough wherever its pot and accounts are shown. -/
theorem ample_of_shown {table shown : Table} {action : Action} {bound : Int}
    (same : shown.accounts.Perm table.accounts) (pot : shown.pot = table.pot)
    (seated : table.players ≠ [])
    (nonneg : ∀ player ∈ table.players, 0 ≤ player.stack ∧ 0 ≤ player.bet)
    (room : arithmetic.Covers bound) (chips : table.chips ≤ bound)
    (bets : table.roundBets + (table.chips - table.pot) ≤ bound)
    (stake : table.highestBet + action.amount?.getD 0 ≤ bound) : shown.Ample arithmetic action := by
  have stackTotal := table.chips_eq
  have parts : ∀ holder ∈ table.players,
      holder.stack ≤ Player.total Player.stack table.players ∧ holder.bet ≤ table.roundBets :=
    fun holder member => ⟨Player.le_total (fun player listed => (nonneg player listed).1) member,
      Player.le_total (fun player listed => (nonneg player listed).2) member⟩
  have highest := highestBet_of_shown seated same
  refine ⟨fun player member => ?_, fun player member => ?_, room.mono (by lia)⟩
  · rcases exists_holder_of_shown same member with ⟨holder, holderMember, stack, _⟩
    have part := parts holder holderMember
    exact room.mono (by lia)
  · rcases exists_holder_of_shown same member with ⟨holder, holderMember, stack, bet⟩
    have part := parts holder holderMember
    exact room.mono (by lia)

section Room

variable {table after shown : Table} {action : Action}

/-- An action has room where all chips, all bets and its amount together do. -/
theorem ample_of_covers (seated : table.players ≠ []) (pot : 0 ≤ table.pot)
    (nonneg : ∀ player ∈ table.players, 0 ≤ player.stack ∧ 0 ≤ player.bet)
    (positive : ∀ amount, action.amount? = some amount → 0 < amount)
    (room : arithmetic.Covers (table.chips + table.roundBets + action.amount?.getD 0)) :
    table.Ample arithmetic action := by
  have stackTotal := Player.total_nonneg fun player member => (nonneg player member).1
  have bets := Player.total_nonneg fun player member => (nonneg player member).2
  have highest := highestBet_le_roundBets seated fun player member => (nonneg player member).2
  have amount := Action.amount_nonneg positive
  have chips := table.chips_eq
  rw [← roundBets_eq] at bets
  exact ample_of_shown (.refl _) rfl seated nonneg room (by lia) (by lia) (by lia)

/-- And it has room once more where a snapshot shows what it led to: what went into the pot has left
a stack. -/
theorem ample_again {address : Address} {player : Player} {moved : Chips}
    (seated : table.player? address = some player) (pot : 0 ≤ table.pot)
    (nonneg : ∀ player ∈ table.players, 0 ≤ player.stack ∧ 0 ≤ player.bet)
    (positive : ∀ amount, action.amount? = some amount → 0 < amount)
    (room : arithmetic.Covers (table.chips + table.roundBets + action.amount?.getD 0))
    (acts : table.act? .exact address action = some (after, moved))
    (nonnegAfter : ∀ player ∈ after.players, 0 ≤ player.stack ∧ 0 ≤ player.bet)
    (same : shown.accounts.Perm after.accounts) (shownPot : shown.pot = after.pot) :
    shown.Ample arithmetic action := by
  have fits := Arithmetic.fits_exact (player.bet + moved)
  have member := mem_of_player? seated
  have stack := Player.le_total (fun other listed => (nonneg other listed).1) member
  have bet := Player.le_total (fun other listed => (nonneg other listed).2) member
  have own := nonneg player member
  have within := moved_le_stack acts seated own.1
  have highest := highestBet_le_roundBets (List.ne_nil_of_mem member) fun other listed =>
    (nonneg other listed).2
  have amount := Action.amount_nonneg positive
  have chips := table.chips_eq
  rcases act?_balance acts (Arithmetic.fits_exact _) (fun _ _ => Arithmetic.fits_exact _) with
    ⟨potEq, chipsEq, betsEq⟩
  rcases act?_actor acts seated fits with ⟨_, left, found, _⟩
  have seatedAfter := List.ne_nil_of_mem (mem_of_player? found)
  have highestAfter : after.highestBet ≤ max table.highestBet (player.bet + moved) :=
    highestBet_le seatedAfter (act?_bets acts seated fits)
  rw [← roundBets_eq] at bet
  exact ample_of_shown same shownPot seatedAfter nonnegAfter room (by lia) (by lia) (by lia)

end Room

end Table

end Holdem
