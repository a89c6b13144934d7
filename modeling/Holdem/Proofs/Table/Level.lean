import Mathlib.Data.List.Forall2
import Holdem.Opponent
import Holdem.Proofs.Table.Account
import Holdem.Proofs.Table.Merge
import Holdem.Proofs.Table.Reseating

/-!
# Level solo tables

At a solo table the hero plays against one simulated opponent, who only folds, checks or calls. What
keeps every betting round closed between the hero's bets is that the hero's bet is the highest and
the opponent's is level with it, or the opponent is all-in, and that an opponent without chips is
all-in. A capped call, a refilled stack and a street after an all-in all leave it so, and polls do
not touch the chips of a solo table.

While the opponent has not replied yet the bets can differ. `Solo` is what holds then as well,
`Level` what holds whenever the reply is not being waited for, and `Facing` is the table that the
opponent replies to.

No bet is ever wrapped: bet and stack of a player are together no more than the stack that the hand
began with. The pot can be, and then it leaves its winner with any stack at all. `Finished` is a
table after such a hand. It stays settled, because polls do not move a settled solo hand on, and the
next hand is level again, because whoever has no chips gets a new stack.
-/

namespace Holdem

/-! ## Seats -/

theorem forall₂_updateFirst {related : α → α → Prop} (refl : ∀ element, related element element)
    {wanted : α → Bool} {change : α → α} {elements : List α}
    (changes : ∀ element, elements.find? wanted = some element → related element (change element)) :
    List.Forall₂ related elements (updateFirst wanted change elements) := by
  induction elements with
  | nil => exact .nil
  | cons first rest hypothesis =>
    simp only [updateFirst]
    by_cases here : wanted first
    · rw [if_pos here]
      have unchanged := List.forall₂_same.mpr fun element (_ : element ∈ rest) => refl element
      exact .cons (changes first (List.find?_cons_of_pos here)) unchanged
    · rw [if_neg here]
      refine .cons (refl first) (hypothesis ?_)
      intro element found
      exact changes element ((List.find?_cons_of_neg here).trans found)

theorem exists_of_forall₂ {related : α → β → Prop} {olds : List α} {news : List β}
    (all : List.Forall₂ related olds news) {new : β} (member : new ∈ news) :
    ∃ old ∈ olds, related old new := by
  induction all with
  | nil => exact absurd member List.not_mem_nil
  | @cons old _ olds _ here _ hypothesis =>
    rcases List.mem_cons.mp member with rfl | later
    · exact ⟨old, List.mem_cons_self, here⟩
    · rcases hypothesis later with ⟨other, otherMember, there⟩
      exact ⟨other, List.mem_cons_of_mem old otherMember, there⟩

theorem map_eq_of_forall₂ {related : α → α → Prop} {image : α → β} {olds news : List α}
    (all : List.Forall₂ related olds news)
    (kept : ∀ old new, related old new → image new = image old) :
    news.map image = olds.map image := by
  induction all with
  | nil => rfl
  | cons here _ hypothesis => rw [List.map_cons, List.map_cons, kept _ _ here, hypothesis]

namespace Player

variable {arithmetic : Arithmetic} {player after : Player} {amount moved : Chips}

/-- A player who can go on with a hand: not in debt, with room for a bet of the whole stack, and
all-in without chips. -/
structure Staked (arithmetic : Arithmetic) (player : Player) : Prop where
  solvent : 0 ≤ player.stack
  bet : 0 ≤ player.bet
  room : arithmetic.Covers (player.bet + player.stack)
  spent : player.stack ≤ 0 → player.allIn

theorem Staked.fits_bet (staked : player.Staked arithmetic) (nonneg : 0 ≤ moved)
    (within : moved ≤ player.stack) : arithmetic.Fits (player.bet + moved) := by
  have bet := staked.bet
  exact staked.room _ (by lia) (by lia)

theorem Staked.covers_stack (staked : player.Staked arithmetic) :
    arithmetic.Covers player.stack := by
  have bet := staked.bet
  exact staked.room.mono (by lia)

/-- What every change of a player within a hand leaves: the address, and that the player can go on
with the hand. -/
structure Stays (arithmetic : Arithmetic) (before after : Player) : Prop where
  address : after.address = before.address
  staked : before.Staked arithmetic → after.Staked arithmetic

theorem Stays.refl (player : Player) : Stays arithmetic player player := ⟨rfl, id⟩

/-- The chips and the all-in mark are all there is to that. -/
theorem stays_of_same (address : after.address = player.address)
    (stack : after.stack = player.stack) (bet : after.bet = player.bet)
    (allIn : after.allIn = player.allIn) : Stays arithmetic player after := by
  refine ⟨address, ?_⟩
  rintro ⟨solvent, nonneg, room, spent⟩
  rw [← stack] at solvent spent
  rw [← bet] at nonneg
  rw [← bet, ← stack] at room
  rw [← allIn] at spent
  exact ⟨solvent, nonneg, room, spent⟩

theorem allIn_of_commit? (committed : player.commit? arithmetic amount = some (after, moved)) :
    after.allIn = (player.allIn || (after.stack = 0 && 0 < moved)) := by
  simp only [commit?] at committed
  split at committed
  · exact absurd committed (by simp)
  · simp only [Option.some.injEq, Prod.mk.injEq] at committed
    rcases committed with ⟨rfl, rfl⟩
    rfl

/-- Whoever puts in the last chips is all-in, and what leaves the stack goes to the bet. -/
theorem stays_commit? (committed : player.commit? arithmetic amount = some (after, moved)) :
    Stays arithmetic player after := by
  rcases commit?_eq_some committed with ⟨solvent, movedEq, stack, bet, address, _⟩
  refine ⟨address, ?_⟩
  intro staked
  have nonneg := staked.bet
  have added : after.bet = player.bet + moved :=
    bet.trans (staked.fits_bet (by lia) (by lia))
  have together : after.bet + after.stack = player.bet + player.stack := by lia
  refine ⟨by lia, by lia, by rw [together]; exact staked.room, ?_⟩
  intro broke
  rw [allIn_of_commit? committed]
  by_cases idle : moved = 0
  · simp [staked.spent (by lia)]
  · have last : after.stack = 0 := by lia
    have some : 0 < moved := by lia
    simp [last, some]

end Player

/-- The seats of a solo table: nobody but the hero, or the hero and then an opponent. The hero has
several seats only where the simulated opponent bears the hero's name. -/
inductive Faced (hero : Address) : List Address → Prop
  | alone {addresses : List Address} (own : ∀ address ∈ addresses, address = hero)
    (names : addresses = [] ∨ hero = simulatedOpponent) : Faced hero addresses
  | against {opponent : Address} (apart : opponent ≠ hero) : Faced hero [hero, opponent]

namespace Table

variable {arithmetic : Arithmetic} {hero : Address} {table after : Table}

/-- A solo table, whether or not a reply is being waited for. -/
structure Solo (arithmetic : Arithmetic) (hero : Address) (table : Table) : Prop where
  /-- A pot that was wrapped can be anything. -/
  pot : arithmetic = .exact → 0 ≤ table.pot
  staked : ∀ player ∈ table.players, player.Staked arithmetic
  faced : Faced hero (table.players.map Player.address)

theorem Solo.solvent (solo : table.Solo arithmetic hero) :
    ∀ player ∈ table.players, 0 ≤ player.stack :=
  fun player member => (solo.staked player member).solvent

theorem Solo.stays (solo : table.Solo arithmetic hero) (pot : arithmetic = .exact → 0 ≤ after.pot)
    (stays : List.Forall₂ (Player.Stays arithmetic) table.players after.players) :
    after.Solo arithmetic hero where
  pot := pot
  staked player member := by
    rcases exists_of_forall₂ stays member with ⟨old, oldMember, same⟩
    exact same.staked (solo.staked old oldMember)
  faced := by
    rw [map_eq_of_forall₂ stays fun _ _ same => same.address]
    exact solo.faced

theorem Solo.updatePlayer (solo : table.Solo arithmetic hero) {address : Address}
    {change : Player → Player} {pot : Chips} (nonneg : arithmetic = .exact → 0 ≤ pot)
    (stays : ∀ player, table.player? address = some player →
      player.Stays arithmetic (change player)) :
    Solo arithmetic hero { table.updatePlayer address change with pot } :=
  solo.stays nonneg (forall₂_updateFirst Player.Stays.refl stays)

theorem Solo.act? (solo : table.Solo arithmetic hero) {address : Address} {action : Action}
    {moved : Chips} (acts : table.act? arithmetic address action = some (after, moved)) :
    after.Solo arithmetic hero := by
  have pot : arithmetic = .exact → 0 ≤ after.pot := by
    rintro rfl
    rcases act?_wrapped acts with ⟨nonneg, _, added, _⟩
    simp only [Arithmetic.wrap_exact] at added
    have before := solo.pot rfl
    lia
  rcases act?_cases acts with
    ⟨_, rfl, _⟩ | ⟨player, seated, ⟨_, _, rfl⟩ | ⟨_, _, rfl⟩ | ⟨stake, committed, _, commits, rfl⟩⟩
  · exact solo
  · exact solo.updatePlayer pot fun _ _ => Player.stays_of_same rfl rfl rfl rfl
  · exact solo
  · apply solo.updatePlayer pot
    intro other found
    rw [seated, Option.some.injEq] at found
    subst found
    exact Player.stays_commit? commits

theorem Solo.of_same (solo : table.Solo arithmetic hero) (players : after.players = table.players)
    (pot : after.pot = table.pot) : after.Solo arithmetic hero := by
  refine solo.stays ?_ ?_
  · rw [pot]
    exact solo.pot
  · rw [players]
    exact List.forall₂_same.mpr fun player _ => .refl player

/-! ## Level bets -/

/-- A solo table at which no reply is being waited for: the hero's bet is the highest, and the
opponent's is as high unless the opponent is all-in. -/
structure Level (arithmetic : Arithmetic) (hero : Address) (table : Table) : Prop extends
    table.Solo arithmetic hero where
  bets : ∀ player ∈ table.players,
    player.bet = table.highestBet ∨ (player.address ≠ hero ∧ player.allIn)

theorem Level.isRoundClosed (level : table.Level arithmetic hero) : table.isRoundClosed := by
  simp only [Table.isRoundClosed, List.all_eq_true, livePlayers, List.mem_filter, Bool.or_eq_true,
    decide_eq_true_eq]
  rintro player ⟨member, _⟩
  rcases level.bets player member with highest | ⟨_, allIn⟩
  · exact .inr highest
  · exact .inl allIn

theorem highestBet_congr (same : after.players.map Player.bet = table.players.map Player.bet) :
    after.highestBet = table.highestBet := by
  have folded : ∀ seen : Table, seen.highestBet =
      match seen.players.map Player.bet with
      | [] => 0
      | first :: rest => rest.foldl max first := by
    intro seen
    simp only [highestBet]
    cases seen.players with
    | nil => rfl
    | cons first rest => simp only [List.map_cons, List.foldl_map]
  rw [folded, folded, same]

/-- Where nobody has bet, everyone's bet is the highest. -/
theorem highestBet_of_no_bets (none : ∀ player ∈ table.players, player.bet = 0) :
    ∀ player ∈ table.players, player.bet = table.highestBet := by
  intro player member
  have upper : table.highestBet ≤ 0 := by
    apply highestBet_le (List.ne_nil_of_mem member)
    intro other otherMember
    exact Int.le_of_eq (none other otherMember)
  have lower := bet_le_highestBet member
  have own := none player member
  lia

theorem Solo.level (solo : table.Solo arithmetic hero)
    (none : ∀ player ∈ table.players, player.bet = 0) : table.Level arithmetic hero :=
  ⟨solo, fun player member => .inl (highestBet_of_no_bets none player member)⟩

theorem Level.of_same (level : table.Level arithmetic hero)
    (players : after.players = table.players) (pot : after.pot = table.pot) :
    after.Level arithmetic hero where
  toSolo := level.toSolo.of_same players pot
  bets := by
    rw [highestBet_congr (congrArg _ players), players]
    exact level.bets

/-- Private cards have nothing to do with bets. -/
theorem Level.hide (level : table.Level arithmetic hero) (pot : after.pot = table.pot)
    (hidden : List.Forall₂ (fun old new : Player => ∃ hole, new = { old with hole })
      table.players after.players) : after.Level arithmetic hero := by
  have solo : after.Solo arithmetic hero := by
    apply level.toSolo.stays
    · rw [pot]
      exact level.pot
    · apply hidden.imp
      rintro old _ ⟨hole, rfl⟩
      exact Player.stays_of_same rfl rfl rfl rfl
  have bets : after.players.map Player.bet = table.players.map Player.bet := by
    apply map_eq_of_forall₂ hidden
    rintro old _ ⟨hole, rfl⟩
    rfl
  refine ⟨solo, ?_⟩
  intro player member
  rcases exists_of_forall₂ hidden member with ⟨old, oldMember, hole, rfl⟩
  rw [highestBet_congr bets]
  exact level.bets old oldMember

theorem Solo.resetBets (solo : table.Solo arithmetic hero) :
    table.resetBets.Level arithmetic hero := by
  have reset : table.resetBets.Solo arithmetic hero := by
    refine solo.stays solo.pot ?_
    apply List.forall₂_map_right_iff.mpr
    apply List.forall₂_same.mpr
    exact fun player _ => ⟨rfl, fun staked =>
      ⟨staked.solvent, Int.le_refl 0, by simpa using staked.covers_stack, staked.spent⟩⟩
  apply reset.level
  intro player member
  rcases List.mem_map.mp member with ⟨old, _, rfl⟩
  rfl

theorem Level.showStreet (level : table.Level arithmetic hero) (street : Street) (cards : List Card)
    (size : Nat) (transaction : Option String) :
    (table.showStreet street cards size transaction).Level arithmetic hero := by
  rcases table.showStreet_cases street cards size transaction with
    ⟨_, eq⟩ | ⟨_, eq⟩ | ⟨_, _, eq⟩
  · rw [eq]
    exact level.toSolo.resetBets.of_same rfl rfl
  · rw [eq]
    exact level.of_same rfl rfl
  · rw [eq]
    exact level.of_same rfl rfl

theorem Level.storeHole (level : table.Level arithmetic hero) (address : Address)
    (cards : Card × Card) : (table.storeHole address cards).Level arithmetic hero :=
  level.hide rfl (forall₂_updateFirst (fun _ => ⟨_, rfl⟩) fun _ _ => ⟨_, rfl⟩)

/-- All that a poll does to the players of a solo table is to hide their cards. -/
theorem hidden_merge (table : Table) (poll : Poll) :
    List.Forall₂ (fun old new : Player => ∃ hole, new = { old with hole }) table.players
      (table.merge .single poll).1.players := by
  rw [table.players_merge_of_silent (.inl rfl)]
  rcases table.mergeHand_cases poll.handNumber with same | ⟨number, _, _, ahead⟩
  · rw [same]
    exact List.forall₂_same.mpr fun _ _ => ⟨_, rfl⟩
  · rw [ahead]
    apply List.forall₂_map_right_iff.mpr
    exact List.forall₂_same.mpr fun _ _ => ⟨_, rfl⟩

theorem Level.merge (level : table.Level arithmetic hero) (poll : Poll) :
    (table.merge .single poll).1.Level arithmetic hero :=
  level.hide (table.merge_solo_chips poll).1 (table.hidden_merge poll)

/-! ## Hands that are over -/

/-- A solo table after a hand whose winner was paid a wrapped sum. -/
structure Finished (arithmetic : Arithmetic) (hero : Address) (table : Table) : Prop where
  wraps : arithmetic = .wrapping
  phase : table.phase = .settlement
  bets : ∀ player ∈ table.players, player.bet = 0
  room : ∀ player ∈ table.players, arithmetic.Covers player.stack
  faced : Faced hero (table.players.map Player.address)

/-- A solo table between two bets. -/
inductive Rests (arithmetic : Arithmetic) (hero : Address) (table : Table) : Prop
  | level (level : table.Level arithmetic hero) : Rests arithmetic hero table
  | finished (finished : table.Finished arithmetic hero) : Rests arithmetic hero table

theorem Rests.isRoundClosed (rests : table.Rests arithmetic hero) : table.isRoundClosed := by
  cases rests with
  | level level => exact level.isRoundClosed
  | finished finished =>
    simp only [Table.isRoundClosed, List.all_eq_true, livePlayers, List.mem_filter,
      Bool.or_eq_true, decide_eq_true_eq]
    rintro player ⟨member, _⟩
    exact .inr (highestBet_of_no_bets finished.bets player member)

theorem Rests.covers_stack (rests : table.Rests arithmetic hero) :
    ∀ player ∈ table.players, arithmetic.Covers player.stack := by
  cases rests with
  | level level => exact fun player member => (level.staked player member).covers_stack
  | finished finished => exact finished.room

theorem Rests.faced (rests : table.Rests arithmetic hero) :
    Faced hero (table.players.map Player.address) := by
  cases rests with
  | level level => exact level.faced
  | finished finished => exact finished.faced

theorem Finished.of_same (finished : table.Finished arithmetic hero)
    (players : after.players = table.players) (phase : after.phase = table.phase) :
    after.Finished arithmetic hero := by
  rcases finished with ⟨wraps, settled, bets, room, faced⟩
  rw [← players] at bets room faced
  exact ⟨wraps, phase.trans settled, bets, room, faced⟩

theorem Rests.of_same (rests : table.Rests arithmetic hero)
    (players : after.players = table.players) (pot : after.pot = table.pot)
    (phase : after.phase = table.phase) : after.Rests arithmetic hero := by
  cases rests with
  | level level => exact .level (level.of_same players pot)
  | finished finished => exact .finished (finished.of_same players phase)

theorem Finished.hide (finished : table.Finished arithmetic hero)
    (phase : after.phase = table.phase)
    (hidden : List.Forall₂ (fun old new : Player => ∃ hole, new = { old with hole })
      table.players after.players) : after.Finished arithmetic hero where
  wraps := finished.wraps
  phase := phase.trans finished.phase
  bets player member := by
    rcases exists_of_forall₂ hidden member with ⟨old, oldMember, hole, rfl⟩
    exact finished.bets old oldMember
  room player member := by
    rcases exists_of_forall₂ hidden member with ⟨old, oldMember, hole, rfl⟩
    exact finished.room old oldMember
  faced := by
    have same : after.players.map Player.address = table.players.map Player.address := by
      apply map_eq_of_forall₂ hidden
      rintro old _ ⟨hole, rfl⟩
      rfl
    rw [same]
    exact finished.faced

theorem Rests.storeHole (rests : table.Rests arithmetic hero) (address : Address)
    (cards : Card × Card) : (table.storeHole address cards).Rests arithmetic hero := by
  cases rests with
  | level level => exact .level (level.storeHole address cards)
  | finished finished =>
    exact .finished <|
      finished.hide rfl (forall₂_updateFirst (fun _ => ⟨_, rfl⟩) fun _ _ => ⟨_, rfl⟩)

/-- A poll does not move a solo hand on from its settlement. -/
theorem Finished.merge (finished : table.Finished arithmetic hero) (poll : Poll) :
    (table.merge .single poll).1.Finished arithmetic hero := by
  refine finished.hide ?_ (table.hidden_merge poll)
  have standing := (table.merge_standing .single poll).1
  simpa [PlayMode.isSolo, finished.phase] using standing

theorem Rests.merge (rests : table.Rests arithmetic hero) (poll : Poll) :
    (table.merge .single poll).1.Rests arithmetic hero := by
  cases rests with
  | level level => exact .level (level.merge poll)
  | finished finished => exact .finished (finished.merge poll)

theorem finished_settle (wraps : arithmetic = .wrapping)
    (faced : Faced hero (table.players.map Player.address))
    (room : ∀ player ∈ table.players, arithmetic.Covers player.stack) (winner : Address) :
    (table.settle arithmetic winner).Finished arithmetic hero where
  wraps := wraps
  phase := rfl
  bets player member := by
    rcases List.mem_map.mp member with ⟨old, _, rfl⟩
    rfl
  room player member := by
    rcases List.mem_map.mp member with ⟨old, oldMember, rfl⟩
    simp only [pay] at oldMember
    split at oldMember
    · rcases mem_updatePlayer oldMember with same | ⟨first, _, _, rfl⟩
      · exact room old same
      · exact (arithmetic.fits_wrap _).covers
    · exact room old oldMember
  faced := by
    rw [map_settle_of_lasting fun _ _ _ _ _ => rfl]
    exact faced

theorem Solo.pay (solo : table.Solo .exact hero) (winner : Address) :
    (table.pay .exact winner).Solo .exact hero := by
  have pot := solo.pot rfl
  simp only [Table.pay, Arithmetic.wrap_exact]
  split
  · apply solo.updatePlayer fun _ => Int.le_refl 0
    intro player _
    refine ⟨rfl, ?_⟩
    rintro ⟨solvent, bet, _, spent⟩
    exact ⟨by dsimp only; lia, bet, Arithmetic.covers_exact _,
      fun broke => spent (by dsimp only at broke; lia)⟩
  · exact solo

/-- However a hand ends, nobody has bet after it. -/
theorem Solo.settle (solo : table.Solo arithmetic hero) (winner : Address) :
    (table.settle arithmetic winner).Rests arithmetic hero := by
  cases arithmetic with
  | exact => exact .level ((solo.pay winner).resetBets.of_same rfl rfl)
  | wrapping =>
    have room := fun player member => (solo.staked player member).covers_stack
    exact .finished (finished_settle rfl solo.faced room winner)

theorem Rests.decide (rests : table.Rests arithmetic hero) (winner : Address) (size : Nat)
    (transaction : Option String) :
    (table.decide .single arithmetic winner size transaction).Rests arithmetic hero := by
  have settled : (table.settle arithmetic winner).Rests arithmetic hero := by
    cases rests with
    | level level => exact level.toSolo.settle winner
    | finished finished =>
      exact .finished (finished_settle finished.wraps finished.faced finished.room winner)
  exact settled.of_same rfl rfl rfl

/-! ## New hands -/

/-- The hero is seated where missing, and then an opponent. -/
theorem addresses_seatSolo (table : Table) (hero : Address) (stack : Chips) :
    (table.seatSolo hero stack).players.map Player.address =
      let seated :=
        if table.isSeated hero then table.players.map Player.address
        else table.players.map Player.address ++ [hero]
      if ∃ address ∈ seated, address ≠ hero then seated else seated ++ [simulatedOpponent] := by
  unfold seatSolo
  extract_lets withHero withOpponent seated
  have heroEq : withHero.players.map Player.address = seated := by
    simp only [withHero, seated]
    split
    · rfl
    · simp [seatNext]
  have opponentEq : withOpponent.players.map Player.address =
      if ∃ address ∈ seated, address ≠ hero then seated else seated ++ [simulatedOpponent] := by
    simp only [withOpponent, ← heroEq]
    by_cases faced : withHero.players.any fun player => player.address ≠ hero
    · have found : ∃ address ∈ withHero.players.map Player.address, address ≠ hero := by
        simpa using faced
      rw [if_pos faced, if_pos found]
    · have missing : ¬∃ address ∈ withHero.players.map Player.address, address ≠ hero := by
        simpa using faced
      rw [if_neg faced, if_neg missing]
      simp [seatNext]
  rw [← opponentEq, List.map_map]
  apply List.map_congr_left
  intro player _
  simp only [Function.comp_apply]
  split
  · rfl
  · rfl

theorem isSeated_iff_mem {address : Address} :
    table.isSeated address ↔ address ∈ table.players.map Player.address := by
  simp [isSeated, player?]

theorem faced_seatSolo (faced : Faced hero (table.players.map Player.address)) (stack : Chips) :
    Faced hero ((table.seatSolo hero stack).players.map Player.address) := by
  rw [addresses_seatSolo]
  extract_lets seated
  generalize addresses : table.players.map Player.address = present at faced
  cases faced with
  | alone own names =>
    have ownSeated : ∀ address ∈ seated, address = hero := by
      simp only [seated, addresses]
      split
      · exact own
      · intro address member
        rcases List.mem_append.mp member with old | new
        · exact own address old
        · exact List.mem_singleton.mp new
    have nobody : ¬∃ address ∈ seated, address ≠ hero := by
      rintro ⟨address, member, other⟩
      exact other (ownSeated address member)
    rw [if_neg nobody]
    by_cases named : hero = simulatedOpponent
    · refine .alone ?_ (.inr named)
      intro address member
      rcases List.mem_append.mp member with old | new
      · exact ownSeated address old
      · exact (List.mem_singleton.mp new).trans named.symm
    · have empty := names.resolve_right named
      have missing : ¬table.isSeated hero := by
        rw [isSeated_iff_mem, addresses, empty]
        exact List.not_mem_nil
      simp only [seated, missing, addresses, empty]
      exact .against (Ne.symm named)
  | @against opponent apart =>
    have present : table.isSeated hero := by
      rw [isSeated_iff_mem, addresses]
      exact List.mem_cons_self
    have seatedEq : seated = [hero, opponent] := by
      simp only [seated, present, addresses, ↓reduceIte]
    have found : ∃ address ∈ seated, address ≠ hero := by
      rw [seatedEq]
      exact ⟨opponent, by simp, apart⟩
    rw [if_pos found, seatedEq]
    exact .against apart

/-- A hand begins level, and both players have chips. -/
theorem Rests.beginHand (rests : table.Rests arithmetic hero) (seats : List Address)
    (buyIn : Chips) {stack : Chips} (staked : 0 < stack) (fits : arithmetic.Fits stack) :
    (table.beginHand .single hero seats buyIn stack).Level arithmetic hero := by
  have cleared : Faced hero (table.clearedForHand.players.map Player.address) := by
    have same : table.clearedForHand.players.map Player.address =
        table.players.map Player.address := by
      simp only [clearedForHand, List.map_map]
      rfl
    rw [same]
    exact rests.faced
  have present : ∀ player ∈ table.clearedForHand.players,
      player.bet = 0 ∧ arithmetic.Covers player.stack := by
    intro player member
    rcases List.mem_map.mp member with ⟨old, oldMember, rfl⟩
    exact ⟨rfl, rests.covers_stack old oldMember⟩
  have dealt : ∀ player ∈ (table.clearedForHand.seatSolo hero stack).players,
      player.bet = 0 ∧ 0 < player.stack ∧ arithmetic.Covers player.stack := by
    intro player member
    rcases exists_of_mem_seatSolo present (fun _ _ => ⟨rfl, fits.covers⟩) player member with
      ⟨old, ⟨noBet, covers⟩, rfl⟩
    split
    · exact ⟨noBet, staked, fits.covers⟩
    · rename_i solvent
      exact ⟨noBet, by lia, covers⟩
  have begun : (table.clearedForHand.seatSolo hero stack).Solo arithmetic hero := by
    refine ⟨?_, ?_, faced_seatSolo cleared stack⟩
    · rcases table.clearedForHand.seatSolo_frame hero stack with ⟨players, eq⟩
      rw [eq]
      exact fun _ => Int.le_refl 0
    · intro player member
      rcases dealt player member with ⟨noBet, chips, covers⟩
      exact ⟨by lia, by lia, by simpa [noBet] using covers, fun broke => by lia⟩
  exact (begun.level fun player member => (dealt player member).1).of_same rfl rfl

/-! ## A bet and its reply -/

theorem addresses_act? {address : Address} {action : Action} {moved : Chips}
    (acts : table.act? arithmetic address action = some (after, moved)) :
    after.players.map Player.address = table.players.map Player.address :=
  map_act?_of_lasting (fun _ _ _ _ _ => rfl) acts

theorem Solo.fits_bet (solo : table.Solo arithmetic hero) {address : Address} {action : Action}
    {player : Player} {moved : Chips}
    (acts : table.act? arithmetic address action = some (after, moved))
    (seated : table.player? address = some player) : arithmetic.Fits (player.bet + moved) := by
  have staked := solo.staked player (mem_of_player? seated)
  exact staked.fits_bet (act?_wrapped acts).1 (moved_le_stack acts seated staked.solvent)

/-- The hero has acted, and the opponent has not replied yet. -/
structure Facing (arithmetic : Arithmetic) (hero opponent : Address) (table : Table) : Prop extends
    table.Solo arithmetic hero where
  apart : opponent ≠ hero
  seats : table.players.map Player.address = [hero, opponent]
  covered : ∀ player ∈ table.players, player.address = hero → player.bet = table.highestBet

theorem Facing.of_same {opponent : Address} (facing : table.Facing arithmetic hero opponent)
    (players : after.players = table.players) (pot : after.pot = table.pot) :
    after.Facing arithmetic hero opponent where
  toSolo := facing.toSolo.of_same players pot
  apart := facing.apart
  seats := by
    rw [players]
    exact facing.seats
  covered := by
    rw [highestBet_congr (congrArg _ players), players]
    exact facing.covered

/-- Nobody but the hero bets first, so the hero's bet is the highest. -/
theorem Level.facing (level : table.Level arithmetic hero) {action : Action} {moved : Chips}
    {opponent : Address} (acts : table.act? arithmetic hero action = some (after, moved))
    (seats : after.players.map Player.address = [hero, opponent]) (apart : opponent ≠ hero) :
    after.Facing arithmetic hero opponent := by
  refine ⟨level.act? acts, apart, seats, ?_⟩
  have distinct : (after.players.map Player.address).Nodup := by
    rw [seats]
    simp [apart.symm]
  have seated : table.isSeated hero := by
    rw [isSeated_iff_mem, ← addresses_act? acts, seats]
    exact List.mem_cons_self
  rcases isSeated_iff.mp seated with ⟨own, found⟩
  have fits := level.fits_bet acts found
  rcases act?_actor acts found fits with ⟨_, left, foundAfter, _, leftBet⟩
  have ownHighest : own.bet = table.highestBet := by
    rcases level.bets own (mem_of_player? found) with highest | ⟨other, _⟩
    · exact highest
    · exact absurd (address_of_player? found) other
  have nonneg := (act?_wrapped acts).1
  have upper : after.highestBet ≤ left.bet := by
    apply highestBet_le (List.ne_nil_of_mem (mem_of_player? foundAfter))
    intro player member
    have bounded := act?_bets acts found fits player member
    lia
  have lower := bet_le_highestBet (mem_of_player? foundAfter)
  intro player member isHero
  have same := player?_of_mem distinct member
  rw [isHero, foundAfter, Option.some.injEq] at same
  rw [← same]
  exact Int.le_antisymm lower upper

end Table

/-- A simulated opponent checks when there is nothing to call, or nothing to call with, and
otherwise calls or folds. -/
theorem Opponent.decide_cases (opponent : Opponent) (arithmetic : Arithmetic) (spot : Spot)
    (draw : Draw) :
    (opponent.decide arithmetic spot draw = .check ∧ (spot.toCall ≤ 0 ∨ spot.stack ≤ 0)) ∨
      opponent.decide arithmetic spot draw = .call ∨
      opponent.decide arithmetic spot draw = .fold := by
  unfold Opponent.decide
  split
  · rename_i idle
    exact .inl ⟨rfl, idle⟩
  · right
    split
    · split
      · exact .inl rfl
      · exact .inr rfl
    · split
      · exact .inl rfl
      · split
        · exact .inl rfl
        · exact .inr rfl

namespace Table

variable {arithmetic : Arithmetic} {hero opponent : Address} {table after : Table}

theorem Facing.exists_players (facing : table.Facing arithmetic hero opponent) :
    ∃ own other, table.players = [own, other] ∧ own.address = hero ∧ other.address = opponent ∧
      table.player? opponent = some other ∧ own.bet = table.highestBet := by
  rcases List.map_eq_cons_iff.mp facing.seats with ⟨own, rest, players, ownAddress, others⟩
  rcases List.map_eq_cons_iff.mp others with ⟨other, none, rfl, otherAddress, nobody⟩
  rw [List.map_eq_nil_iff.mp nobody] at players
  have found : table.player? opponent = some other := by
    simp [player?, players, ownAddress, otherAddress, facing.apart.symm]
  exact ⟨own, other, players, ownAddress, otherAddress, found,
    facing.covered own (by simp [players]) ownAddress⟩

/-- What the opponent owes is no more than the hero's bet, and so it is never wrapped. -/
theorem Facing.toCall_eq (facing : table.Facing arithmetic hero opponent) {other : Player}
    (seated : table.player? opponent = some other) :
    table.toCall arithmetic other = table.highestBet - other.bet := by
  rcases facing.exists_players with ⟨own, last, players, _, _, _, covered⟩
  have otherMember := mem_of_player? seated
  have ownStaked := facing.staked own (by simp [players])
  have bet := (facing.staked other otherMember).bet
  have solvent := ownStaked.solvent
  have upper := bet_le_highestBet otherMember
  have fits : arithmetic.wrap (table.highestBet - other.bet) = table.highestBet - other.bet :=
    ownStaked.room _ (by lia) (by lia)
  rw [toCall, fits]
  lia

/-- Whoever has nothing to call has matched the highest bet, and whoever has nothing to call with is
all-in. -/
theorem Facing.level_of_idle (facing : table.Facing arithmetic hero opponent) {other : Player}
    (seated : table.player? opponent = some other)
    (idle : table.toCall arithmetic other ≤ 0 ∨ other.stack ≤ 0) :
    table.Level arithmetic hero := by
  rcases facing.exists_players with ⟨own, last, players, _, address, found, covered⟩
  rw [facing.toCall_eq seated] at idle
  rw [seated, Option.some.injEq] at found
  subst found
  have otherMember : other ∈ table.players := by simp [players]
  refine ⟨facing.toSolo, fun player member => ?_⟩
  rw [players] at member
  rcases List.mem_cons.mp member with rfl | second
  · exact .inl covered
  · rw [List.mem_singleton.mp second]
    rcases idle with matched | broke
    · have upper := bet_le_highestBet otherMember
      exact .inl (by lia)
    · exact .inr ⟨by rw [address]; exact facing.apart,
        (facing.staked other otherMember).spent broke⟩

/-- A call matches the highest bet, unless it takes all the chips. -/
theorem Facing.call (facing : table.Facing arithmetic hero opponent) {moved : Chips}
    (acts : table.act? arithmetic opponent .call = some (after, moved)) :
    after.Level arithmetic hero := by
  have solo := facing.toSolo.act? acts
  rcases facing.exists_players with ⟨own, other, players, ownAddress, otherAddress, found, covered⟩
  have fits := facing.fits_bet acts found
  have highest : table.highestBet = max own.bet other.bet := by
    simp only [highestBet, players, List.foldl_cons, List.foldl_nil]
  simp only [Table.act?, found, Action.stake?, Option.map_eq_some_iff, facing.toCall_eq found]
    at acts
  rcases acts with ⟨⟨committed, chips⟩, commits, result⟩
  simp only [Prod.mk.injEq] at result
  rcases result with ⟨rfl, rfl⟩
  rcases Player.commit?_eq_some commits with ⟨solvent, movedEq, stack, wrapped, address, _⟩
  have bet : committed.bet = other.bet + chips := wrapped.trans fits
  have seats : (table.updatePlayer opponent fun _ => committed).players = [own, committed] := by
    simp [updatePlayer, updateFirst, players, ownAddress, otherAddress, facing.apart.symm]
  have highestAfter : highestBet
      { table.updatePlayer opponent fun _ => committed with
          pot := arithmetic.wrap (table.pot + chips) } = max own.bet committed.bet := by
    simp only [highestBet, seats, List.foldl_cons, List.foldl_nil]
  refine ⟨solo, fun player member => ?_⟩
  dsimp only at member
  rw [seats] at member
  rw [highestAfter]
  rcases List.mem_cons.mp member with rfl | second
  · exact .inl (by lia)
  · rw [List.mem_singleton.mp second]
    by_cases capped : other.stack < table.highestBet - other.bet
    · refine .inr ⟨by rw [address, otherAddress]; exact facing.apart, ?_⟩
      have staked : committed.Staked arithmetic := by
        apply solo.staked
        dsimp only
        rw [seats]
        simp
      exact staked.spent (by lia)
    · exact .inl (by lia)

/-- The reply of a simulated opponent who does not fold levels the bets. -/
theorem Facing.reply (facing : table.Facing arithmetic hero opponent) {simulated : Opponent}
    {draw : Draw} {moved : Chips}
    (acts : table.act? arithmetic opponent (simulated.respond arithmetic table opponent draw) =
      some (after, moved))
    (stays : simulated.respond arithmetic table opponent draw ≠ .fold) :
    after.Level arithmetic hero := by
  rcases facing.exists_players with ⟨_, other, _, _, _, found, _⟩
  have responds : simulated.respond arithmetic table opponent draw =
      simulated.decide arithmetic
        ⟨table.pot, table.toCall arithmetic other, other.stack⟩ draw := by
    simp only [Opponent.respond, spot?, found, Option.map_some]
  rcases simulated.decide_cases arithmetic
      ⟨table.pot, table.toCall arithmetic other, other.stack⟩ draw with
    ⟨checks, idle⟩ | calls | folds
  · rw [responds, checks] at acts
    obtain rfl : table = after := by
      simp only [Table.act?, found, Action.stake?, Option.some.injEq, Prod.mk.injEq] at acts
      exact acts.1
    exact facing.level_of_idle found idle
  · rw [responds, calls] at acts
    exact facing.call acts
  · exact absurd (responds.trans folds) stays

end Table

end Holdem
