import Holdem.Proofs.Table.Board
import Holdem.Proofs.Table.Hand

/-!
# Private cards at a table

The snapshot keeps with each seat the private cards known of its player. Actions leave them where
they are, a deal takes them all away, and so does a poll whose hand number is ahead. Any other poll
decides only who stays: cards that are still known after it were known of the same player before.

A player can have more than one seat, when the outside says so, and then the cards of one seat can
get behind another. Where the player has one seat the cards go with it, and a poll takes them away
exactly when it has players and the player is not among them.
-/

namespace Holdem

/-- A poll tells no hand after the one that a snapshot counts. -/
def Poll.NotAhead (poll : Poll) (table : Table) : Prop :=
  ∀ number, poll.handNumber = some number → number ≤ table.handNumber

/-- An image of a player that shows neither chips nor what the player did in the round. -/
def Player.Lasting (image : Player → β) : Prop :=
  ∀ player stack bet folded allIn, image { player with stack, bet, folded, allIn } = image player

/-- An image of a player that shows no private cards. -/
def Player.Covered (image : Player → β) : Prop :=
  ∀ player, image { player with hole := none } = image player

namespace Table

/-- Who is seated, with the private cards known of each. -/
def secrets (table : Table) : List (Address × Option (Card × Card)) :=
  table.players.map fun player => (player.address, player.hole)

def hole? (table : Table) (address : Address) : Option (Card × Card) :=
  (table.player? address).bind Player.hole

def Blind (table : Table) : Prop :=
  ∀ player ∈ table.players, player.hole = none

instance (table : Table) : Decidable table.Blind :=
  inferInstanceAs (Decidable (∀ player ∈ table.players, player.hole = none))

theorem hole?_eq (table : Table) (address : Address) :
    table.hole? address = (table.secrets.find? fun secret => secret.1 = address).bind Prod.snd := by
  simp only [hole?, player?, secrets, List.find?_map, Function.comp_def, Option.bind_map]

theorem blind_iff {table : Table} : table.Blind ↔ ∀ secret ∈ table.secrets, secret.2 = none := by
  simp [Blind, secrets]

theorem isSeated_iff_secrets {table : Table} {address : Address} :
    table.isSeated address ↔ ∃ secret ∈ table.secrets, secret.1 = address := by
  rw [isSeated, player?, List.find?_isSome]
  constructor
  · rintro ⟨player, member, same⟩
    exact ⟨_, List.mem_map_of_mem member, of_decide_eq_true same⟩
  · rintro ⟨_, member, same⟩
    rcases List.mem_map.mp member with ⟨player, seated, rfl⟩
    exact ⟨player, seated, decide_eq_true same⟩

/-! ## Actions -/

variable {arithmetic : Arithmetic}

section Images

variable {image : Player → β}

theorem map_act?_of_lasting (lasting : Player.Lasting image) {table after : Table} {address : Address}
    {action : Action} {moved : Chips}
    (acts : table.act? arithmetic address action = some (after, moved)) :
    after.players.map image = table.players.map image := by
  rcases act?_cases acts with
    ⟨_, rfl, _⟩ | ⟨player, seated, ⟨_, _, rfl⟩ | ⟨_, _, rfl⟩ | ⟨stake, committed, _, commits, rfl⟩⟩
  · rfl
  · exact map_updateFirst seated (lasting player _ _ true _)
  · rfl
  · apply map_updateFirst seated
    simp only [Player.commit?] at commits
    split at commits
    · exact absurd commits (by simp)
    · rw [Option.some.injEq, Prod.mk.injEq] at commits
      rw [← commits.1]
      exact lasting player _ _ _ _

theorem map_resetBets_of_lasting (lasting : Player.Lasting image) (table : Table) :
    table.resetBets.players.map image = table.players.map image := by
  simp only [resetBets, List.map_map]
  apply List.map_congr_left
  intro player _
  exact lasting player _ 0 _ _

theorem map_settle_of_lasting (lasting : Player.Lasting image) (table : Table) (winner : Address) :
    (table.settle arithmetic winner).players.map image = table.players.map image := by
  have paid : (table.pay arithmetic winner).players.map image = table.players.map image := by
    simp only [pay]
    split
    · rename_i seated
      rcases isSeated_iff.mp seated with ⟨player, found⟩
      exact map_updateFirst found (lasting player _ _ _ _)
    · rfl
  exact (map_resetBets_of_lasting lasting (table.pay arithmetic winner)).trans paid

theorem map_showStreet_of_lasting (lasting : Player.Lasting image) (table : Table) (street : Street)
    (cards : List Card) (size : Nat) (transaction : Option String) :
    (table.showStreet street cards size transaction).players.map image =
      table.players.map image := by
  rcases table.showStreet_cases street cards size transaction with
    ⟨_, eq⟩ | ⟨_, eq⟩ | ⟨_, _, eq⟩
  · rw [eq]
    exact map_resetBets_of_lasting lasting (table.setPhase street.phase)
  · rw [eq]
    rfl
  · rw [eq]
    rfl

theorem map_decide_of_lasting (lasting : Player.Lasting image) (table : Table) (mode : PlayMode)
    (winner : Address) (size : Nat) (transaction : Option String) :
    (table.decide mode arithmetic winner size transaction).players.map image =
      table.players.map image := by
  simp only [Table.decide]
  split
  · exact map_settle_of_lasting lasting table winner
  · rfl

end Images

theorem secrets_act? {table after : Table} {address : Address} {action : Action} {moved : Chips}
    (acts : table.act? arithmetic address action = some (after, moved)) :
    after.secrets = table.secrets :=
  map_act?_of_lasting (fun _ _ _ _ _ => rfl) acts

theorem secrets_settle (table : Table) (winner : Address) :
    (table.settle arithmetic winner).secrets = table.secrets :=
  map_settle_of_lasting (fun _ _ _ _ _ => rfl) table winner

theorem secrets_showStreet (table : Table) (street : Street) (cards : List Card) (size : Nat)
    (transaction : Option String) :
    (table.showStreet street cards size transaction).secrets = table.secrets :=
  map_showStreet_of_lasting (fun _ _ _ _ _ => rfl) table street cards size transaction

/-- Whoever takes a seat comes without cards and was not seated before. -/
theorem secrets_takeSeat (table : Table) (address : Address) (seat : Nat) (buyIn : Chips) :
    (table.takeSeat address seat buyIn).secrets = table.secrets ∨
      table.isSeated address = false ∧
        (table.takeSeat address seat buyIn).secrets.Perm ((address, none) :: table.secrets) := by
  by_cases seated : table.isSeated address
  · left
    simp only [takeSeat, seated, ↓reduceIte]
    rfl
  · right
    refine ⟨by simpa using seated, ?_⟩
    simp only [takeSeat, seated, Bool.false_eq_true, ↓reduceIte, secrets]
    let joined : Player := { address, seat, stack := buyIn }
    have sorted : (sortBySeat (table.players ++ [joined])).Perm (joined :: table.players) :=
      (List.mergeSort_perm _ _).trans List.perm_append_comm
    exact sorted.map fun player => (player.address, player.hole)

/-! ## Deals -/

theorem Blind.seatNext {table : Table} (blind : table.Blind) (address : Address) (stack : Chips) :
    (table.seatNext address stack).Blind := by
  intro player member
  rcases List.mem_append.mp member with old | new
  · exact blind player old
  · rw [List.mem_singleton.mp new]

/-- Cards are stored at a seat of the address that they are stored for. -/
theorem mem_secrets_storeHole {table : Table} {address : Address} {cards : Card × Card}
    {secret : Address × Option (Card × Card)}
    (member : secret ∈ (table.storeHole address cards).secrets) :
    secret ∈ table.secrets ∨ secret = (address, some cards) := by
  rcases List.mem_map.mp member with ⟨player, seated, rfl⟩
  rcases mem_updatePlayer seated with same | ⟨old, _, rfl, rfl⟩
  · exact .inl (List.mem_map_of_mem same)
  · exact .inr rfl

/-- A hand begins with no cards known, whoever is dealt in. -/
theorem blind_beginHand (table : Table) (mode : PlayMode) (hero : Address) (seats : List Address)
    (buyIn soloStack : Chips) : (table.beginHand mode hero seats buyIn soloStack).Blind := by
  have cleared : table.clearedForHand.Blind := by
    intro player member
    rcases List.mem_map.mp member with ⟨old, _, rfl⟩
    rfl
  simp only [beginHand]
  split
  · unfold seatSolo
    extract_lets withHero withOpponent
    have hero : withHero.Blind := by
      simp only [withHero]
      split
      · exact cleared
      · exact cleared.seatNext hero soloStack
    have opponent : withOpponent.Blind := by
      simp only [withOpponent]
      split
      · exact hero
      · exact hero.seatNext simulatedOpponent soloStack
    intro player member
    rcases List.mem_map.mp member with ⟨old, oldMember, rfl⟩
    split
    · exact opponent old oldMember
    · exact opponent old oldMember
  · unfold seatAll
    split
    · exact cleared
    · intro player member
      rcases List.mem_map.mp member with ⟨⟨address, seat⟩, _, rfl⟩
      rfl

/-! ## Polls -/

theorem mergeHand_of_ahead {table : Table} {number : UInt32} (ahead : table.handNumber < number) :
    (table.mergeHand (some number)).1 = { table with handNumber := number }.dropHoles := by
  simp [mergeHand, ahead]

theorem mergeHand_of_notAhead {table : Table} {poll : Poll} (notAhead : poll.NotAhead table) :
    (table.mergeHand poll.handNumber).1 = table := by
  rcases table.mergeHand_cases poll.handNumber with same | ⟨number, told, ahead, _⟩
  · exact same
  · exact absurd ahead (Nat.not_lt.mpr (notAhead number told))

/-- A new hand takes nothing from the players but their private cards. -/
theorem map_mergeHand_of_covered {image : Player → β} (covered : Player.Covered image)
    (table : Table) (handNumber : Option UInt32) :
    (table.mergeHand handNumber).1.players.map image = table.players.map image := by
  rcases table.mergeHand_cases handNumber with same | ⟨number, _, _, dropped⟩
  · rw [same]
  · rw [dropped]
    simp only [dropHoles, List.map_map]
    apply List.map_congr_left
    intro player _
    exact covered player

/-- The phase has no say in the hand number and in the players. -/
theorem mergeHand_mergePhase (table : Table) (phase : Option String) (handNumber : Option UInt32) :
    ((table.mergePhase phase).1.mergeHand handNumber).1.handNumber =
        (table.mergeHand handNumber).1.handNumber ∧
      ((table.mergePhase phase).1.mergeHand handNumber).1.players =
        (table.mergeHand handNumber).1.players := by
  rcases mergePhase_frame table phase with ⟨merged, eq⟩
  simp only [eq, mergeHand]
  split
  · split
    · exact ⟨rfl, rfl⟩
    · exact ⟨rfl, rfl⟩
  · exact ⟨rfl, rfl⟩

/-- Who is seated after a merge, and which hand it is: both are decided once the hand number has
been taken over. -/
theorem merge_seats (table : Table) (mode : PlayMode) (poll : Poll) :
    let counted := (table.mergeHand poll.handNumber).1
    (table.merge mode poll).1.handNumber = counted.handNumber ∧
      (table.merge mode poll).1.players =
        if mode.isSolo then counted.players else (counted.mergePlayers poll.players).1.players := by
  have seats : ∀ {first second : Table} (polled : Option (List PolledPlayer)),
      first.players = second.players →
        (first.mergePlayers polled).1.players = (second.mergePlayers polled).1.players := by
    intro first second polled same
    simp only [mergePlayers]
    split
    · exact same
    · exact same
    · dsimp only
      rw [same]
  intro counted
  -- the phase is merged before and the board after, and they touch neither players nor count
  rw [merge_eq]
  extract_lets frozen phased phasedCounted dealt seated boarded
  have countedEq : phasedCounted.handNumber = counted.handNumber ∧
      phasedCounted.players = counted.players := table.mergeHand_mergePhase _ poll.handNumber
  have seatedEq : seated.handNumber = counted.handNumber ∧ seated.players =
      if mode.isSolo then counted.players else (counted.mergePlayers poll.players).1.players := by
    by_cases solo : mode.isSolo
    · simp only [seated, solo, ↓reduceIte]
      exact countedEq
    · simp only [seated, solo, Bool.false_eq_true, ↓reduceIte, mergeChips]
      refine ⟨?_, seats poll.players countedEq.2⟩
      rcases mergePlayers_frame { dealt with
        pot := (usableAmount poll.pot).getD dealt.pot
        currentTurn := poll.currentTurn.getD dealt.currentTurn } poll.players with ⟨players, eq⟩
      rw [eq]
      exact countedEq.1
  have boardedEq : boarded.handNumber = seated.handNumber ∧ boarded.players = seated.players := by
    rcases mergeBoard_cases seated (if frozen then none else poll.board) with
      same | ⟨cards, _, new⟩
    · simp only [boarded, same, and_self]
    · simp only [boarded, new, and_self]
  exact ⟨boardedEq.1.trans seatedEq.1, boardedEq.2.trans seatedEq.2⟩

/-- A poll that is ahead leaves no cards known. -/
theorem blind_merge {table : Table} {poll : Poll} {number : UInt32}
    (told : poll.handNumber = some number) (ahead : table.handNumber < number) (mode : PlayMode) :
    (table.merge mode poll).1.Blind ∧ (table.merge mode poll).1.handNumber = number := by
  rcases table.merge_seats mode poll with ⟨count, players⟩
  rw [told, mergeHand_of_ahead ahead] at count players
  have dropped : Blind { table with handNumber := number }.dropHoles := by
    intro player member
    rcases List.mem_map.mp member with ⟨old, _, rfl⟩
    rfl
  refine ⟨?_, count⟩
  simp only [Blind, players]
  split
  · exact dropped
  · exact mergePlayers_forall _ _ (fun _ _ _ hidden => hidden) (fun _ _ => rfl) dropped

/-- Cards that are known after a merge were known of the same player before. -/
theorem mem_secrets_merge {table : Table} {mode : PlayMode} {poll : Poll}
    {secret : Address × Option (Card × Card)}
    (member : secret ∈ (table.merge mode poll).1.secrets) :
    secret.2 = none ∨ secret ∈ table.secrets := by
  let known (player : Player) : Prop :=
    player.hole = none ∨ (player.address, player.hole) ∈ table.secrets
  suffices all : ∀ player ∈ (table.merge mode poll).1.players, known player by
    rcases List.mem_map.mp member with ⟨player, playerMember, rfl⟩
    exact all player playerMember
  have counted : ∀ player ∈ (table.mergeHand poll.handNumber).1.players, known player := by
    rcases table.mergeHand_cases poll.handNumber with same | ⟨number, _, _, dropped⟩
    · rw [same]
      exact fun player member => .inr (List.mem_map_of_mem member)
    · rw [dropped]
      intro player member
      rcases List.mem_map.mp member with ⟨old, _, rfl⟩
      exact .inl rfl
  rw [(table.merge_seats mode poll).2]
  split
  · exact counted
  · exact mergePlayers_forall _ _ (fun _ _ _ same => same) (fun _ _ => .inl rfl) counted

end Table

end Holdem
