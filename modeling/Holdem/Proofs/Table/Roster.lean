import Holdem.Proofs.Table.Polled

/-!
# The roster after a poll

Outside a solo session the entries of a poll say who is seated, each for one player: the one known
under its address, of whom everything stays that the entry does not tell, or somebody new. The walk
takes known players out of a list whose order it does not keep. What carries the proof is what is
left of that list: up to its order, the known players whom no entry has named so far.

That the addresses are distinct, of the known players and of the entries, is what gives each entry a
player of its own; with an address twice a later entry would find what an earlier one has left.
-/

namespace Holdem

/-! ## Seat order -/

/-- Players in the order of their seats, those of one seat in the order in which they were given. -/
structure InSeatOrder (players sorted : List Player) : Prop where
  ascending : sorted.Pairwise fun first second => first.seat ≤ second.seat
  ties : ∀ seat, sorted.filter (fun player => player.seat = seat) =
    players.filter fun player => player.seat = seat

theorem ascending_sortBySeat (players : List Player) :
    (sortBySeat players).Pairwise fun first second => first.seat ≤ second.seat := by
  have sorted : (sortBySeat players).Pairwise fun first second =>
      (first.seat ≤ second.seat : Bool) := by
    apply List.pairwise_mergeSort
    · intro first second third
      simpa using Nat.le_trans
    · intro first second
      simpa using Nat.le_total first.seat second.seat
  exact sorted.imp of_decide_eq_true

theorem inSeatOrder_sortBySeat (players : List Player) :
    InSeatOrder players (sortBySeat players) where
  ascending := ascending_sortBySeat players
  ties seat := by
    -- the players of the seat are in order already, so sorting keeps them as a sublist
    let here (player : Player) : Bool := player.seat = seat
    have level : (players.filter here).Pairwise fun first second =>
        (first.seat ≤ second.seat : Bool) := by
      apply List.pairwise_of_forall_mem_list
      intro first firstHere second secondHere
      have firstSeat := of_decide_eq_true (List.mem_filter.mp firstHere).2
      have secondSeat := of_decide_eq_true (List.mem_filter.mp secondHere).2
      simp [firstSeat, secondSeat]
    have kept : (players.filter here).Sublist (sortBySeat players) := by
      apply List.sublist_mergeSort _ _ level List.filter_sublist
      · intro first second third
        simpa using Nat.le_trans
      · intro first second
        simpa using Nat.le_total first.seat second.seat
    have among : (players.filter here).Sublist ((sortBySeat players).filter here) := by
      have filtered := kept.filter here
      rwa [List.filter_filter, funext fun player => Bool.and_self (here player)] at filtered
    have perm : ((sortBySeat players).filter here).Perm (players.filter here) :=
      (List.mergeSort_perm players _).filter here
    exact (among.eq_of_length perm.length_eq.symm).symm

/-! ## Entries -/

/-- A value after a poll: what the poll tells, if that can be used, and else the value before. -/
structure Told (usable : α → Prop) (polled : Option α) (before after : α) : Prop where
  taken : ∀ value, polled = some value → usable value → after = value
  kept : (∀ value, polled = some value → ¬usable value) → after = before

theorem told_getD (polled : Option α) (before : α) :
    Told (fun _ => True) polled before (polled.getD before) where
  taken := by
    rintro value rfl _
    rfl
  kept unusable := by
    rcases polled with _ | value
    · rfl
    · exact absurd trivial (unusable value rfl)

theorem told_usableAmount (polled : Option Chips) (before : Chips) :
    Told (0 ≤ ·) polled before ((usableAmount polled).getD before) where
  taken := by
    rintro chips rfl nonneg
    simp [usableAmount, Option.filter_some, nonneg]
  kept unusable := by
    rcases polled with _ | chips
    · rfl
    · simp [usableAmount, Option.filter_some, unusable chips rfl]

namespace PolledPlayer

/-- What an entry makes of a player: each value is told or kept, and the address stays. -/
structure Renews (entry : PolledPlayer) (before after : Player) : Prop where
  address : after.address = before.address
  seat : Told (fun _ => True) entry.seat before.seat after.seat
  stack : Told (0 ≤ ·) entry.stack before.stack after.stack
  bet : Told (0 ≤ ·) entry.bet before.bet after.bet
  folded : Told (fun _ => True) entry.folded before.folded after.folded
  allIn : Told (fun _ => True) entry.allIn before.allIn after.allIn

theorem renews_update (entry : PolledPlayer) (player : Player) :
    entry.Renews player (entry.update player) where
  address := rfl
  seat := told_getD entry.seat player.seat
  stack := told_usableAmount entry.stack player.stack
  bet := told_usableAmount entry.bet player.bet
  folded := told_getD entry.folded player.folded
  allIn := told_getD entry.allIn player.allIn

/-- The player whom an entry seats: the known one of its address, or a newcomer. -/
inductive Seats (known : List Player) (place : Nat) (entry : PolledPlayer) : Player → Prop
  | known {player : Player} (member : player ∈ known) (same : player.address = entry.address) :
    Seats known place entry (entry.update player)
  | new (unknown : ∀ player ∈ known, player.address ≠ entry.address) :
    Seats known place entry (entry.update (entry.newcomer place))

end PolledPlayer

theorem addresses_of_seats {known players : List Player} {places : List (PolledPlayer × Nat)}
    (seats : List.Forall₂ (fun (entry, place) player => entry.Seats known place player) places
      players) :
    players.map Player.address = (places.map Prod.fst).map PolledPlayer.address := by
  induction seats with
  | nil => rfl
  | cons here _ hypothesis =>
    rw [List.map_cons, List.map_cons, List.map_cons, hypothesis]
    cases here with
    | known _ same => exact congrArg (· :: _) same
    | new _ => rfl

/-! ## The walk -/

namespace Reseating

variable {walk : Reseating} {place : Nat} {entry : PolledPlayer} {polled : List PolledPlayer}

/-- Of those who wait, an entry leaves all who do not have its address. -/
theorem waiting_seat (distinct : (walk.waiting.map Player.address).Nodup) :
    (walk.seat place entry).waiting.Perm
      (walk.waiting.filter fun player => player.address ≠ entry.address) := by
  rcases walk.seat_cases place entry with ⟨taken, same, left, _⟩ | ⟨unknown, left, _⟩
  · have apart := (left.map Player.address).nodup_iff.mp distinct
    rw [List.map_cons, List.nodup_cons, same] at apart
    have others : ∀ player ∈ (walk.seat place entry).waiting, player.address ≠ entry.address := by
      intro player member isEntry
      exact apart.1 (isEntry ▸ List.mem_map_of_mem member)
    have untouched : (walk.seat place entry).waiting.filter
        (fun player => player.address ≠ entry.address) = (walk.seat place entry).waiting :=
      List.filter_eq_self.mpr (by simpa using others)
    have filtered := left.filter fun player => player.address ≠ entry.address
    rw [List.filter_cons_of_neg (by simpa using same), untouched] at filtered
    exact filtered.symm
  · rw [left, List.filter_eq_self.mpr (by simpa using unknown)]

theorem added_seat (walk : Reseating) (place : Nat) (entry : PolledPlayer) :
    (walk.seat place entry).added =
      walk.added + if entry.address ∈ walk.waiting.map Player.address then 0 else 1 := by
  simp only [seat]
  split
  · rename_i index found
    rcases List.findIdx?_eq_some_iff_getElem.mp found with ⟨inRange, here, _⟩
    have waits : entry.address ∈ walk.waiting.map Player.address :=
      List.mem_map.mpr ⟨_, List.getElem_mem inRange, of_decide_eq_true here⟩
    rw [if_pos waits, Nat.add_zero]
  · rename_i none
    have unknown : entry.address ∉ walk.waiting.map Player.address := by
      rintro waits
      rcases List.mem_map.mp waits with ⟨player, member, same⟩
      have other := List.findIdx?_eq_none_iff.mp none player member
      simp [same] at other
    rw [if_neg unknown]

/-- Seats are made for those who waited and for those who were added. -/
theorem balance_seatAll (walk : Reseating) (place : Nat) (polled : List PolledPlayer) :
    (walk.seatAll place polled).seated.length + (walk.seatAll place polled).waiting.length +
        walk.added =
      walk.seated.length + walk.waiting.length + (walk.seatAll place polled).added := by
  induction polled generalizing walk place with
  | nil => rfl
  | cons entry rest hypothesis =>
    have later := hypothesis (walk.seat place entry) (place + 1)
    have added := walk.added_seat place entry
    simp only [seatAll]
    rcases walk.seat_cases place entry with ⟨taken, same, left, seated⟩ | ⟨unknown, left, seated⟩
    · have waits : entry.address ∈ walk.waiting.map Player.address :=
        List.mem_map.mpr ⟨taken, left.mem_iff.mpr List.mem_cons_self, same⟩
      have shorter := left.length_eq
      rw [if_pos waits] at added
      rw [seated] at later
      simp only [List.length_cons] at later shorter
      omega
    · have waitsNot : entry.address ∉ walk.waiting.map Player.address := by
        rintro waits
        rcases List.mem_map.mp waits with ⟨player, member, same⟩
        exact unknown player member same
      rw [if_neg waitsNot] at added
      rw [seated, left] at later
      simp only [List.length_cons] at later
      omega

/-- What a walk has done once all entries are through, if those wait at first whom no earlier entry
has named: each entry has seated its player, and those wait still whom no entry names. -/
theorem seatAll_of_distinct {known : List Player} {done : List Address}
    (distinctKnown : (known.map Player.address).Nodup)
    (distinct : (done ++ polled.map PolledPlayer.address).Nodup) (walk : Reseating) (place : Nat)
    (waiting : walk.waiting.Perm (known.filter fun player => player.address ∉ done)) :
    (∃ players, (walk.seatAll place polled).seated = players.reverse ++ walk.seated ∧
        List.Forall₂ (fun (entry, place) player => entry.Seats known place player)
          (polled.zipIdx place) players) ∧
      (walk.seatAll place polled).waiting.Perm (known.filter fun player =>
        player.address ∉ done ++ polled.map PolledPlayer.address) ∧
      (walk.seatAll place polled).added = walk.added +
        (polled.filter fun entry => entry.address ∉ known.map Player.address).length := by
  induction polled generalizing walk place done with
  | nil =>
    rw [List.map_nil, List.append_nil]
    exact ⟨⟨[], rfl, .nil⟩, waiting, rfl⟩
  | cons entry rest hypothesis =>
    have distinctWaiting : (walk.waiting.map Player.address).Nodup :=
      (waiting.map Player.address).nodup_iff.mpr
        (distinctKnown.sublist (List.filter_sublist.map Player.address))
    -- an entry finds its player among those who wait exactly when the player is known
    have unnamed : entry.address ∉ done := by
      intro named
      exact (List.nodup_append.mp distinct).2.2 _ named _ List.mem_cons_self rfl
    have waits : ∀ player : Player, player.address = entry.address →
        (player ∈ walk.waiting ↔ player ∈ known) := by
      intro player same
      rw [waiting.mem_iff, List.mem_filter, same]
      simp [unnamed]
    have here : ∃ player, (walk.seat place entry).seated = player :: walk.seated ∧
        entry.Seats known place player := by
      rcases walk.seat_cases place entry with ⟨taken, same, left, seated⟩ | ⟨unknown, _, seated⟩
      · have member := (waits taken same).mp (left.mem_iff.mpr List.mem_cons_self)
        exact ⟨_, seated, .known member same⟩
      · refine ⟨_, seated, .new ?_⟩
        intro player member same
        exact unknown player ((waits player same).mpr member) same
    have left : (walk.seat place entry).waiting.Perm
        (known.filter fun player => player.address ∉ done ++ [entry.address]) := by
      apply (waiting_seat distinctWaiting).trans
      apply (waiting.filter _).trans
      rw [List.filter_filter]
      apply List.Perm.of_eq
      apply List.filter_congr
      intro player _
      simp [and_comm]
    have added : (walk.seat place entry).added = walk.added +
        if entry.address ∈ known.map Player.address then 0 else 1 := by
      rw [walk.added_seat place entry]
      congr 2
      simp only [List.mem_map, eq_iff_iff]
      constructor
      · rintro ⟨player, member, same⟩
        exact ⟨player, (waits player same).mp member, same⟩
      · rintro ⟨player, member, same⟩
        exact ⟨player, (waits player same).mpr member, same⟩
    rw [List.map_cons, List.append_cons] at distinct
    rcases here with ⟨player, seatedHere, seats⟩
    rcases hypothesis distinct (walk.seat place entry) (place + 1) left with
      ⟨⟨players, seated, described⟩, waitingLast, addedLast⟩
    refine ⟨⟨player :: players, ?_, .cons seats described⟩, ?_, ?_⟩
    · simp only [seatAll, seated, seatedHere, List.reverse_cons, List.append_assoc,
        List.singleton_append]
    · rw [List.map_cons, List.append_cons]
      exact waitingLast
    · simp only [seatAll, addedLast, added]
      by_cases isKnown : entry.address ∈ known.map Player.address
      · rw [if_pos isKnown, List.filter_cons_of_neg (by simpa using isKnown), Nat.add_zero]
      · rw [if_neg isKnown, List.filter_cons_of_pos (by simpa using isKnown), List.length_cons]
        omega

end Reseating

/-! ## Merging a roster -/

namespace Table

variable {table : Table} {mode : PlayMode} {poll : Poll}

/-- What a poll makes of the player of an entry: the one known under its address, whose private cards
stay unless the poll is of a later hand, or a newcomer without chips, whose seat is the place of the
entry if it tells none. -/
inductive Reseats (table : Table) (poll : Poll) (place : Nat) (entry : PolledPlayer)
    (after : Player) : Prop
  | known (before : Player) (member : before ∈ table.players)
    (same : before.address = entry.address) (renews : entry.Renews before after)
    (kept : poll.NotAhead table → after.hole = before.hole)
    (hidden : ¬poll.NotAhead table → after.hole = none)
  | new (unknown : ∀ player ∈ table.players, player.address ≠ entry.address)
    (renews : entry.Renews
      { address := entry.address, seat := place, stack := 0, bet := 0, folded := false
        allIn := false } after)
    (blind : after.hole = none)

/-- What a poll with a list of players makes of the seats at a table. -/
structure TakesRoster (table : Table) (poll : Poll) (after : Table) (report : MergeReport) :
    Prop where
  seated : ∃ players,
    List.Forall₂ (fun (entry, place) player => table.Reseats poll place entry player)
        poll.entries.zipIdx players ∧
      InSeatOrder players after.players
  once : (after.players.map Player.address).Perm (poll.entries.map PolledPlayer.address)
  added : report.playersAdded = ((poll.entries.map PolledPlayer.address).filter fun address =>
    address ∉ table.players.map Player.address).length
  removed : report.playersRemoved = ((table.players.map Player.address).filter fun address =>
    address ∉ poll.entries.map PolledPlayer.address).length
  size : after.players.length + report.playersRemoved =
    table.players.length + report.playersAdded

/-- Whoever is seated once the hand number has been taken over was so before, with or without the
private cards. -/
theorem exists_of_mem_mergeHand {player : Player}
    (member : player ∈ (table.mergeHand poll.handNumber).1.players) :
    ∃ before ∈ table.players, ∃ hole, player = { before with hole } ∧
      (poll.NotAhead table → hole = before.hole) ∧ (¬poll.NotAhead table → hole = none) := by
  by_cases notAhead : poll.NotAhead table
  · rw [mergeHand_of_notAhead notAhead] at member
    exact ⟨player, member, player.hole, rfl, fun _ => rfl, fun ahead => absurd notAhead ahead⟩
  · have told := notAhead
    simp only [Poll.NotAhead, not_forall, UInt32.not_le] at told
    rcases told with ⟨number, told, ahead⟩
    rw [told, mergeHand_of_ahead ahead] at member
    rcases List.mem_map.mp member with ⟨before, known, rfl⟩
    exact ⟨before, known, none, rfl, fun isNot => absurd isNot notAhead, fun _ => rfl⟩

theorem addresses_mergeHand (table : Table) (handNumber : Option UInt32) :
    (table.mergeHand handNumber).1.players.map Player.address =
      table.players.map Player.address :=
  map_mergeHand_of_covered (fun _ => rfl) table handNumber

theorem reseats_of_seats {place : Nat} {entry : PolledPlayer} {player : Player}
    (seats : entry.Seats (table.mergeHand poll.handNumber).1.players place player) :
    table.Reseats poll place entry player := by
  cases seats with
  | known member same =>
    rcases exists_of_mem_mergeHand member with ⟨before, old, hole, rfl, kept, hidden⟩
    have renews := entry.renews_update { before with hole }
    exact .known before old same
      ⟨renews.address, renews.seat, renews.stack, renews.bet, renews.folded, renews.allIn⟩
      kept hidden
  | new unknown =>
    refine .new ?_ ?_ rfl
    · intro player member same
      have known :
          entry.address ∈ (table.mergeHand poll.handNumber).1.players.map Player.address := by
        rw [addresses_mergeHand, ← same]
        exact List.mem_map_of_mem member
      rcases List.mem_map.mp known with ⟨other, otherMember, otherSame⟩
      exact unknown other otherMember otherSame
    · have renews := entry.renews_update (entry.newcomer place)
      -- the place stands in for the seat twice, in the newcomer and in what the entry keeps of it
      refine ⟨renews.address, ?_, renews.stack, renews.bet, renews.folded, renews.allIn⟩
      simp only [PolledPlayer.update, PolledPlayer.newcomer, getD_getD]
      exact told_getD entry.seat place

/-- The players whom a merge counts are those of the walk. -/
theorem merge_counts (table : Table) (shared : mode.isSolo = false) (poll : Poll) :
    ((table.merge mode poll).2.playersAdded, (table.merge mode poll).2.playersRemoved) =
      ((table.mergeHand poll.handNumber).1.mergePlayers poll.players).2 := by
  have counts : ∀ {first second : Table} (polled : Option (List PolledPlayer)),
      first.players = second.players →
        (first.mergePlayers polled).2 = (second.mergePlayers polled).2 := by
    intro first second polled same
    simp only [mergePlayers]
    split
    · rfl
    · rfl
    · dsimp only
      rw [same]
  let frozen := mode.isSolo && table.phase = .settlement
  let phased := (table.mergePhase (if frozen then none else poll.phase)).1
  let counted := (phased.mergeHand poll.handNumber).1
  let dealt := { counted with dealerSeat := poll.dealerSeat.getD counted.dealerSeat }
  have report : ((table.merge mode poll).2.playersAdded, (table.merge mode poll).2.playersRemoved) =
      (if mode.isSolo then (dealt, 0, 0) else dealt.mergeChips poll).2 := rfl
  rw [report, shared, if_neg Bool.false_ne_true]
  exact counts poll.players (table.mergeHand_mergePhase _ poll.handNumber).2

/-- Outside a solo session a poll that lists players seats exactly them, each address once and in the
order of the seats, those of one seat in the order of the list. Whoever was known keeps every value
that the poll does not tell or tells as a negative amount, and the private cards unless the poll is
of a later hand; whoever is new starts from nothing. The report counts the new and the departed. -/
theorem takesRoster_merge (shared : mode.isSolo = false)
    (known : (table.players.map Player.address).Nodup) (listed : poll.entries ≠ [])
    (distinct : (poll.entries.map PolledPlayer.address).Nodup) :
    table.TakesRoster poll (table.merge mode poll).1 (table.merge mode poll).2 := by
  let waiting : Reseating := { waiting := (table.mergeHand poll.handNumber).1.players }
  have addresses : waiting.waiting.map Player.address = table.players.map Player.address :=
    addresses_mergeHand table poll.handNumber
  have nobodyNamed : waiting.waiting.Perm
      (waiting.waiting.filter fun player => player.address ∉ ([] : List Address)) := by simp
  have unnamed : ([] ++ poll.entries.map PolledPlayer.address).Nodup := distinct
  rcases Reseating.seatAll_of_distinct (addresses ▸ known) unnamed waiting 0 nobodyNamed with
    ⟨⟨players, seated, seats⟩, left, added⟩
  have balance := waiting.balance_seatAll 0 poll.entries
  have merged : (table.merge mode poll).1.players = sortBySeat players := by
    rw [table.players_merge_of_listed shared listed, seated, List.append_nil, List.reverse_reverse]
  have order : InSeatOrder players (table.merge mode poll).1.players :=
    merged ▸ inSeatOrder_sortBySeat players
  have counts := table.merge_counts shared poll
  have walked : ((table.mergeHand poll.handNumber).1.mergePlayers poll.players).2 =
      ((waiting.seatAll 0 poll.entries).added, (waiting.seatAll 0 poll.entries).waiting.length) := by
    rcases told : poll.players with _ | _ | ⟨entry, entries⟩
    · simp [Poll.entries, told] at listed
    · simp [Poll.entries, told] at listed
    · simp only [mergePlayers, Poll.entries, told, Option.getD_some, waiting]
  rw [walked, Prod.mk.injEq] at counts
  have perm : (table.merge mode poll).1.players.Perm players :=
    merged ▸ List.mergeSort_perm players _
  have named : players.map Player.address = poll.entries.map PolledPlayer.address := by
    rw [addresses_of_seats seats, List.zipIdx_map_fst]
  refine ⟨⟨players, seats.imp fun _ _ seats => reseats_of_seats seats, order⟩, ?_, ?_, ?_, ?_⟩
  · rw [← named]
    exact perm.map Player.address
  · rw [counts.1, added, addresses, List.filter_map, List.length_map]
    exact Nat.zero_add _
  · rw [counts.2, left.length_eq, ← addresses, List.filter_map, List.length_map]
    rfl
  · rw [seated, List.append_nil, List.length_reverse, ← perm.length_eq] at balance
    have size := congrArg List.length addresses
    rw [List.length_map, List.length_map] at size
    rw [counts.1, counts.2, ← size]
    simpa [waiting] using balance

/-- Two entries for the first seat: one of somebody new who takes it by the place in the list, and
one of a known player with a debt that is not believed. A third player has left. -/
theorem takesRoster_merge_of_tie :
    let poll : Poll :=
      { handNumber := some 2
        players := some [{ address := "new" },
          { address := "hero", seat := some 0, stack := some (-5), folded := some true }] }
    let table : Table :=
      { opened 9 with
        handNumber := 2
        players := [{ address := "gone", seat := 0, stack := 60 },
          { address := "hero", seat := 1, stack := 40, hole := some (⟨3⟩, ⟨17⟩) }] }
    PlayMode.multi.isSolo = false ∧ (table.players.map Player.address).Nodup ∧
      poll.entries ≠ [] ∧ (poll.entries.map PolledPlayer.address).Nodup ∧
      table.TakesRoster poll (table.merge .multi poll).1 (table.merge .multi poll).2 ∧
      (table.merge .multi poll).1.players =
        [{ address := "new", seat := 0, stack := 0 },
          { address := "hero", seat := 0, stack := 40, folded := true
            hole := some (⟨3⟩, ⟨17⟩) }] := by
  intro poll table
  have shared : PlayMode.multi.isSolo = false := rfl
  refine ⟨shared, by decide, by decide, by decide,
    takesRoster_merge shared (by decide) (by decide) (by decide), ?_⟩
  rw [table.players_merge_of_listed shared (by decide)]
  exact List.mergeSort_of_pairwise (by decide)

end Table

end Holdem
