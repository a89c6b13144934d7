import Mathlib.Data.List.Perm.Basic
import Holdem.Proofs.Table.Secrets

/-!
# Players whom a poll names

A merge walks through the polled players. Each entry takes the player of its address out of those
who still wait, or brings a newcomer, and whoever is left waiting in the end is gone. What becomes
of one player hangs on the entries with that player's address alone. A player with one seat who is
named once comes out with one seat and the same private cards. A player who is not named is gone.
-/

namespace Holdem

theorem perm_swapRemove {elements : List α} {index : Nat} {element : α}
    (here : elements[index]? = some element) :
    elements.Perm (element :: swapRemove elements index) := by
  rcases List.eq_nil_or_concat elements with rfl | ⟨init, last, rfl⟩
  · simp at here
  rw [List.concat_eq_append] at here ⊢
  have removed : swapRemove (init ++ [last]) index = ((init ++ [last]).set index last).dropLast := by
    simp [swapRemove]
  rw [removed]
  by_cases within : index < init.length
  · rw [List.getElem?_append_left within, List.getElem?_eq_getElem within, Option.some.injEq] at here
    rw [List.set_append_left _ _ within, List.dropLast_concat]
    have moved := (List.set_perm_cons_eraseIdx within last).cons element
    have kept := (List.getElem_cons_eraseIdx_perm within).cons last
    rw [here] at kept
    exact List.perm_append_comm.trans (kept.symm.trans ((List.Perm.swap ..).trans moved.symm))
  · have inRange := (List.getElem?_eq_some_iff.mp here).1
    have atEnd : index = init.length := by
      simp only [List.length_append, List.length_singleton] at inRange
      omega
    subst atEnd
    simp only [List.getElem?_append_right, Nat.le_refl, Nat.sub_self, List.getElem?_cons_zero,
      Option.some.injEq] at here
    subst here
    simp

/-! ## The seats of one player -/

def seatsOf (address : Address) (players : List Player) : List Player :=
  players.filter fun player => player.address = address

section Seats

variable {address : Address} {player : Player} {players others : List Player}

theorem seatsOf_cons_of_eq (same : player.address = address) :
    seatsOf address (player :: players) = player :: seatsOf address players :=
  List.filter_cons_of_pos (decide_eq_true same)

theorem seatsOf_cons_of_ne (other : player.address ≠ address) :
    seatsOf address (player :: players) = seatsOf address players :=
  List.filter_cons_of_neg (by simpa using other)

theorem mem_seatsOf : player ∈ seatsOf address players ↔
    player ∈ players ∧ player.address = address := by
  simp [seatsOf]

theorem perm_seatsOf (perm : players.Perm others) :
    (seatsOf address players).Perm (seatsOf address others) :=
  perm.filter _

theorem seatsOf_eq_singleton (perm : players.Perm others)
    (only : seatsOf address players = [player]) : seatsOf address others = [player] := by
  have same : (seatsOf address players).Perm (seatsOf address others) := perm_seatsOf perm
  rw [only] at same
  exact (List.singleton_perm.mp same).symm

end Seats

/-! ## The walk -/

namespace Reseating

/-- An entry takes a player of its address out of those who wait, or brings a newcomer when there is
none. -/
theorem seat_cases (walk : Reseating) (place : Nat) (polled : PolledPlayer) :
    (∃ player, player.address = polled.address ∧
        walk.waiting.Perm (player :: (walk.seat place polled).waiting) ∧
        (walk.seat place polled).seated = polled.update player :: walk.seated) ∨
      ((∀ player ∈ walk.waiting, player.address ≠ polled.address) ∧
        (walk.seat place polled).waiting = walk.waiting ∧
        (walk.seat place polled).seated = polled.update (polled.newcomer place) :: walk.seated) := by
  simp only [seat]
  split
  · rename_i index found
    rcases List.findIdx?_eq_some_iff_getElem.mp found with ⟨inRange, here, _⟩
    have element := List.getElem?_eq_getElem inRange
    left
    refine ⟨walk.waiting[index], of_decide_eq_true here, perm_swapRemove element, ?_⟩
    simp [element]
  · rename_i none
    right
    refine ⟨?_, rfl, rfl⟩
    intro player member same
    have other := List.findIdx?_eq_none_iff.mp none player member
    simp [same] at other

variable {address : Address} {polled : List PolledPlayer}

theorem seatsOf_seat_of_ne {entry : PolledPlayer} (other : entry.address ≠ address)
    (walk : Reseating) (place : Nat) :
    seatsOf address (walk.seat place entry).seated = seatsOf address walk.seated ∧
      (seatsOf address walk.waiting).Perm (seatsOf address (walk.seat place entry).waiting) := by
  rcases walk.seat_cases place entry with ⟨taken, same, left, seated⟩ | ⟨_, left, seated⟩
  · have away : taken.address ≠ address := by rwa [same]
    have waiting : (seatsOf address walk.waiting).Perm
        (seatsOf address (taken :: (walk.seat place entry).waiting)) := perm_seatsOf left
    rw [seatsOf_cons_of_ne away] at waiting
    rw [seated]
    exact ⟨seatsOf_cons_of_ne away, waiting⟩
  · rw [seated, left]
    exact ⟨seatsOf_cons_of_ne other, .refl _⟩

theorem seatsOf_seatAll_of_unnamed (unnamed : address ∉ polled.map PolledPlayer.address)
    (walk : Reseating) (place : Nat) :
    seatsOf address (walk.seatAll place polled).seated = seatsOf address walk.seated := by
  induction polled generalizing walk place with
  | nil => rfl
  | cons entry rest hypothesis =>
    rw [List.map_cons, List.mem_cons, not_or] at unnamed
    rcases unnamed with ⟨other, unnamedRest⟩
    simp only [seatAll]
    rw [hypothesis unnamedRest, (seatsOf_seat_of_ne (Ne.symm other) walk place).1]

/-- A player with one waiting seat and one entry is seated once, with the same private cards. -/
theorem seatsOf_seatAll_of_named (named : (polled.map PolledPlayer.address).count address = 1)
    (walk : Reseating) (place : Nat) {player : Player}
    (waiting : seatsOf address walk.waiting = [player])
    (seated : seatsOf address walk.seated = []) :
    ∃ after, seatsOf address (walk.seatAll place polled).seated = [after] ∧
      after.hole = player.hole := by
  induction polled generalizing walk place with
  | nil => simp at named
  | cons entry rest hypothesis =>
    simp only [seatAll]
    by_cases here : entry.address = address
    · have unnamedRest : address ∉ rest.map PolledPlayer.address := by
        rw [List.map_cons, here, List.count_cons_self] at named
        exact List.count_eq_zero.mp (by omega)
      rw [seatsOf_seatAll_of_unnamed unnamedRest]
      rcases walk.seat_cases place entry with ⟨taken, same, left, seatedNow⟩ | ⟨none, _, _⟩
      · -- the player taken is the only one who waits with the address
        have takenHere : taken.address = address := same.trans here
        have only := seatsOf_eq_singleton left waiting
        rw [seatsOf_cons_of_eq takenHere] at only
        refine ⟨entry.update taken, ?_, ?_⟩
        · have updatedHere : (entry.update taken).address = address := takenHere
          rw [seatedNow, seatsOf_cons_of_eq updatedHere, seated]
        · rw [(List.cons.inj only).1]
          rfl
      · have member : player ∈ seatsOf address walk.waiting := by
          rw [waiting]
          exact List.mem_singleton_self player
        rw [mem_seatsOf] at member
        exact absurd (member.2.trans here.symm) (none player member.1)
    · have namedRest : (rest.map PolledPlayer.address).count address = 1 := by
        rwa [List.map_cons, List.count_cons_of_ne here] at named
      rcases seatsOf_seat_of_ne here walk place with ⟨seatedNow, waitingNow⟩
      apply hypothesis namedRest
      · rw [waiting] at waitingNow
        exact (List.singleton_perm.mp waitingNow).symm
      · rw [seatedNow, seated]

end Reseating

/-! ## Cards of a player with one seat -/

namespace Poll

/-- The entries of a poll that can be read. -/
def entries (poll : Poll) : List PolledPlayer :=
  poll.players.getD []

end Poll

namespace Table

variable {table : Table} {address : Address} {cards : Card × Card} {mode : PlayMode} {poll : Poll}

/-- The one seat of an address has these private cards. -/
def Holds (table : Table) (address : Address) (cards : Card × Card) : Prop :=
  table.secrets.filter (fun secret => secret.1 = address) = [(address, some cards)]

theorem holds_iff : table.Holds address cards ↔
    ∃ player, seatsOf address table.players = [player] ∧ player.hole = some cards := by
  have seats : table.secrets.filter (fun secret => secret.1 = address) =
      (seatsOf address table.players).map fun player => (player.address, player.hole) := by
    simp only [secrets, List.filter_map, seatsOf]
    rfl
  rw [Holds, seats]
  constructor
  · intro only
    rcases List.map_eq_singleton_iff.mp only with ⟨player, seated, secret⟩
    exact ⟨player, seated, (Prod.mk.inj secret).2⟩
  · rintro ⟨player, seated, hole⟩
    have member : player ∈ seatsOf address table.players := by
      rw [seated]
      exact List.mem_singleton_self player
    rw [seated, List.map_singleton, (mem_seatsOf.mp member).2, hole]

theorem player?_eq_head? (table : Table) (address : Address) :
    table.player? address = (seatsOf address table.players).head? :=
  List.head?_filter.symm

theorem Holds.hole? (holds : table.Holds address cards) : table.hole? address = some cards := by
  rcases holds_iff.mp holds with ⟨player, seated, hole⟩
  simp [Table.hole?, player?_eq_head?, seated, hole]

theorem holds_of_hole? (held : table.hole? address = some cards)
    (once : (table.players.map Player.address).count address = 1) : table.Holds address cards := by
  have length : (seatsOf address table.players).length = 1 := by
    rw [← once, seatsOf, ← List.countP_eq_length_filter, List.count_eq_countP, List.countP_map]
    rfl
  rcases List.length_eq_one_iff.mp length with ⟨player, seated⟩
  simp only [Table.hole?, player?_eq_head?, seated, List.head?_cons, Option.bind_some] at held
  exact holds_iff.mpr ⟨player, seated, held⟩

/-- A poll that lists nobody decides nothing about the players but the hand that they are in, and in
a solo session no poll does. -/
theorem players_merge_of_silent (table : Table) (silent : mode.isSolo ∨ poll.entries = []) :
    (table.merge mode poll).1.players = (table.mergeHand poll.handNumber).1.players := by
  rw [(table.merge_seats mode poll).2]
  by_cases solo : mode.isSolo
  · rw [if_pos solo]
  · rw [if_neg solo]
    have unlisted := silent.resolve_left solo
    rcases listed : poll.players with _ | _ | ⟨entry, entries⟩
    · rfl
    · rfl
    · simp [Poll.entries, listed] at unlisted

/-- In a solo session nobody's place or chips are polled. -/
theorem map_merge_of_solo {image : Player → β} (covered : Player.Covered image) (solo : mode.isSolo)
    (table : Table) (poll : Poll) :
    (table.merge mode poll).1.players.map image = table.players.map image := by
  rw [table.players_merge_of_silent (.inl solo)]
  exact map_mergeHand_of_covered covered table poll.handNumber

theorem players_merge (notAhead : poll.NotAhead table) (silent : mode.isSolo ∨ poll.entries = []) :
    (table.merge mode poll).1.players = table.players := by
  rw [table.players_merge_of_silent silent, mergeHand_of_notAhead notAhead]

/-- Where a poll lists players a walk through its entries decides who is seated. -/
theorem players_merge_of_listed (table : Table) (shared : mode.isSolo = false)
    (listed : poll.entries ≠ []) :
    (table.merge mode poll).1.players =
      sortBySeat (Reseating.seatAll { waiting := (table.mergeHand poll.handNumber).1.players } 0
        poll.entries).seated.reverse := by
  rw [(table.merge_seats mode poll).2, shared, if_neg (by simp)]
  rcases players : poll.players with _ | _ | ⟨entry, entries⟩
  · simp [Poll.entries, players] at listed
  · simp [Poll.entries, players] at listed
  · simp only [mergePlayers, Poll.entries, players, Option.getD_some]

theorem seatsOf_merge (table : Table) (address : Address) (shared : mode.isSolo = false)
    (listed : poll.entries ≠ []) :
    (seatsOf address (table.merge mode poll).1.players).Perm
      (seatsOf address (Reseating.seatAll { waiting := (table.mergeHand poll.handNumber).1.players } 0
        poll.entries).seated) := by
  rw [table.players_merge_of_listed shared listed]
  exact perm_seatsOf ((List.mergeSort_perm _ _).trans (List.reverse_perm _))

theorem Holds.merge (holds : table.Holds address cards) (notAhead : poll.NotAhead table)
    (named : mode.isSolo ∨ poll.entries = [] ∨
      (poll.entries.map PolledPlayer.address).count address = 1) :
    (table.merge mode poll).1.Holds address cards := by
  by_cases silent : mode.isSolo ∨ poll.entries = []
  · simp only [Holds, secrets, players_merge notAhead silent]
    exact holds
  · rw [not_or] at silent
    have once := (named.resolve_left silent.1).resolve_left silent.2
    rcases holds_iff.mp holds with ⟨player, seated, hole⟩
    have walked := table.seatsOf_merge address (by simpa using silent.1) silent.2
    rw [mergeHand_of_notAhead notAhead] at walked
    rcases Reseating.seatsOf_seatAll_of_named once { waiting := table.players } 0 seated rfl with
      ⟨after, only, kept⟩
    rw [only] at walked
    exact holds_iff.mpr ⟨after, List.perm_singleton.mp walked, kept.trans hole⟩

theorem player?_merge_of_unnamed (shared : mode.isSolo = false) (listed : poll.entries ≠ [])
    (unnamed : address ∉ poll.entries.map PolledPlayer.address) :
    (table.merge mode poll).1.player? address = none := by
  have walked := table.seatsOf_merge address shared listed
  rw [Reseating.seatsOf_seatAll_of_unnamed unnamed] at walked
  rw [player?_eq_head?, List.perm_nil.mp walked]
  rfl

/-- A poll seats nobody whom it does not name. -/
theorem isSeated_of_merge (shared : mode.isSolo = false)
    (unnamed : address ∉ poll.entries.map PolledPlayer.address)
    (seated : (table.merge mode poll).1.isSeated address) : table.isSeated address := by
  have silent : poll.entries = [] := by
    apply Decidable.byContradiction
    intro listed
    rw [isSeated, player?_merge_of_unnamed shared listed unnamed] at seated
    exact absurd seated Bool.false_ne_true
  rw [isSeated_iff_secrets, secrets, table.players_merge_of_silent (.inr silent)] at seated
  rcases table.mergeHand_cases poll.handNumber with same | ⟨number, _, _, dropped⟩
  · rw [same] at seated
    exact isSeated_iff_secrets.mpr seated
  · rw [dropped] at seated
    rcases seated with ⟨_, member, named⟩
    rcases List.mem_map.mp member with ⟨_, memberDropped, rfl⟩
    rcases List.mem_map.mp memberDropped with ⟨player, old, rfl⟩
    exact isSeated_iff_secrets.mpr ⟨_, List.mem_map_of_mem old, named⟩

/-- Exactly when a poll that is not ahead, and names a player at most once, leaves the player the
private cards. -/
theorem Holds.merge_iff (holds : table.Holds address cards) (notAhead : poll.NotAhead table)
    (once : (poll.entries.map PolledPlayer.address).count address ≤ 1) :
    (table.merge mode poll).1.hole? address = some cards ↔
      mode.isSolo ∨ poll.entries = [] ∨ address ∈ poll.entries.map PolledPlayer.address := by
  constructor
  · intro kept
    by_cases silent : mode.isSolo ∨ poll.entries = []
    · exact silent.imp_right .inl
    · rw [not_or] at silent
      refine .inr (.inr ?_)
      by_cases named : address ∈ poll.entries.map PolledPlayer.address
      · exact named
      · have gone := table.player?_merge_of_unnamed (by simpa using silent.1) silent.2 named
        rw [Table.hole?, gone] at kept
        exact absurd kept (by simp)
  · intro spared
    apply Holds.hole?
    apply holds.merge notAhead
    refine spared.imp_right (Or.imp_right ?_)
    intro named
    have least := List.count_pos_iff.mpr named
    omega

end Table

end Holdem
