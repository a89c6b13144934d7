import Holdem.Proofs.Table.Roster
import Holdem.Proofs.Table.Seats

/-!
# Who sits where

Every search for a player takes the first one with the address, and the list is taken to be in the
order of the seats. So nothing can be mistaken as long as no address stands twice and the seats
ascend. Whoever joins is not seated yet and is sorted in; a deal numbers its seats from zero; a poll
has its entries sorted, and brings no address twice that it does not name twice.

A solo table is made up here: the hero sits down first and the simulated opponent second, and nobody
ever joins or leaves.
-/

namespace Holdem

def soloPlaces (hero : Address) : List (Address × Nat) :=
  [(hero, 0), (simulatedOpponent, 1)]

/-- No address stands twice and the seats ascend. -/
structure SeatedInOrder (places : List (Address × Nat)) : Prop where
  distinct : (places.map Prod.fst).Nodup
  sorted : (places.map Prod.snd).Pairwise (· ≤ ·)

theorem seatedInOrder_nil : SeatedInOrder [] where
  distinct := .nil
  sorted := .nil

theorem seatedInOrder_soloPlaces {hero : Address} (named : hero ≠ simulatedOpponent) :
    SeatedInOrder (soloPlaces hero) where
  distinct := by simpa [soloPlaces] using named
  sorted := by simp [soloPlaces]

theorem seatedInOrder_zipIdx {addresses : List Address} (distinct : addresses.Nodup) :
    SeatedInOrder addresses.zipIdx where
  distinct := by
    rw [List.zipIdx_map_fst]
    exact distinct
  sorted := by
    rw [List.zipIdx_map_snd]
    exact List.pairwise_le_range'

namespace Table

/-- Who sits where, in the order of the list. -/
def places (table : Table) : List (Address × Nat) :=
  table.players.map fun player => (player.address, player.seat)

variable {table : Table} {hero : Address} {mode : PlayMode}

theorem places_addresses (table : Table) :
    table.places.map Prod.fst = table.players.map Player.address := by
  simp only [places, List.map_map]
  rfl

theorem places_seats (table : Table) : table.places.map Prod.snd = table.players.map Player.seat := by
  simp only [places, List.map_map]
  rfl

theorem places_storeHole (table : Table) (address : Address) (cards : Card × Card) :
    (table.storeHole address cards).places = table.places := by
  simp only [storeHole, updatePlayer, places]
  apply map_updateFirst_of_unchanged
  exact fun _ => rfl

theorem seatedInOrder_of_sortBySeat {players : List Player}
    (distinct : (players.map Player.address).Nodup)
    (sorted : table.players = sortBySeat players) : SeatedInOrder table.places where
  distinct := by
    rw [places_addresses, sorted]
    exact ((List.mergeSort_perm players _).map Player.address).nodup_iff.mpr distinct
  sorted := by
    rw [places_seats, sorted, List.pairwise_map]
    exact ascending_sortBySeat players

/-- Whoever joins is sorted in, and an address that is seated already is not seated again. -/
theorem seatedInOrder_takeSeat (inOrder : SeatedInOrder table.places) (address : Address)
    (seat : Nat) (buyIn : Chips) : SeatedInOrder (table.takeSeat address seat buyIn).places := by
  by_cases seated : table.isSeated address
  · simp only [takeSeat, seated, ↓reduceIte]
    exact inOrder
  · have unseated : address ∉ table.players.map Player.address := by
      simpa [isSeated, player?] using seated
    let joined : Player := { address, seat, stack := buyIn }
    have distinct : ((table.players ++ [joined]).map Player.address).Nodup := by
      have first : (table.players ++ [joined]).Perm (joined :: table.players) :=
        List.perm_append_comm
      apply (first.map Player.address).nodup_iff.mpr
      exact List.nodup_cons.mpr ⟨unseated, table.places_addresses ▸ inOrder.distinct⟩
    apply seatedInOrder_of_sortBySeat distinct
    simp only [takeSeat, seated, Bool.false_eq_true, ↓reduceIte]
    rfl

/-! ## Deals -/

theorem places_clearedForHand (table : Table) : table.clearedForHand.places = table.places := by
  simp only [clearedForHand, places, List.map_map]
  rfl

theorem places_refill (players : List Player) (stack : Chips) :
    (players.map fun player => if player.stack ≤ 0 then { player with stack } else player).map
        (fun player => (player.address, player.seat)) =
      players.map fun player => (player.address, player.seat) := by
  rw [List.map_map]
  apply List.map_congr_left
  intro player _
  simp only [Function.comp_apply]
  split
  · rfl
  · rfl

theorem places_seatSolo_of_empty (empty : table.places = []) (hero : Address) (stack : Chips) :
    (table.seatSolo hero stack).places = soloPlaces hero := by
  have nobody : table.players = [] := List.map_eq_nil_iff.mp empty
  simp only [places, seatSolo, places_refill]
  simp [isSeated, player?, nobody, seatNext, nextFreeSeat, soloPlaces]

theorem places_seatSolo_of_solo (solo : table.places = soloPlaces hero)
    (named : hero ≠ simulatedOpponent) (stack : Chips) :
    (table.seatSolo hero stack).places = soloPlaces hero := by
  rcases List.map_eq_cons_iff.mp solo with ⟨own, others, players, ownPlace, rest⟩
  rcases List.map_eq_singleton_iff.mp rest with ⟨opponent, rfl, opponentPlace⟩
  rw [Prod.mk.injEq] at ownPlace opponentPlace
  have faced : opponent.address ≠ hero := by
    rw [opponentPlace.1]
    exact named.symm
  rw [← solo]
  simp only [places, seatSolo, places_refill]
  simp [isSeated, player?, players, ownPlace.1, faced]

/-- A solo hand is dealt to the hero and the simulated opponent. -/
theorem places_beginHand_of_solo (solo : mode.isSolo)
    (seated : table.places = [] ∨ table.places = soloPlaces hero) (named : hero ≠ simulatedOpponent)
    (seats : List Address) (buyIn soloStack : Chips) :
    (table.beginHand mode hero seats buyIn soloStack).places = soloPlaces hero := by
  simp only [beginHand, solo, ↓reduceIte]
  rw [← table.places_clearedForHand] at seated
  rcases seated with empty | two
  · exact places_seatSolo_of_empty empty hero soloStack
  · exact places_seatSolo_of_solo two named soloStack

/-- Outside a solo session the seats of a deal are numbered in their order. -/
theorem seatedInOrder_beginHand (shared : mode.isSolo = false) {seats : List Address}
    (distinct : seats.Nodup) (inOrder : SeatedInOrder table.places) (buyIn soloStack : Chips) :
    SeatedInOrder (table.beginHand mode hero seats buyIn soloStack).places := by
  simp only [beginHand, shared, Bool.false_eq_true, ↓reduceIte, seatAll]
  split
  · rw [← table.places_clearedForHand] at inOrder
    exact inOrder
  · have numbered := seatedInOrder_zipIdx distinct
    simpa [places, markUnconfirmed, Function.comp_def] using numbered

/-! ## Polls -/

theorem places_merge_of_silent {poll : Poll} (silent : mode.isSolo ∨ poll.entries = []) :
    (table.merge mode poll).1.places = table.places := by
  rw [places, table.players_merge_of_silent silent]
  rcases table.mergeHand_cases poll.handNumber with same | ⟨number, _, _, dropped⟩
  · rw [same, places]
  · rw [dropped]
    simp only [dropHoles, places, List.map_map]
    rfl

theorem seatedInOrder_merge (inOrder : SeatedInOrder table.places) {poll : Poll}
    (distinct : (poll.entries.map PolledPlayer.address).Nodup) :
    SeatedInOrder (table.merge mode poll).1.places := by
  by_cases silent : mode.isSolo ∨ poll.entries = []
  · rw [places_merge_of_silent silent]
    exact inOrder
  · rw [not_or] at silent
    rcases table.exists_players_merge (by simpa using silent.1) silent.2 with
      ⟨players, sorted, described⟩
    refine seatedInOrder_of_sortBySeat ?_ sorted
    rw [addresses_of_describes described]
    exact distinct

end Table

end Holdem
