import Mathlib.Data.List.Nodup
import Holdem.Proofs.Session.Start
import Holdem.Proofs.Table.Places

/-!
# Seat numbers of a deal

A seat has a number at the table, and polls, turns and reported winners go by it. A start that is
left to the lobby takes the wallets out of it in the order of the seats and numbers them anew, by
their place in that order. So what a player is given is not the number of the seat but how many seats
there are below it, and the two are the same only where no number is left out.
-/

namespace Holdem

/-! ## Ascending numbers -/

section Ascending

variable {numbers : List Nat} {place : Nat}

/-- The place of a number is how many are below it. -/
theorem countP_lt_of_ascending (ascending : numbers.Pairwise (· < ·))
    (within : place < numbers.length) : numbers.countP (· < numbers[place]) = place := by
  induction numbers generalizing place with
  | nil => exact absurd within (by simp)
  | cons first rest hypothesis =>
    rw [List.pairwise_cons] at ascending
    cases place with
    | zero =>
      have none : rest.countP (· < first) = 0 := by
        rw [List.countP_eq_zero]
        intro number member
        have above := ascending.1 number member
        simp only [decide_eq_true_eq]
        omega
      simp [none]
    | succ place =>
      rw [List.length_cons] at within
      have inRest : place < rest.length := by omega
      have below := ascending.1 rest[place] (List.getElem_mem inRest)
      simp [below, hypothesis ascending.2 inRest]

theorem add_le_of_ascending (ascending : numbers.Pairwise (· < ·)) (place further : Nat)
    (within : place + further < numbers.length) :
    numbers[place] + further ≤ numbers[place + further] := by
  induction further with
  | zero => simp
  | succ further hypothesis =>
    have before := hypothesis (by omega)
    have step := List.pairwise_iff_getElem.mp ascending (place + further) (place + (further + 1))
      (by omega) within (by omega)
    omega

theorem le_of_ascending (ascending : numbers.Pairwise (· < ·)) (within : place < numbers.length) :
    place ≤ numbers[place] := by
  have fromFirst := add_le_of_ascending ascending 0 place (by omega)
  simp only [Nat.zero_add] at fromFirst
  omega

/-- Where no number is left out, every number is its place. -/
theorem eq_of_ascending (ascending : numbers.Pairwise (· < ·))
    (dense : ∀ number ∈ numbers, number < numbers.length) (within : place < numbers.length) :
    numbers[place] = place := by
  have above := le_of_ascending ascending within
  have toLast := add_le_of_ascending ascending place (numbers.length - 1 - place) (by omega)
  have last : numbers[place + (numbers.length - 1 - place)] < numbers.length :=
    dense _ (List.getElem_mem _)
  omega

end Ascending

/-! ## The seats of a lobby -/

/-- No two seats of a lobby share a number or a wallet. -/
structure Lobby.Distinct (lobby : Lobby) : Prop where
  numbers : (lobby.seats.map LobbySeat.seat).Nodup
  wallets : (lobby.seats.map LobbySeat.wallet).Nodup

/-- The number of a player's seat stands for the player in the lobby. -/
def Player.NumberedBy (player : Player) (lobby : Lobby) : Prop :=
  lobby.walletForSeat? (UInt32.ofNat player.seat) = some player.address

namespace Lobby

variable {lobby : Lobby} {seat : LobbySeat} {place : Nat}

/-- The seats in the order of their numbers. -/
def inOrder (lobby : Lobby) : List LobbySeat :=
  lobby.seats.mergeSort fun first second => first.seat ≤ second.seat

theorem perm_inOrder (lobby : Lobby) : lobby.inOrder.Perm lobby.seats :=
  List.mergeSort_perm lobby.seats _

theorem wallets_eq (lobby : Lobby) : lobby.wallets = lobby.inOrder.map LobbySeat.wallet := rfl

theorem Distinct.ascending (distinct : lobby.Distinct) :
    (lobby.inOrder.map fun seat => seat.seat.toNat).Pairwise (· < ·) := by
  have sorted : lobby.inOrder.Pairwise fun first second =>
      (first.seat ≤ second.seat : Bool) := by
    apply List.pairwise_mergeSort
    · intro first second third
      simpa using UInt32.le_trans
    · intro first second
      simpa using UInt32.le_total first.seat second.seat
  have apart : lobby.inOrder.Pairwise fun first second => first.seat ≠ second.seat :=
    List.pairwise_map.mp ((lobby.perm_inOrder.map LobbySeat.seat).nodup_iff.mpr distinct.numbers)
  rw [List.pairwise_map]
  apply (sorted.and apart).imp
  intro first second ⟨le, ne⟩
  have notAbove := UInt32.le_iff_toNat_le.mp (of_decide_eq_true le)
  have other : first.seat.toNat ≠ second.seat.toNat := fun same => ne (UInt32.toNat.inj same)
  omega

/-- A number stands for a wallet where the wallet's own seat has it. -/
theorem Distinct.walletForSeat?_iff (distinct : lobby.Distinct) (member : seat ∈ lobby.seats)
    {number : UInt32} :
    lobby.walletForSeat? number = some seat.wallet ↔ seat.seat = number := by
  simp only [walletForSeat?, Option.map_eq_some_iff]
  constructor
  · rintro ⟨found, search, wallet⟩
    have same := List.inj_on_of_nodup_map distinct.wallets (List.mem_of_find?_eq_some search) member
      wallet
    simpa [same] using List.find?_some search
  · rintro rfl
    obtain ⟨found, search⟩ : ∃ found, lobby.seats.find? (fun other => other.seat = seat.seat) =
        some found := by
      apply Option.isSome_iff_exists.mp
      exact List.find?_isSome.mpr ⟨seat, member, by simp⟩
    have number : found.seat = seat.seat := by simpa using List.find?_some search
    have same := List.inj_on_of_nodup_map distinct.numbers (List.mem_of_find?_eq_some search)
      member number
    exact ⟨found, search, congrArg LobbySeat.wallet same⟩

/-- The place of a seat is how many seats are below it. It is at most the number of the seat, and the
number itself where none is left out. -/
theorem Distinct.place_of_seat (distinct : lobby.Distinct)
    (found : lobby.inOrder[place]? = some seat) :
    place = lobby.seats.countP (fun other => other.seat < seat.seat) ∧ place ≤ seat.seat.toNat ∧
      ((∀ other ∈ lobby.seats, other.seat.toNat < lobby.seats.length) →
        seat.seat.toNat = place) := by
  let numbers := lobby.inOrder.map fun seat => seat.seat.toNat
  have length : numbers.length = lobby.seats.length := by
    rw [List.length_map, lobby.perm_inOrder.length_eq]
  rcases List.getElem?_eq_some_iff.mp found with ⟨inSeats, here⟩
  have within : place < numbers.length := by
    rw [List.length_map]
    exact inSeats
  have number : numbers[place] = seat.seat.toNat := by simp [numbers, here]
  refine ⟨?_, number ▸ le_of_ascending distinct.ascending within, ?_⟩
  · have below := countP_lt_of_ascending distinct.ascending within
    rw [number, List.countP_map, lobby.perm_inOrder.countP_eq] at below
    exact below.symm
  · intro dense
    rw [← number]
    apply eq_of_ascending distinct.ascending
    intro other listed
    rcases List.mem_map.mp listed with ⟨otherSeat, member, rfl⟩
    rw [length]
    exact dense otherSeat (lobby.perm_inOrder.mem_iff.mp member)

/-- A player is given the place of a seat in the order of the seats. -/
theorem exists_seat {table : Table} {player : Player} (dealt : table.places = lobby.wallets.zipIdx)
    (member : player ∈ table.players) :
    ∃ seat, lobby.inOrder[player.seat]? = some seat ∧ seat ∈ lobby.seats ∧
      seat.wallet = player.address := by
  have placed : (player.address, player.seat) ∈ table.places := List.mem_map_of_mem member
  rw [dealt, List.mem_zipIdx_iff_getElem?, wallets_eq, List.getElem?_map,
    Option.map_eq_some_iff] at placed
  rcases placed with ⟨seat, found, wallet⟩
  exact ⟨seat, found, lobby.perm_inOrder.mem_iff.mp (List.mem_of_getElem? found), wallet⟩

theorem Distinct.numberedBy_iff (distinct : lobby.Distinct) {player : Player}
    (found : lobby.inOrder[player.seat]? = some seat) (wallet : seat.wallet = player.address) :
    player.NumberedBy lobby ↔ seat.seat.toNat = player.seat := by
  have member := lobby.perm_inOrder.mem_iff.mp (List.mem_of_getElem? found)
  have above := (distinct.place_of_seat found).2.1
  have small : player.seat < UInt32.size := Nat.lt_of_le_of_lt above seat.seat.toNat_lt
  rw [Player.NumberedBy, ← wallet, distinct.walletForSeat?_iff member]
  constructor
  · intro same
    rw [same, UInt32.toNat_ofNat_of_lt' small]
  · intro same
    rw [← same, UInt32.ofNat_toNat]

/-- The numbers of a deal are those of the lobby exactly where the lobby leaves none out. -/
theorem Distinct.all_numberedBy_iff (distinct : lobby.Distinct) {table : Table}
    (dealt : table.places = lobby.wallets.zipIdx) :
    (∀ player ∈ table.players, player.NumberedBy lobby) ↔
      ∀ seat ∈ lobby.seats, seat.seat.toNat < lobby.seats.length := by
  constructor
  · intro numbered seat member
    rcases List.getElem?_of_mem (lobby.perm_inOrder.mem_iff.mpr member) with ⟨place, found⟩
    have listed : (seat.wallet, place) ∈ table.places := by
      rw [dealt, List.mem_zipIdx_iff_getElem?, wallets_eq, List.getElem?_map, found]
      rfl
    rcases List.mem_map.mp listed with ⟨player, playerMember, same⟩
    rw [Prod.mk.injEq] at same
    rcases same with ⟨wallet, rfl⟩
    have number := (distinct.numberedBy_iff found wallet.symm).mp (numbered player playerMember)
    have within := (List.getElem?_eq_some_iff.mp found).1
    have length := lobby.perm_inOrder.length_eq
    omega
  · intro dense player member
    rcases exists_seat dealt member with ⟨seat, found, _, wallet⟩
    exact (distinct.numberedBy_iff found wallet).mpr ((distinct.place_of_seat found).2.2 dense)

end Lobby

/-- Outside a solo session a deal numbers its seats in their order. -/
theorem Table.places_beginHand {mode : PlayMode} (shared : mode.isSolo = false) (table : Table)
    (hero : Address) {seats : List Address} (some : seats ≠ []) (buyIn soloStack : Chips) :
    (table.beginHand mode hero seats buyIn soloStack).places = seats.zipIdx := by
  have notEmpty : seats.isEmpty = false := by simpa using some
  simp [beginHand, shared, seatAll, notEmpty, places, markUnconfirmed, Function.comp_def]

/-! ## Starts -/

namespace World

variable {settings : Settings} {session : Session} {tableId : UInt32} {log : List Event}
  {world next : World} {lobby : Lobby}

/-- Outside a solo session, in every run, a start that is left to the lobby deals to the wallets of a
lobby that it was told, in the order of the seats. Where no two of these share a number or a wallet,
a player is given as number how many seats there are below the player's own in the lobby. That stands
for the player in the lobby only if it is the number there, and it does so for all players exactly
when the lobby leaves no number out. -/
theorem seat_numbers_of_start (shared : settings.mode.isSolo = false)
    (run : Run settings { session } log world) {index : Nat} {exchange : Option Exchange}
    (turn : Step settings world (.moved index (.user (.dispatch (.start []))) exchange) next)
    (counted : next.session.table.handNumber ≠ world.session.table.handNumber) :
    ∃ lobby credentials lobbyTable,
      Heard log (.user (.dispatch (.start []))) (.coordinator credentials (.lobby lobbyTable))
        (.ok lobby) ∧
      next.session.table.players.map Player.address = lobby.wallets ∧
      (lobby.Distinct →
        (∀ player ∈ next.session.table.players, ∃ seat ∈ lobby.seats,
          seat.wallet = player.address ∧
          player.seat = lobby.seats.countP (fun other => other.seat < seat.seat) ∧
          (player.NumberedBy lobby ↔ seat.seat.toNat = player.seat)) ∧
        ((∀ player ∈ next.session.table.players, player.NumberedBy lobby) ↔
          ∀ seat ∈ lobby.seats, seat.seat.toNat < lobby.seats.length)) := by
  let law (job : Job) : Discipline Session := (starting settings (Heard log job) job).onTable
  have same : ∀ job, (law job).invariant = fun _ => True := fun _ => rfl
  have nobody : World.Keeps law { session } := fun _ none => absurd none List.not_mem_nil
  have expected : ∀ event ∈ log, Expected settings law event := by
    intro event member
    cases event with
    | begun job => exact settings.keeps_starting job
    | moved index job exchange =>
      rintro heard rfl
      exact ⟨index, member⟩
  rcases run.keeps_of_expected same expected trivial nobody with ⟨_, kept⟩
  rcases turn.keeps same trivial kept with ⟨⟨_, permitted⟩, _⟩
  rcases permitted [] rfl counted with ⟨lobbyTable, seats, given, dealt⟩
  have places := Table.places_beginHand shared world.session.table settings.hero given.ne_nil
    settings.buyIn settings.soloStack
  rw [← dealt] at places
  cases given with
  | named named _ =>
    -- The seats come from the intent only if it names someone, or in a solo session.
    rw [shared] at named
    exact absurd rfl (named.resolve_left (by decide))
  | @lobby lobby _ _ credentials _ _ told =>
    refine ⟨lobby, credentials, lobbyTable, told, ?_, ?_⟩
    · rw [← Table.places_addresses, places, List.zipIdx_map_fst]
    intro distinct
    refine ⟨?_, distinct.all_numberedBy_iff places⟩
    intro player member
    rcases Lobby.exists_seat places member with ⟨seat, found, seatMember, wallet⟩
    exact ⟨seat, seatMember, wallet, (distinct.place_of_seat found).1,
      distinct.numberedBy_iff found wallet⟩

theorem eq_of_heard_lobbyTold {other : Lobby} {job : Job} {credentials : Option Credentials}
    {lobbyTable : UInt32}
    (heard : Heard (lobbyTold tableId lobby) job (.coordinator credentials (.lobby lobbyTable))
      (.ok other)) : other = lobby := by
  rcases heard with ⟨index, member⟩
  simp only [lobbyTold, List.mem_cons, List.not_mem_nil, or_false] at member
  rcases member with same | same | same | same
  all_goals cases same
  rfl

/-- The hero sits in the first seat of a lobby, and the villain in another. -/
def pairedWith (number : UInt32) : Lobby :=
  { gathered [] with
    seats := [{ seat := 0, chainAddress := "hero" }, { seat := number, chainAddress := villain }] }

theorem wallets_pairedWith (number : UInt32) : (pairedWith number).wallets = ["hero", villain] := by
  apply Lobby.wallets_of_sorted
  simp [pairedWith]

theorem distinct_pairedWith {number : UInt32} (other : number ≠ 0) :
    (pairedWith number).Distinct where
  numbers := by simpa [pairedWith] using other.symm
  wallets := by
    change ["hero", villain].Nodup
    decide +kernel

theorem deal_of_pairedWith (number : UInt32) :
    ∃ world next, Run .headsUp (opened 7) (lobbyTold 7 (pairedWith number)) world ∧
      Step .headsUp world (.moved 0 (.user (.dispatch (.start []))) none) next ∧
      next.session.table.handNumber ≠ world.session.table.handNumber ∧
      next.session.table.places = (pairedWith number).wallets.zipIdx := by
  have joined : (pairedWith number).opponentsOf "hero" = .ok [villain] := by
    rw [Lobby.opponentsOf, wallets_pairedWith, if_pos List.mem_cons_self]
    exact congrArg Except.ok (by decide +kernel)
  rcases @deal_of_lobby .headsUp _ _ _ rfl joined seatsFor_villain 7 with
    ⟨world, next, run, turn, counted, dealt⟩
  refine ⟨world, next, run, turn, counted, ?_⟩
  have seated : (pairedWith number).wallets ≠ [] := by
    rw [wallets_pairedWith]
    simp
  rw [dealt]
  exact Table.places_beginHand rfl _ _ seated _ _

/-- In a lobby with the seats 0 and 1 everyone keeps the number. -/
theorem seat_numbers_of_start_of_pair :
    ∃ log world next, Run .headsUp (opened 7) log world ∧
      Step .headsUp world (.moved 0 (.user (.dispatch (.start []))) none) next ∧
      next.session.table.handNumber ≠ world.session.table.handNumber ∧
      ∀ player ∈ next.session.table.players, player.NumberedBy (pairedWith 1) := by
  rcases deal_of_pairedWith 1 with ⟨world, next, run, turn, counted, _⟩
  rcases seat_numbers_of_start rfl run turn counted with ⟨lobby, _, _, heard, _, numbers⟩
  cases eq_of_heard_lobbyTold heard
  have dense : ∀ seat ∈ (pairedWith 1).seats, seat.seat.toNat < (pairedWith 1).seats.length := by
    simp [pairedWith]
  have kept := (numbers (distinct_pairedWith (by decide))).2.mpr dense
  exact ⟨_, world, next, run, turn, counted, kept⟩

/-- In a lobby with the seats 0 and 5 the villain is given the number 1, which is nobody's there. -/
theorem gap_shifts_seat_numbers :
    ¬∀ (settings : Settings) (session : Session) (log : List Event) (world next : World)
      (index : Nat) (exchange : Option Exchange), settings.mode.isSolo = false →
      Run settings { session } log world →
      Step settings world (.moved index (.user (.dispatch (.start []))) exchange) next →
      next.session.table.handNumber ≠ world.session.table.handNumber →
      ∃ lobby credentials lobbyTable,
        Heard log (.user (.dispatch (.start []))) (.coordinator credentials (.lobby lobbyTable))
          (.ok lobby) ∧
        (lobby.Distinct → ∀ player ∈ next.session.table.players, player.NumberedBy lobby) := by
  intro numbered
  rcases deal_of_pairedWith 5 with ⟨world, next, run, turn, counted, places⟩
  rcases numbered .headsUp (.opened 7) _ world next 0 none rfl run turn counted with
    ⟨lobby, _, _, heard, agrees⟩
  cases eq_of_heard_lobbyTold heard
  have distinct : (pairedWith 5).Distinct := distinct_pairedWith (by decide)
  have dense := (distinct.all_numberedBy_iff places).mp (agrees distinct)
  exact absurd (dense { seat := 5, chainAddress := villain } (by simp [pairedWith])) (by
    simp [pairedWith])

end World

end Holdem
