import Holdem.Proofs.Session.Schedule
import Holdem.Proofs.Session.Turns
import Holdem.Proofs.Table.Seats

/-!
# The seats of a deal

Outside a solo session a start either names its opponents or leaves it to the lobby who is dealt in.
What it then begins a hand with is known from what it was told: the opponents as they were checked,
or the wallets of a lobby, of which only the others were checked.
-/

namespace Holdem

namespace Settings

variable {told : (request : Request) → request.Answer → Prop} {tableId : UInt32}
  {opponents seats : List Address}

theorem Seats.ne_nil {settings : Settings} (given : settings.Seats told tableId opponents seats) :
    seats ≠ [] := by
  cases given with
  | named _ checked =>
    rcases seatsFor_eq_ok_iff.mp checked with ⟨_, _, eq⟩
    rw [eq]
    exact List.cons_ne_nil _ _
  | lobby _ _ _ _ joined _ =>
    intro none
    simp [Lobby.opponentsOf, none] at joined

end Settings

/-- A start counts a hand only by beginning one with seats that it can come to. -/
def starting (settings : Settings) (told : (request : Request) → request.Answer → Prop) (job : Job) :
    Discipline Table where
  invariant _ := True
  permits before after := ∀ opponents, job.intent? = some (.start opponents) →
    after.handNumber ≠ before.handNumber →
      ∃ tableId seats, settings.Seats told tableId opponents seats ∧
        after =
          before.beginHand settings.mode settings.hero seats settings.buyIn settings.soloStack
  permits_refl _ _ _ counted := absurd rfl counted
  mayBreak := True
  expects := told

/-- Outside a solo session a start deals only to seats that it can come to. -/
def seating (settings : Settings) (told : (request : Request) → request.Answer → Prop) (job : Job) :
    Discipline Table where
  invariant _ := True
  permits before after := ∀ opponents, job.intent? = some (.start opponents) →
    after.handNumber ≠ before.handNumber →
      ∃ tableId, settings.Seats told tableId opponents (after.players.map Player.address)
  permits_refl _ _ _ counted := absurd rfl counted
  mayBreak := True
  expects := told

namespace Settings

variable {told : (request : Request) → request.Answer → Prop}

theorem keeps_starting (settings : Settings) (job : Job) :
    (settings.procedure job).Keeps (starting settings told job).onTable := by
  by_cases starts : ∃ opponents, job.intent? = some (.start opponents)
  · rcases starts with ⟨opponents, dispatched⟩
    rw [Job.eq_of_intent? dispatched]
    apply Step.keeps_exclusively
    apply settings.keeps_perform
    intro asked _
    apply settings.keeps_start_of_seats
    · intro seats given table _
      refine ⟨trivial, ?_⟩
      rintro _ ⟨⟩ _
      exact ⟨asked.tableId, seats, given, rfl⟩
    · intro size transaction table _
      exact ⟨trivial, fun _ _ counted => absurd rfl counted⟩
    · intro cards _ _ table _
      exact ⟨trivial, fun _ _ counted => absurd rfl counted⟩
  · apply Procedure.keeps_of_permissive
    · exact fun _ => trivial
    · intro before after opponents dispatched
      exact absurd ⟨opponents, dispatched⟩ starts
    · trivial

theorem keeps_seating (settings : Settings) (shared : settings.mode.isSolo = false) (job : Job) :
    (settings.procedure job).Keeps (seating settings told job).onTable := by
  have kept : (settings.procedure job).Keeps (starting settings told job).onTable :=
    settings.keeps_starting job
  apply kept.mono
  · rfl
  · intro before after dealt opponents dispatched counted
    rcases dealt opponents dispatched counted with ⟨tableId, seats, given, same⟩
    refine ⟨tableId, ?_⟩
    rw [same, Table.addresses_beginHand shared before.table given.ne_nil]
    exact given
  · exact id
  · exact fun _ _ expected => expected

end Settings

namespace World

variable {settings : Settings} {tableId : UInt32} {log : List Event} {world next : World}

/-- Whether a job has heard an answer in the course of events. -/
def Heard (log : List Event) (job : Job) (request : Request) (answer : request.Answer) : Prop :=
  ∃ index, .moved index job (some ⟨request, answer⟩) ∈ log

/-- Outside a solo session, in every run, a hand that is begun is dealt to seats as they should be
when its opponents were named. Otherwise it is dealt to all the wallets of a lobby that the start
was told, and these are as they should be exactly when the hero has one seat there and the wallets
of the others come without blanks. -/
theorem seats_of_start (shared : settings.mode.isSolo = false)
    (run : Run settings (opened tableId) log world) {index : Nat} {opponents : List Address}
    {exchange : Option Exchange}
    (turn : Step settings world (.moved index (.user (.dispatch (.start opponents))) exchange) next)
    (counted : next.session.table.handNumber ≠ world.session.table.handNumber) :
    (opponents ≠ [] →
        WellSeated settings.mode settings.hero (next.session.table.players.map Player.address)) ∧
      (opponents = [] → ∃ lobby credentials lobbyTable,
        Heard log (.user (.dispatch (.start opponents)))
            (.coordinator credentials (.lobby lobbyTable)) (.ok lobby) ∧
          next.session.table.players.map Player.address = lobby.wallets ∧
          (WellSeated settings.mode settings.hero lobby.wallets ↔
            lobby.wallets.count settings.hero = 1 ∧
              ∀ wallet ∈ lobby.wallets, wallet ≠ settings.hero → Text.trim wallet = wallet)) := by
  let law (job : Job) : Discipline Session := (seating settings (Heard log job) job).onTable
  have same : ∀ job, (law job).invariant = fun _ => True := fun _ => rfl
  have expected : ∀ event ∈ log, Expected settings law event := by
    intro event member
    cases event with
    | begun job => exact settings.keeps_seating shared job
    | moved index job exchange =>
      rintro heard rfl
      exact ⟨index, member⟩
  rcases run.keeps_of_expected same expected trivial (keeps_opened tableId) with ⟨_, kept⟩
  rcases turn.keeps same trivial kept with ⟨⟨_, permitted⟩, _⟩
  rcases permitted opponents rfl counted with ⟨lobbyTable, given⟩
  generalize next.session.table.players.map Player.address = seats at given
  cases given with
  | named given checked =>
    refine ⟨fun _ => wellSeated_of_seatsFor checked, ?_⟩
    intro unnamed
    rw [shared] at given
    exact absurd unnamed (given.resolve_left (by decide))
  | lobby credentials _ unnamed told joined passed =>
    refine ⟨fun named => absurd unnamed named, ?_⟩
    intro _
    exact ⟨_, credentials, lobbyTable, told, rfl, wellSeated_wallets_iff joined passed⟩

/-! ## Lobbies -/

end World

section Lobby

variable {settings : Settings} {lobby : Lobby} {others checked : List Address}

theorem Settings.completes_lobby (settings : Settings) (tableId : UInt32) (lobby : Lobby)
    (state : Session) :
    (settings.call (.lobby tableId)).Completes state
      [some ⟨.coordinator none (.lobby tableId), Except.ok lobby⟩] lobby state :=
  (Step.completes_ask (.coordinator none (.lobby tableId)) (Except.ok lobby) state).bind
    (Step.completes_pure lobby state)

theorem Settings.completes_seats (shared : settings.mode.isSolo = false) (tableId : UInt32)
    (joined : lobby.opponentsOf settings.hero = .ok others)
    (passed : seatsFor settings.mode settings.hero others = .ok checked) (state : Session) :
    (settings.seats tableId []).Completes state
      [some ⟨.coordinator none (.lobby tableId), Except.ok lobby⟩] (lobby.wallets, []) state := by
  simp only [Settings.seats, shared, Bool.not_false, List.isEmpty_nil, Bool.and_self, ↓reduceIte]
  apply (settings.completes_lobby tableId lobby state).bind
  apply (Step.completes_require joined _ state).bind
  apply (Step.completes_require passed _ state).bind
  exact Step.completes_pure _ state

/-- A start that leaves it to the lobby who is dealt in can come to deal to all the wallets of one
whose others pass the check. -/
theorem Settings.turns_start_of_lobby (shared : settings.mode.isSolo = false)
    (joined : lobby.opponentsOf settings.hero = .ok others)
    (passed : seatsFor settings.mode settings.hero others = .ok checked) {state : Session}
    (free : state.busy = false) (boundary : state.table.phase.isHandBoundary) :
    ∃ rest last,
      (settings.dispatch (.start [])).run.Turns state
        [none, none, some ⟨.coordinator none (.lobby state.table.tableId), Except.ok lobby⟩] rest
        state.take.1 ∧
      rest.Turn state.take.1 none last (state.take.1.onTable fun table =>
        table.beginHand settings.mode settings.hero lobby.wallets settings.buyIn
          settings.soloStack) := by
  have check : (Intent.start []).check state.take.1.table settings.mode settings.hero = .ok () := by
    simp [Intent.check, Session.take, boundary]
  have seated :=
    Settings.completes_seats shared state.take.1.table.tableId joined passed state.take.1
  have started : (settings.start state.take.1.table.tableId []).run.Turns _ _ _ _ :=
    seated.bind (.refl _ state.take.1)
  have performed : (settings.perform (.start [])).run.Turns _ _ _ _ :=
    (Step.completes_table state.take.1).bind
      ((Step.completes_require check .intent state.take.1).bind started)
  exact ⟨_, _, Step.turns_exclusively free performed, .bind (.update _ _ _) Step.release⟩

theorem Lobby.wallets_ne_nil (joined : lobby.opponentsOf settings.hero = .ok others) :
    lobby.wallets ≠ [] := by
  intro none
  simp [opponentsOf, none] at joined

namespace World

/-- What happens to a session that has just been opened until a start has been told a lobby. -/
def lobbyTold (tableId : UInt32) (lobby : Lobby) : List Event :=
  let start : Job := .user (.dispatch (.start []))
  [.begun start, .moved 0 start none, .moved 0 start none,
    .moved 0 start (some ⟨.coordinator none (.lobby tableId), Except.ok lobby⟩)]

theorem deal_of_lobby (shared : settings.mode.isSolo = false)
    (joined : lobby.opponentsOf settings.hero = .ok others)
    (passed : seatsFor settings.mode settings.hero others = .ok checked) (tableId : UInt32) :
    ∃ world next, Run settings (opened tableId) (lobbyTold tableId lobby) world ∧
      Step settings world (.moved 0 (.user (.dispatch (.start []))) none) next ∧
      next.session.table.handNumber ≠ world.session.table.handNumber ∧
      next.session.table = world.session.table.beginHand settings.mode settings.hero lobby.wallets
        settings.buyIn settings.soloStack := by
  have turns := @Settings.turns_start_of_lobby settings lobby _ _ shared joined passed
    (.opened tableId) rfl rfl
  rcases turns with ⟨rest, _, turns, turn⟩
  rcases exists_run_of_dispatch turns with ⟨world, run, underWay, next, reached⟩
  rw [← reached] at turn
  refine ⟨world, _, run, .move underWay next turn, ?_, rfl⟩
  rcases world.session.table.beginHand_frame settings.mode settings.hero lobby.wallets
    settings.buyIn settings.soloStack with ⟨players, eq⟩
  simp [afterTurn, Session.onTable, eq, Table.clearedForHand]

/-- In a session that has just been opened, all the wallets of a lobby whose others pass the check
can be dealt in. -/
theorem exists_deal_of_lobby (shared : settings.mode.isSolo = false)
    (joined : lobby.opponentsOf settings.hero = .ok others)
    (passed : seatsFor settings.mode settings.hero others = .ok checked) (tableId : UInt32) :
    ∃ log world next, Run settings (opened tableId) log world ∧
      Step settings world (.moved 0 (.user (.dispatch (.start []))) none) next ∧
      next.session.table.handNumber ≠ world.session.table.handNumber ∧
      next.session.table.players.map Player.address = lobby.wallets := by
  rcases deal_of_lobby shared joined passed tableId with ⟨world, next, run, turn, counted, dealt⟩
  refine ⟨_, world, next, run, turn, counted, ?_⟩
  rw [dealt]
  exact Table.addresses_beginHand shared _ (Lobby.wallets_ne_nil joined) _ _

end World

end Lobby

/-! ## The hero twice in a lobby -/

/-- The wallets of a lobby whose seats come in their order. -/
theorem Lobby.wallets_of_sorted {lobby : Lobby}
    (sorted : lobby.seats.Pairwise fun first second => decide (first.seat ≤ second.seat)) :
    lobby.wallets = lobby.seats.map LobbySeat.wallet := by
  rw [wallets, List.mergeSort_of_pairwise sorted]

def villain : Address := "GA7QYNF7SOWQ3GLR2BGMZEHXAVIRZA4KVWLTJJFC7MGXUA74P7UJVSGZ"

theorem isAccountAddress_villain : isAccountAddress villain := by
  decide +kernel

theorem seatsFor_villain : seatsFor .headsup "hero" [villain] = .ok ["hero", villain] := by
  have trimmed : [villain].map Text.trim = [villain] := by
    rw [List.map_singleton, trim_of_isAccountAddress isAccountAddress_villain]
  rw [seatsFor_eq_ok_iff, trimmed]
  refine ⟨by decide, ⟨by simp, ?_⟩, rfl⟩
  intro opponent member
  rw [List.mem_singleton.mp member]
  exact ⟨by decide +kernel, isAccountAddress_villain⟩

/-- A lobby in which the hero and the villain have seats. -/
def gathered (heroSeats : List LobbySeat) : Lobby where
  tableId := 7
  phase := "Waiting"
  maxPlayers := 2
  seats := heroSeats ++ [{ seat := 5, chainAddress := villain }]
  joinedWallets := 2

namespace World

/-- In a lobby with one seat for the hero and one for the villain each is dealt in once. -/
theorem seats_of_start_of_lobby :
    ∃ log world next, Run .headsUp (opened 7) log world ∧
      Step .headsUp world (.moved 0 (.user (.dispatch (.start []))) none) next ∧
      next.session.table.players.map Player.address = ["hero", villain] ∧
      WellSeated .headsup "hero" (next.session.table.players.map Player.address) := by
  have wallets : (gathered [{ seat := 0, chainAddress := "hero" }]).wallets = ["hero", villain] :=
    Lobby.wallets_of_sorted (by decide)
  have joined : (gathered [{ seat := 0, chainAddress := "hero" }]).opponentsOf "hero" =
      .ok [villain] := by
    rw [Lobby.opponentsOf, wallets, if_pos List.mem_cons_self]
    exact congrArg Except.ok (by decide +kernel)
  rcases @exists_deal_of_lobby .headsUp _ _ _ rfl joined seatsFor_villain 7 with
    ⟨log, world, next, run, turn, counted, seats⟩
  rw [wallets] at seats
  rcases (seats_of_start rfl run turn counted).2 rfl with ⟨lobby, _, _, _, dealt, seated⟩
  rw [seats] at dealt
  refine ⟨log, world, next, run, turn, seats, ?_⟩
  rw [seats, dealt]
  apply seated.mpr
  rw [← dealt]
  refine ⟨by decide +kernel, ?_⟩
  intro wallet member other
  rcases List.mem_cons.mp member with hero | listed
  · exact absurd hero other
  · rw [List.mem_singleton.mp listed, trim_of_isAccountAddress isAccountAddress_villain]

/-- A lobby in which the hero has two seats gets the hero dealt in twice. -/
theorem hero_dealt_twice :
    ¬∀ (settings : Settings) (tableId : UInt32) (log : List Event) (world next : World)
      (index : Nat) (opponents : List Address) (exchange : Option Exchange),
      settings.mode.isSolo = false → Run settings (opened tableId) log world →
      Step settings world (.moved index (.user (.dispatch (.start opponents))) exchange) next →
      next.session.table.handNumber ≠ world.session.table.handNumber →
      WellSeated settings.mode settings.hero (next.session.table.players.map Player.address) := by
  intro seated
  let lobby :=
    gathered [{ seat := 0, chainAddress := "hero" }, { seat := 1, chainAddress := "hero" }]
  have wallets : lobby.wallets = ["hero", "hero", villain] := Lobby.wallets_of_sorted (by decide)
  have joined : lobby.opponentsOf "hero" = .ok [villain] := by
    rw [Lobby.opponentsOf, wallets, if_pos List.mem_cons_self]
    exact congrArg Except.ok (by decide +kernel)
  rcases @exists_deal_of_lobby .headsUp _ _ _ rfl joined seatsFor_villain 7 with
    ⟨log, world, next, run, turn, counted, seats⟩
  have once := (seated .headsUp 7 log world next 0 [] none rfl run turn counted).heroOnce
  rw [seats, wallets] at once
  exact absurd once (by decide +kernel)

end World

end Holdem
