import Holdem.Proofs.Session.World
import Holdem.Proofs.Table.Secrets

/-!
# Operations of a run

Every turn of a job does one operation to the snapshot or leaves it alone, and here is the list of
them, each with the jobs that can do it. What no operation breaks no run breaks, from whatever
snapshot it starts, and however failed, late and repeated answers bring the operations about.
-/

namespace Holdem

/-- What a turn of a job can make of a snapshot. -/
inductive Operation (settings : Settings) (job : Job) (table : Table) : Table → Prop
  | leave : Operation settings job table table
  | hash (hash : String) :
    Operation settings job table { table with lastTransaction := some hash }
  | proof (size : Nat) (transaction : Option String) :
    Operation settings job table (table.noteProof size transaction)
  | begin (deals : job.deals) (seats : List Address) :
    Operation settings job table
      (table.beginHand settings.mode settings.hero seats settings.buyIn settings.soloStack)
  | store (deals : job.deals) (cards : Card × Card) :
    Operation settings job table (table.storeHole settings.hero cards)
  | seat (joins : job.joins) (shared : settings.mode.isSolo = false) (seat : Nat) (buyIn : Chips) :
    Operation settings job table (table.takeSeat settings.hero seat buyIn)
  | street (street : Street) (cards : List Card) (size : Nat) (transaction : Option String) :
    Operation settings job table (table.showStreet street cards size transaction)
  | decision (winner : Address) (size : Nat) (transaction : Option String) :
    Operation settings job table
      (table.decide settings.mode settings.arithmetic winner size transaction)
  | accepted {action : Action} {transaction : Option String} {after : Table}
    (applied : table.applyAccepted? settings.arithmetic settings.hero action transaction =
      some after) :
    Operation settings job table after
  | opening {action : Action} {after : Table} {stand : Address ⊕ (Address × Table)}
    (opened : settings.openSoloBet action table = some (after, stand)) :
    Operation settings job table after
  | closing {opponent : Address} {reply : Action} {after : Table} {stand : Settings.SoloStand}
    (closed : settings.closeSoloBet opponent reply table = some (after, stand)) :
    Operation settings job table after
  | turn (turns : job.turnsTable) (tableId : UInt32) :
    Operation settings job table (.opened tableId)
  | merge (polls : job.polls) (raw : String) (poll : Poll) (read : Poll.ofText? raw = some poll) :
    Operation settings job table (table.merge settings.mode poll).1

namespace Job

theorem not_polls_of_deals {job : Job} (deals : job.deals) : ¬job.polls := by
  rcases exists_start_of_deals deals with ⟨opponents, rfl⟩
  simp [polls]

theorem not_polls_of_turnsTable {job : Job} (turns : job.turnsTable) : ¬job.polls := by
  rcases job with _ | _
  · simp [polls]
  · exact absurd turns (by simp [turnsTable])

theorem not_turnsTable_of_deals {job : Job} (deals : job.deals) : ¬job.turnsTable := by
  rcases exists_start_of_deals deals with ⟨opponents, rfl⟩
  simp [turnsTable]

end Job

/-! ## What an operation leaves alone -/

namespace Settings

variable {settings : Settings} {table after : Table} {image : Player → β}

theorem map_openSoloBet_of_lasting (lasting : Player.Lasting image) {action : Action}
    {stand : Address ⊕ (Address × Table)}
    (opened : settings.openSoloBet action table = some (after, stand)) :
    after.players.map image = table.players.map image := by
  rcases openSoloBet_cases opened with ⟨acted, moved, acts, shape⟩
  have same : acted.markUnconfirmed.players.map image = table.players.map image := by
    rw [← Table.map_act?_of_lasting lasting acts]
    rfl
  rcases shape with rfl | ⟨winner, rfl⟩
  · exact same
  · exact (Table.map_settle_of_lasting lasting acted.markUnconfirmed winner).trans same

theorem map_closeSoloBet_of_lasting (lasting : Player.Lasting image) {opponent : Address}
    {reply : Action} {stand : SoloStand}
    (closed : settings.closeSoloBet opponent reply table = some (after, stand)) :
    after.players.map image = table.players.map image := by
  rcases closeSoloBet_cases closed with ⟨acted, moved, acts, rfl | ⟨winner, rfl⟩⟩
  · exact Table.map_act?_of_lasting lasting acts
  · exact (Table.map_settle_of_lasting lasting acted winner).trans
      (Table.map_act?_of_lasting lasting acts)

end Settings

/-- An action within a hand leaves the count of hands and the private cards alone; a hero who takes
a seat has none. -/
structure Table.Plays (hero : Address) (before after : Table) : Prop where
  handNumber : after.handNumber = before.handNumber
  secrets : after.secrets = before.secrets ∨
    before.isSeated hero = false ∧ after.secrets.Perm ((hero, none) :: before.secrets)

namespace Operation

variable {settings : Settings} {job : Job} {before after : Table}

theorem plays_act? {address : Address} {action : Action} {moved : Chips}
    (acts : before.act? settings.arithmetic address action = some (after, moved)) :
    before.Plays settings.hero after where
  handNumber := by rw [Table.act?_frame acts]
  secrets := .inl (Table.secrets_act? acts)

/-- An operation is an action within a hand, unless it begins a hand, stores cards, turns to a table
or merges a poll. -/
theorem plays_or (operation : Operation settings job before after) :
    before.Plays settings.hero after ∨
      (job.deals ∧ ∃ seats, after =
        before.beginHand settings.mode settings.hero seats settings.buyIn settings.soloStack) ∨
      (job.deals ∧ ∃ cards, after = before.storeHole settings.hero cards) ∨
      (job.turnsTable ∧ ∃ tableId, after = .opened tableId) ∨
      (job.polls ∧ ∃ raw poll, Poll.ofText? raw = some poll ∧
        after = (before.merge settings.mode poll).1) := by
  have settled : ∀ {acted : Table} (winner : Address), before.Plays settings.hero acted →
      before.Plays settings.hero (acted.settle settings.arithmetic winner) := by
    intro acted winner plays
    refine ⟨(acted.settle_handNumber winner).trans plays.handNumber, ?_⟩
    rw [acted.secrets_settle winner]
    exact plays.secrets
  cases operation with
  | begin deals seats => exact .inr (.inl ⟨deals, seats, rfl⟩)
  | store deals cards => exact .inr (.inr (.inl ⟨deals, cards, rfl⟩))
  | turn turns tableId => exact .inr (.inr (.inr (.inl ⟨turns, tableId, rfl⟩)))
  | merge polls raw poll read => exact .inr (.inr (.inr (.inr ⟨polls, raw, poll, read, rfl⟩)))
  | leave | hash | proof => exact .inl ⟨rfl, .inl rfl⟩
  | seat _ _ seat buyIn =>
    refine .inl ⟨?_, before.secrets_takeSeat settings.hero seat buyIn⟩
    rcases before.takeSeat_frame settings.hero seat buyIn with ⟨players, eq⟩
    rw [eq]
  | street street cards size transaction =>
    refine .inl ⟨?_, .inl ?_⟩
    · exact (before.showStreet_frame street cards size transaction).2
    · exact before.secrets_showStreet street cards size transaction
  | decision winner size transaction =>
    left
    simp only [Table.decide]
    split
    · have plays := settled winner ⟨rfl, .inl rfl⟩
      exact ⟨plays.handNumber, plays.secrets⟩
    · exact ⟨rfl, .inl rfl⟩
  | accepted applied =>
    rcases Table.applyAccepted?_cases applied with ⟨acted, moved, acts, rfl⟩
    have plays : before.Plays settings.hero acted := plays_act? acts
    exact .inl ⟨plays.handNumber, plays.secrets⟩
  | opening opened =>
    rcases Settings.openSoloBet_cases opened with ⟨acted, moved, acts, shape⟩
    have plays : before.Plays settings.hero acted := plays_act? acts
    have unconfirmed : before.Plays settings.hero acted.markUnconfirmed :=
      ⟨plays.handNumber, plays.secrets⟩
    rcases shape with rfl | ⟨winner, rfl⟩
    · exact .inl unconfirmed
    · exact .inl (settled winner unconfirmed)
  | closing closed =>
    rcases Settings.closeSoloBet_cases closed with ⟨acted, moved, acts, shape⟩
    have plays : before.Plays settings.hero acted := plays_act? acts
    rcases shape with rfl | ⟨winner, rfl⟩
    · exact .inl plays
    · exact .inl (settled winner plays)

/-- A dealing job that counts a hand begins it. -/
theorem begins_of_counted (operation : Operation settings job before after) (deals : job.deals)
    (counted : after.handNumber ≠ before.handNumber) :
    ∃ seats, after =
      before.beginHand settings.mode settings.hero seats settings.buyIn settings.soloStack := by
  rcases operation.plays_or with
    plays | ⟨_, begins⟩ | ⟨_, cards, rfl⟩ | ⟨turns, _⟩ | ⟨polls, _⟩
  · exact absurd plays.handNumber counted
  · exact begins
  · exact absurd rfl counted
  · exact absurd turns (Job.not_turnsTable_of_deals deals)
  · exact absurd polls (Job.not_polls_of_deals deals)

/-- Only a job that turns to a table leaves the table. -/
theorem tableId (operation : Operation settings job before after) (stays : ¬job.turnsTable) :
    after.tableId = before.tableId := by
  have played : ∀ {address : Address} {action : Action} {acted : Table} {moved : Chips},
      before.act? settings.arithmetic address action = some (acted, moved) →
        acted.tableId = before.tableId := by
    intro address action acted moved acts
    rw [Table.act?_frame acts]
  cases operation with
  | leave | hash | proof | store => rfl
  | turn turns => exact absurd turns stays
  | merge _ _ poll => exact before.merge_tableId settings.mode poll
  | begin deals seats => exact before.beginHand_tableId settings.mode settings.hero seats _ _
  | seat _ _ seat buyIn => exact before.takeSeat_tableId settings.hero seat buyIn
  | street street cards size transaction =>
    exact (before.showStreet_frame street cards size transaction).1
  | decision winner =>
    simp only [Table.decide]
    split
    · exact before.settle_tableId winner
    · rfl
  | accepted applied =>
    rcases Table.applyAccepted?_cases applied with ⟨acted, moved, acts, rfl⟩
    have same := played acts
    exact same
  | opening opened =>
    rcases Settings.openSoloBet_cases opened with ⟨acted, moved, acts, rfl | ⟨winner, rfl⟩⟩
    · have same := played acts
      exact same
    · have same := played acts
      exact (acted.markUnconfirmed.settle_tableId winner).trans same
  | closing closed =>
    rcases Settings.closeSoloBet_cases closed with ⟨acted, moved, acts, rfl | ⟨winner, rfl⟩⟩
    · exact played acts
    · exact (acted.settle_tableId winner).trans (played acts)

end Operation

/-! ## Jobs -/

/-- The discipline of doing one operation at a time. -/
def operating (settings : Settings) (job : Job) : Discipline Table where
  invariant _ := True
  permits := Operation settings job
  permits_refl _ := .leave
  mayBreak := True

section Jobs

variable {settings : Settings} {job : Job}

/-- Nobody joins a solo table. -/
theorem isSolo_of_join {buyIn : Option Chips} {table : Table} {mode : PlayMode} {hero : Address}
    (passed : (Intent.join buyIn).check table mode hero = .ok ()) : mode.isSolo = false := by
  simp only [Intent.check] at passed
  split at passed
  · exact absurd passed (by simp)
  · split at passed
    · exact absurd passed (by simp)
    · rename_i shared
      simpa using shared

theorem operating_admits {change : Table → Table}
    (operates : ∀ table, Operation settings job table (change table)) :
    (operating settings job).Admits change :=
  fun table _ => ⟨trivial, operates table⟩

theorem operating_admitsPartial {change : Table → Option (Table × α)}
    (operates : ∀ {table after result}, change table = some (after, result) →
      Operation settings job table after) : (operating settings job).AdmitsPartial change := by
  intro table _
  rcases changed : change table with _ | ⟨after, result⟩
  · trivial
  · exact ⟨trivial, operates changed⟩

theorem operating_street (street : Street) (cards : List Card) (size : Nat)
    (transaction : Option String) :
    (operating settings job).Admits fun table => table.showStreet street cards size transaction :=
  operating_admits fun _ => .street street cards size transaction

theorem operating_decision (winner : Address) (size : Nat) (transaction : Option String) :
    (operating settings job).Admits fun table =>
      table.decide settings.mode settings.arithmetic winner size transaction :=
  operating_admits fun _ => .decision winner size transaction

theorem operating_accepted (action : Action) (transaction : Option String) :
    (operating settings job).AdmitsPartial fun table =>
      (table.applyAccepted? settings.arithmetic settings.hero action transaction).map
        fun table => (table, ()) :=
  operating_admitsPartial fun applied => .accepted (Table.applyAccepted?_of_map applied)

theorem Settings.keeps_operating (settings : Settings) (job : Job) :
    (settings.procedure job).Keeps (operating settings job).onTable := by
  rcases job with (intent | body | tableId) | _
  · apply Step.keeps_exclusively
    apply settings.keeps_perform
    intro table passed
    cases intent with
    | start opponents =>
      apply settings.keeps_start
      · exact fun seats => operating_admits fun _ => .begin rfl seats
      · exact fun size transaction => operating_admits fun _ => .proof size transaction
      · exact fun cards _ _ => operating_admits fun _ => .store rfl cards
    | join buyIn =>
      apply settings.keeps_join
      · exact fun hash => operating_admits fun _ => .hash hash
      · intro seat
        apply operating_admits
        intro _
        exact .seat rfl (isSolo_of_join passed) seat _
    | bet action =>
      simp only [Settings.carryOut]
      split
      · apply settings.keeps_betSolo
        · exact operating_admitsPartial fun opened => .opening opened
        · exact fun _ _ => operating_admitsPartial fun closed => .closing closed
        · exact fun street cards size transaction _ => operating_street street cards size transaction
        · exact operating_decision
      · exact settings.keeps_betOnChain _ action (operating_accepted action)
    | reveal street =>
      apply settings.keeps_reveal
      exact fun cards size transaction _ => operating_street street cards size transaction
    | showdown => exact settings.keeps_showdown _ operating_decision
  · apply Step.keeps_exclusively
    exact settings.keeps_openTable body fun tableId => operating_admits fun _ => .turn rfl tableId
  · apply Step.keeps_exclusively
    exact Step.keeps_change (operating_admits fun _ => .turn rfl tableId)
  · apply settings.keeps_poll
    intro _ reply poll _ read
    exact operating_admits fun _ => .merge rfl reply.state poll read

end Jobs

namespace World

variable {settings : Settings} {session : Session} {log : List Event} {before after : World}
  {event : Event}

theorem operating_of_step (run : Run settings { session } log before)
    (step : Step settings before event after) :
    Permitted (fun job => (operating settings job).onTable) before.session after.session event := by
  have shared : ∀ job : Job, (operating settings job).onTable.invariant = fun _ => True :=
    fun _ => rfl
  have nothing : World.Keeps (fun job => (operating settings job).onTable) { session } :=
    fun _ member => absurd member List.not_mem_nil
  rcases run.keeps shared settings.keeps_operating trivial nothing with ⟨_, kept⟩
  exact (step.keeps shared trivial kept).1.2

/-- In a run from any session, each step in which a job takes its turn does an operation of that job
to the snapshot. -/
theorem operation_of_move (run : Run settings { session } log before) {index : Nat} {job : Job}
    {exchange : Option Exchange} (step : Step settings before (.moved index job exchange) after) :
    Operation settings job before.session.table after.session.table :=
  operating_of_step run step

/-- In a run from any session, each step leaves the snapshot alone or does an operation of a job that
takes its turn. -/
theorem operation_of_step (run : Run settings { session } log before)
    (step : Step settings before event after) :
    after.session.table = before.session.table ∨
      ∃ index job exchange, event = .moved index job exchange ∧
        Operation settings job before.session.table after.session.table := by
  have permitted := operating_of_step run step
  cases event with
  | begun job => exact .inl (congrArg Session.table permitted)
  | moved index job exchange => exact .inr ⟨index, job, exchange, rfl, permitted⟩

end World

end Holdem
