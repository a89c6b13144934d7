import Holdem.Proofs.Session.Schedule
import Holdem.Proofs.Table.Hand
import Holdem.Proofs.Table.Lawful

/-!
# Lawful sessions

Every snapshot that a session can come to is lawful, whatever the coordinator, the ledger and the
opponent answer and whenever polls are merged. Of the settings it asks that the stacks that are
handed out are no debts and that chips are exact.

Hands are counted upwards as long as the session stays at its table. Turning to a table forgets the
count, also when it is the table at which the session already is. The hand after the one with the
largest number begins the count again.
-/

namespace Holdem

/-! ## Polled boards -/

namespace Poll

theorem isValid_of_card? {json : Json} {card : Card} (read : card? json = some card) :
    card.isValid := by
  unfold card? at read
  rw [Option.bind_eq_some_iff] at read
  rcases read with ⟨code, _, valid⟩
  dsimp only at valid
  split at valid
  · rename_i isValid
    rw [← Option.some.inj valid]
    exact isValid
  · exact absurd valid (by simp)

/-- A board is read only when all of its cards exist. -/
theorem isValid_of_board? {json : Json} {cards : List Card} (read : board? json = some cards) :
    ∀ card ∈ cards, card.isValid := by
  simp only [board?] at read
  rw [Option.bind_eq_some_iff] at read
  rcases read with ⟨items, itemsRead, cardsRead⟩
  clear itemsRead
  induction items generalizing cards with
  | nil =>
    intro card member
    rw [List.mapM_nil, Option.pure_def, Option.some.injEq] at cardsRead
    rw [← cardsRead] at member
    exact absurd member List.not_mem_nil
  | cons item items hypothesis =>
    rw [List.mapM_cons, Option.bind_eq_bind, Option.bind_eq_some_iff] at cardsRead
    rcases cardsRead with ⟨first, firstRead, restRead⟩
    rw [Option.bind_eq_bind, Option.bind_eq_some_iff] at restRead
    rcases restRead with ⟨rest, restRead, joined⟩
    rw [Option.pure_def, Option.some.injEq] at joined
    intro card member
    rw [← joined] at member
    rcases List.mem_cons.mp member with rfl | later
    · exact isValid_of_card? firstRead
    · exact hypothesis restRead card later

theorem isValid_of_ofText? {raw : String} {poll : Poll} (read : ofText? raw = some poll) :
    ∀ cards, poll.board = some cards → ∀ card ∈ cards, card.isValid := by
  simp only [ofText?] at read
  rw [Option.bind_eq_some_iff] at read
  rcases read with ⟨json, _, membersRead⟩
  rw [Option.map_eq_some_iff] at membersRead
  rcases membersRead with ⟨members, _, rfl⟩
  intro cards boardRead
  rcases Option.bind_eq_some_iff.mp boardRead with ⟨board, _, cardsRead⟩
  exact isValid_of_board? cardsRead

end Poll

/-! ## Counting hands -/

namespace Table

/-- A deal counts one hand. -/
theorem beginHand_handNumber (table : Table) (mode : PlayMode) (hero : Address)
    (seats : List Address) (buyIn soloStack : Chips) :
    (table.beginHand mode hero seats buyIn soloStack).handNumber = table.handNumber + 1 := by
  rcases table.beginHand_frame mode hero seats buyIn soloStack with ⟨players, eq⟩
  rw [eq]
  rfl

end Table

/-! ## The discipline -/

/-- Snapshots stay lawful. A job that turns to a table may set any hand number; others raise it or
leave it, and those that deal may also count one hand. No job breaks off. -/
def lawfulCounting (job : Job) : Discipline Table where
  invariant := Table.Lawful
  permits before after := job.turnsTable ∨
    (job.deals ∧ after.handNumber = before.handNumber + 1) ∨ before.handNumber ≤ after.handNumber
  permits_refl table := .inr (.inr (UInt32.le_refl table.handNumber))

theorem lawfulCounting_admits {job : Job} {change : Table → Table}
    (keeps : ∀ table : Table, table.Lawful → (change table).Lawful)
    (counts : ∀ table, (change table).handNumber = table.handNumber) :
    (lawfulCounting job).Admits change := by
  intro table lawful
  exact ⟨keeps table lawful, .inr (.inr (UInt32.le_of_eq (counts table).symm))⟩

theorem lawfulCounting_admitsPartial {job : Job} {change : Table → Option (Table × α)}
    (keeps : ∀ table : Table, table.Lawful → ∃ after result,
      change table = some (after, result) ∧ after.Lawful ∧
        after.handNumber = table.handNumber) :
    (lawfulCounting job).AdmitsPartial change := by
  intro table lawful
  rcases keeps table lawful with ⟨after, result, changed, afterLawful, count⟩
  rw [changed]
  exact ⟨afterLawful, .inr (.inr (UInt32.le_of_eq count.symm))⟩

variable {settings : Settings} {job : Job}

/-- A solo bet of the hero is defined on a lawful snapshot, and leaves it lawful. -/
theorem lawfulCounting_openSoloBet (exact : settings.arithmetic = .exact) (action : Action) :
    (lawfulCounting job).AdmitsPartial (settings.openSoloBet action) := by
  apply lawfulCounting_admitsPartial
  intro table lawful
  rcases lawful.act? settings.hero action with ⟨acted, moved, acts, actedLawful, count⟩
  rw [← exact] at acts
  rcases Settings.exists_openSoloBet acts with ⟨after, stand, opened, shape⟩
  refine ⟨after, stand, opened, ?_⟩
  rcases shape with rfl | ⟨winner, rfl⟩
  · exact ⟨actedLawful.markUnconfirmed, count⟩
  · rw [exact, Table.settle_handNumber]
    exact ⟨actedLawful.markUnconfirmed.settle winner, count⟩

theorem lawfulCounting_closeSoloBet (exact : settings.arithmetic = .exact) (opponent : Address)
    (reply : Action) :
    (lawfulCounting job).AdmitsPartial (settings.closeSoloBet opponent reply) := by
  apply lawfulCounting_admitsPartial
  intro table lawful
  rcases lawful.act? opponent reply with ⟨acted, moved, acts, actedLawful, count⟩
  rw [← exact] at acts
  rcases Settings.exists_closeSoloBet acts with ⟨after, stand, closed, shape⟩
  refine ⟨after, stand, closed, ?_⟩
  rcases shape with rfl | ⟨winner, rfl⟩
  · exact ⟨actedLawful, count⟩
  · rw [exact, Table.settle_handNumber]
    exact ⟨actedLawful.settle winner, count⟩

theorem lawfulCounting_applyAccepted (address : Address) (action : Action)
    (transaction : Option String) :
    (lawfulCounting job).AdmitsPartial fun table =>
      (table.applyAccepted? .exact address action transaction).map fun table => (table, ()) := by
  apply lawfulCounting_admitsPartial
  intro table lawful
  rcases lawful.act? address action with ⟨acted, moved, acts, actedLawful, count⟩
  have noted : (acted.noteTransaction transaction).Lawful :=
    ⟨⟨actedLawful.pot, actedLawful.board, actedLawful.players⟩, actedLawful.fits⟩
  refine ⟨(acted.noteTransaction transaction).markUnconfirmed, (), ?_, noted.markUnconfirmed, count⟩
  simp only [Table.applyAccepted?, acts, Option.map_some]

/-- Every operation of a session with exact chips keeps snapshots lawful. -/
theorem lawfulCounting_admission (exact : settings.arithmetic = .exact)
    (solvent : 0 < settings.buyIn) : (lawfulCounting job).Admission settings where
  hash hash := by
    apply lawfulCounting_admits
    · intro table lawful
      exact ⟨⟨lawful.pot, lawful.board, lawful.players⟩, lawful.fits⟩
    · intro table
      rfl
  proof size transaction := by
    apply lawfulCounting_admits
    · intro table lawful
      exact lawful.noteProof size transaction
    · intro table
      rfl
  hole cards first second := by
    apply lawfulCounting_admits
    · intro table lawful
      exact lawful.storeHole settings.hero ⟨first, second⟩
    · intro table
      rfl
  seat buyIn checked passed seat := by
    have positive : 0 ≤ buyIn.getD settings.buyIn := by
      rcases buyIn with _ | amount
      · exact Int.le_of_lt solvent
      · by_cases bad : amount ≤ 0
        · simp [Intent.check, Intent.isBadAmount, bad] at passed
        · simp only [Option.getD_some]
          lia
    apply lawfulCounting_admits
    · intro table lawful
      exact lawful.takeSeat settings.hero seat positive
    · intro table
      unfold Table.takeSeat
      dsimp only
      split <;> rfl
  street street cards size transaction valid := by
    apply lawfulCounting_admits
    · intro table lawful
      exact lawful.showStreet street valid size transaction
    · intro table
      unfold Table.showStreet
      dsimp only
      split <;> split <;> rfl
  decision winner size transaction := by
    rw [exact]
    apply lawfulCounting_admits
    · intro table lawful
      exact lawful.decide settings.mode winner size transaction
    · intro table
      simp only [Table.decide]
      split
      · exact table.settle_handNumber winner
      · rfl
  accepted action transaction := by
    rw [exact]
    exact lawfulCounting_applyAccepted settings.hero action transaction
  opening := lawfulCounting_openSoloBet exact
  closing := lawfulCounting_closeSoloBet exact

theorem lawfulCounting_merge (mode : PlayMode) {raw : String} {poll : Poll}
    (read : Poll.ofText? raw = some poll) :
    (lawfulCounting job).Admits fun table => (table.merge mode poll).1 := by
  intro table lawful
  exact ⟨lawful.merge mode (Poll.isValid_of_ofText? read),
    .inr (.inr (table.handNumber_le_merge mode poll))⟩

/-- Every job keeps snapshots lawful, counts one hand at most and never breaks off. -/
theorem Settings.keeps_lawfulCounting (settings : Settings) (exact : settings.arithmetic = .exact)
    (solvent : 0 < settings.buyIn) (solventSolo : 0 < settings.soloStack) (job : Job) :
    (settings.procedure job).Keeps (lawfulCounting job).onTable := by
  apply settings.keeps_procedure job (lawfulCounting_admission exact solvent)
  · intro deals seats table lawful
    refine ⟨?_, .inr (.inl ⟨deals, ?_⟩)⟩
    · exact lawful.beginHand settings.mode settings.hero seats (Int.le_of_lt solvent)
        (Int.le_of_lt solventSolo)
    · exact table.beginHand_handNumber ..
  · intro turns tableId table lawful
    exact ⟨Table.lawful_opened tableId, .inl turns⟩
  · intro _ raw poll read
    exact lawfulCounting_merge settings.mode read

/-! ## Runs -/

namespace World

variable {settings : Settings} {tableId : UInt32} {log : List Event} {world next : World}
  {event : Event}

/-- A step in which nobody turns to a table, and no hand is begun when the count is at the largest
number. -/
def CountsOn (settings : Settings) (before : World) (event : Event) (after : World) : Prop :=
  Without settings Job.turnsTable before event after ∧
    ∀ index job exchange, event = .moved index job exchange → job.deals →
      before.session.table.handNumber = 4294967295 →
      after.session.table.handNumber = before.session.table.handNumber

theorem CountsOn.handNumber_le (step : CountsOn settings world event next)
    (lawful : world.session.table.Lawful)
    (kept : world.Keeps fun job => (lawfulCounting job).onTable) :
    world.session.table.handNumber ≤ next.session.table.handNumber := by
  rcases step with ⟨⟨taken, staying⟩, unfinished⟩
  have shared : ∀ job : Job, (lawfulCounting job).onTable.invariant =
      fun session => session.table.Lawful := fun _ => rfl
  have permitted := (taken.keeps shared lawful kept).1.2
  cases event with
  | begun job =>
    rw [show next.session = world.session from permitted]
    exact UInt32.le_refl _
  | moved index job exchange =>
    rcases permitted with turns | ⟨deals, count⟩ | raised
    · rw [staying index job exchange rfl turns]
      exact UInt32.le_refl _
    · have below := unfinished index job exchange rfl deals
      lia
    · exact raised

/-- From a session that has just turned to a table, every run comes to a lawful snapshot: the board
fits the phase, all cards exist and no amount is below zero. Nothing that is under way has broken
off, so no bet was ever taken from a stack below zero; and from there on the hands are counted
upwards until a job turns to a table or the numbers are used up. -/
theorem run_lawful (exact : settings.arithmetic = .exact) (solvent : 0 < settings.buyIn)
    (solventSolo : 0 < settings.soloStack) (run : Run settings (opened tableId) log world) :
    world.session.table.Lawful ∧ (∀ running ∈ world.running, running.rest ≠ .stuck) ∧
      ∀ later next, Path (CountsOn settings) world later next →
        world.session.table.handNumber ≤ next.session.table.handNumber := by
  have jobs := settings.keeps_lawfulCounting exact solvent solventSolo
  have shared : ∀ job : Job, (lawfulCounting job).onTable.invariant =
      fun session => session.table.Lawful := fun _ => rfl
  have keeps {log : List Event} {world : World} (run : Run settings (opened tableId) log world) :=
    run.keeps shared jobs (Table.lawful_opened tableId) (keeps_opened tableId)
  refine ⟨(keeps run).1, (keeps run).2.not_stuck (fun _ broken => broken), ?_⟩
  intro later next path
  induction path with
  | refl => exact UInt32.le_refl _
  | snoc path step hypothesis =>
    have upToHere := keeps (run.append (path.mono fun taken => taken.1.1))
    exact UInt32.le_trans hypothesis (step.handNumber_le upToHere.1 upToHere.2)

/-- A hand that is begun offline is counted, and the session is lawful. -/
theorem run_lawful_of_solo_start :
    ∃ log world, Run { hero := "hero", arithmetic := .exact } (opened 7) log world ∧
      world.session.table.handNumber = 1 ∧ world.session.table.Lawful ∧
      (∀ running ∈ world.running, running.rest ≠ .stuck) ∧
      ∀ later next, Path (CountsOn { hero := "hero", arithmetic := .exact }) world later next →
        world.session.table.handNumber ≤ next.session.table.handNumber := by
  have run := run_scheduled { hero := "hero", arithmetic := .exact } 7
    (Move.alone (.user (.dispatch (.start []))) 0 8 .offline)
  exact ⟨_, _, run, rfl, run_lawful rfl (by decide) (by decide) run⟩

/-- Staying at a table by its number is not enough for the count: a session that turns to the table
where it is begins again with a snapshot that knows of no hand. Nor is it enough that nobody turns to
a table: the hand after one that was polled with the largest number has the number zero. -/
theorem hands_counted_anew :
    (¬∀ (settings : Settings) (tableId : UInt32) (log later : List Event) (world next : World),
      settings.arithmetic = .exact → 0 < settings.buyIn → 0 < settings.soloStack →
      Run settings (opened tableId) log world →
      Path (fun before event after => Step settings before event after ∧
        after.session.table.tableId = before.session.table.tableId) world later next →
      world.session.table.handNumber ≤ next.session.table.handNumber) ∧
    ¬∀ (settings : Settings) (tableId : UInt32) (log later : List Event) (world next : World),
      settings.arithmetic = .exact → 0 < settings.buyIn → 0 < settings.soloStack →
      Run settings (opened tableId) log world →
      Path (Without settings Job.turnsTable) world later next →
      world.session.table.handNumber ≤ next.session.table.handNumber := by
  let settings : Settings := { hero := "hero", arithmetic := .exact }
  let starts := Job.user (.dispatch (.start []))
  constructor
  · intro counted
    let stays (before : World) (_ : Event) (after : World) : Bool :=
      after.session.table.tableId = before.session.table.tableId
    let world := (scheduled settings 7 (Move.alone starts 0 8 .offline)).2
    let turning := Move.alone (.user (.select 7)) 1 3 .offline
    have path := path_play settings stays world turning
    have count := counted settings 7 _ _ world _ rfl (by decide) (by decide)
      (run_scheduled settings 7 _) (path.mono fun taken => ⟨taken.1, of_decide_eq_true taken.2⟩)
    have before : world.session.table.handNumber = 1 := by
      decide +kernel
    have after : (play settings stays world turning).2.session.table.handNumber = 0 := by
      decide +kernel
    rw [before, after] at count
    exact absurd count (by decide)
  · intro counted
    let published := "\x7b\"phase\":\"Settlement\",\"hand_number\":4294967295\x7d"
    let world := (scheduled settings 7 (Move.alone .poll 0 3 (.granting published))).2
    let later := play settings (fun _ event _ => !event.isOf Job.turnsTable) world
      (Move.alone starts 1 8 .offline)
    have count : world.session.table.handNumber ≤ later.2.session.table.handNumber :=
      counted settings 7 _ _ world later.2 rfl (by decide) (by decide) (run_scheduled settings 7 _)
        (path_play_without settings Job.turnsTable world _)
    have before : world.session.table.handNumber = 4294967295 := by
      decide +kernel
    have after : later.2.session.table.handNumber = 0 := by
      decide +kernel
    rw [before, after] at count
    exact absurd count (by decide)

end World

end Holdem
