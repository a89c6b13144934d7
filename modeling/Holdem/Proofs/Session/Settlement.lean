import Holdem.Proofs.Session.Schedule
import Holdem.Proofs.Table.Board
import Holdem.Proofs.Table.Hand

/-!
# Settled solo hands

A solo hand is settled by a fold or at the showdown, and then its winner is recorded. Polls leave a
settled hand alone. Whether it is settled they see by its phase, and the phase is also what polls
write: one that names the settlement, such as a late one of the hand before, settles the hand for
all polls after it.

Here is exactly when a poll moves a solo hand: as long as no winner is recorded and no poll has
settled the hand since it was begun.
-/

namespace Holdem

/-! ## The end of a hand -/

namespace Table

/-- A recorded winner is the winner of a settled hand. -/
def Ended (table : Table) : Prop :=
  table.winner.isSome → table.phase = .settlement

/-- What a player does to the end of a hand: the hand is settled and its winner recorded, or nothing
changes about that. -/
structure Continues (before after : Table) : Prop where
  hand : after.handNumber = before.handNumber
  ending : (after.phase = .settlement ∧ after.winner.isSome) ∨
    ((after.phase = .settlement ↔ before.phase = .settlement) ∧ after.winner = before.winner)

theorem continues_of_same {before after : Table} (hand : after.handNumber = before.handNumber)
    (phase : after.phase = before.phase) (winner : after.winner = before.winner) :
    before.Continues after where
  hand := hand
  ending := .inr ⟨by rw [phase], winner⟩

theorem continues_settle {arithmetic : Arithmetic} {before after : Table}
    (hand : after.handNumber = before.handNumber) (winner : Address) :
    before.Continues (after.settle arithmetic winner) := by
  rcases after.settle_frame winner with ⟨players, pot, eq⟩
  rw [eq]
  exact ⟨hand, .inl ⟨rfl, rfl⟩⟩

theorem continues_showStreet (table : Table) (street : Street) (cards : List Card) (size : Nat)
    (transaction : Option String) :
    table.Continues (table.showStreet street cards size transaction) := by
  rcases table.showStreet_cases street cards size transaction with
    ⟨asked, eq⟩ | ⟨_, eq⟩ | ⟨_, _, eq⟩
  · rw [eq]
    refine ⟨rfl, .inr ⟨?_, rfl⟩⟩
    change street.phase = .settlement ↔ table.phase = .settlement
    rw [asked]
    cases street <;> decide
  · rw [eq]
    exact continues_of_same rfl rfl rfl
  · rw [eq]
    exact continues_of_same rfl rfl rfl

theorem Continues.ended {before after : Table} (continues : before.Continues after)
    (ended : before.Ended) : after.Ended := by
  rcases continues.ending with ⟨settled, _⟩ | ⟨settled, winner⟩
  · exact fun _ => settled
  · intro decided
    rw [winner] at decided
    exact settled.mpr (ended decided)

end Table

/-- The winner is recorded at the settlement, which only dealing and turning to a table take back.
Polls can bring the settlement, but know of no winner. -/
def settling (job : Job) : Discipline Table where
  invariant := Table.Ended
  permits before after :=
    before.Continues after ∨
      (job.polls ∧ (before.phase = .settlement → after.phase = .settlement) ∧
        after.winner = before.winner) ∨
      (job.deals ∧ after.handNumber ≠ before.handNumber ∧ after.phase ≠ .settlement) ∨
      (job.turnsTable ∧ ∃ tableId, after = .opened tableId)
  permits_refl _ := .inl (Table.continues_of_same rfl rfl rfl)
  mayBreak := True

section Operations

variable {settings : Settings} {job : Job}

theorem settling_admits {change : Table → Table}
    (continues : ∀ table : Table, table.Continues (change table)) : (settling job).Admits change :=
  fun table ended => ⟨(continues table).ended ended, .inl (continues table)⟩

theorem settling_admitsPartial {change : Table → Option (Table × α)}
    (continues : ∀ {table after : Table} {result : α}, change table = some (after, result) →
      table.Continues after) : (settling job).AdmitsPartial change := by
  intro table ended
  rcases changed : change table with _ | ⟨after, result⟩
  · trivial
  · exact ⟨(continues changed).ended ended, .inl (continues changed)⟩

theorem settling_openSoloBet (action : Action) :
    (settling job).AdmitsPartial (settings.openSoloBet action) := by
  apply settling_admitsPartial
  intro table after stand opened
  rcases Settings.openSoloBet_cases opened with ⟨acted, moved, acts, shape⟩
  have frame := Table.act?_frame acts
  rcases shape with rfl | ⟨winner, rfl⟩
  · rw [frame]
    exact Table.continues_of_same rfl rfl rfl
  · apply Table.continues_settle
    rw [frame]
    rfl

theorem settling_closeSoloBet (opponent : Address) (reply : Action) :
    (settling job).AdmitsPartial (settings.closeSoloBet opponent reply) := by
  apply settling_admitsPartial
  intro table after stand closed
  rcases Settings.closeSoloBet_cases closed with ⟨acted, moved, acts, shape⟩
  have frame := Table.act?_frame acts
  rcases shape with rfl | ⟨winner, rfl⟩
  · rw [frame]
    exact Table.continues_of_same rfl rfl rfl
  · apply Table.continues_settle
    rw [frame]

theorem settling_admission : (settling job).Admission settings where
  hash hash := settling_admits fun table => Table.continues_of_same rfl rfl rfl
  proof size transaction := settling_admits fun table => Table.continues_of_same rfl rfl rfl
  hole cards _ _ := settling_admits fun table => Table.continues_of_same rfl rfl rfl
  seat buyIn checked passed seat := by
    apply settling_admits
    intro table
    rcases table.takeSeat_frame settings.hero seat (buyIn.getD settings.buyIn) with ⟨players, eq⟩
    rw [eq]
    exact Table.continues_of_same rfl rfl rfl
  street street cards size transaction _ :=
    settling_admits fun table => table.continues_showStreet street cards size transaction
  decision winner size transaction := by
    apply settling_admits
    intro table
    by_cases solo : settings.mode.isSolo
    · simp only [Table.decide, solo, ↓reduceIte]
      have settles : table.Continues (table.settle settings.arithmetic winner) :=
      Table.continues_settle rfl winner
      exact ⟨settles.hand, settles.ending⟩
    · simp only [Table.decide, solo, Bool.false_eq_true, ↓reduceIte]
      exact ⟨rfl, .inl ⟨rfl, rfl⟩⟩
  accepted action transaction := by
    apply settling_admitsPartial
    intro table after _ applied
    rcases Table.applyAccepted?_cases (Table.applyAccepted?_of_map applied) with
      ⟨acted, moved, acts, rfl⟩
    rw [Table.act?_frame acts]
    exact Table.continues_of_same rfl rfl rfl
  opening := settling_openSoloBet
  closing := settling_closeSoloBet

/-- A poll leaves a settled solo hand settled, and never names a winner. -/
theorem settling_merge (solo : settings.mode = .single) (polls : job.polls) (poll : Poll) :
    (settling job).Admits fun table => (table.merge settings.mode poll).1 := by
  intro table ended
  rcases table.merge_standing settings.mode poll with ⟨phase, _, winner⟩
  have kept : table.phase = .settlement →
      (table.merge settings.mode poll).1.phase = .settlement := by
    intro settled
    rw [phase, solo, settled]
    rfl
  refine ⟨?_, .inr (.inl ⟨polls, kept, winner⟩)⟩
  intro decided
  rw [winner] at decided
  exact kept (ended decided)

theorem Settings.keeps_settling (solo : settings.mode = .single) (job : Job) :
    (settings.procedure job).Keeps (settling job).onTable := by
  apply settings.keeps_procedure job settling_admission
  · intro deals seats table ended
    dsimp only
    rcases table.beginHand_frame settings.mode settings.hero seats settings.buyIn
      settings.soloStack with ⟨players, eq⟩
    rw [eq]
    refine ⟨?_, .inr (.inr (.inl ⟨deals, ?_, ?_⟩))⟩
    · intro decided
      exact absurd decided (by simp [Table.clearedForHand])
    · simp [Table.clearedForHand]
    · simp [Table.clearedForHand]
  · intro turns tableId table _
    refine ⟨?_, .inr (.inr (.inr ⟨turns, tableId, rfl⟩))⟩
    intro decided
    exact absurd decided (by simp [Table.opened])
  · intro polls _ poll _
    exact settling_merge solo polls poll

end Operations

/-! ## Within a hand -/

namespace World

variable {settings : Settings} {tableId : UInt32} {log later : List Event}
  {before begun world : World}

theorem settling_of_run (solo : settings.mode = .single)
    (run : Run settings (opened tableId) log world) :
    world.session.table.Ended ∧ world.Keeps fun job => (settling job).onTable := by
  have shared : ∀ job : Job, (settling job).onTable.invariant = fun session => session.table.Ended :=
    fun _ => rfl
  apply run.keeps shared (Settings.keeps_settling solo) ?_ (keeps_opened tableId)
  intro decided
  exact absurd decided (by simp [opened, Session.opened, Table.opened])

theorem settling_of_step (solo : settings.mode = .single)
    (run : Run settings (opened tableId) log before) {event : Event} {after : World}
    (step : Step settings before event after) :
    Permitted (fun job => (settling job).onTable) before.session after.session event := by
  have shared : ∀ job : Job, (settling job).onTable.invariant = fun session => session.table.Ended :=
    fun _ => rfl
  rcases settling_of_run solo run with ⟨ended, kept⟩
  exact (step.keeps shared ended kept).1.2

/-- Whether the snapshot is begun anew: a hand is begun, which is counted, or a table turned to. -/
def Begins (before : World) (event : Event) (after : World) : Prop :=
  ∃ index job exchange, event = .moved index job exchange ∧
    ((job.deals ∧ after.session.table.handNumber ≠ before.session.table.handNumber) ∨
      (job.turnsTable ∧ ∃ tableId, after.session.table = .opened tableId))

def WithinHand (settings : Settings) (before : World) (event : Event) (after : World) : Prop :=
  Step settings before event after ∧ ¬Begins before event after

def SettledByPoll (before : World) (event : Event) (after : World) : Prop :=
  ∃ index job exchange, event = .moved index job exchange ∧ job.polls ∧
    before.session.table.phase ≠ .settlement ∧ after.session.table.phase = .settlement

/-- What a step within a hand does to its end: a poll does not take the settlement back and names no
winner, and everything else settles the hand with a winner or leaves it. -/
theorem WithinHand.cases {event : Event} {after : World}
    (step : WithinHand settings before event after) (solo : settings.mode = .single)
    (run : Run settings (opened tableId) log before) :
    before.session.table.Continues after.session.table ∨
      (∃ index job exchange, event = .moved index job exchange ∧ job.polls) ∧
        (before.session.table.phase = .settlement → after.session.table.phase = .settlement) ∧
        after.session.table.winner = before.session.table.winner := by
  have permitted := settling_of_step solo run step.1
  cases event with
  | begun job =>
    rw [show after.session = before.session from permitted]
    exact .inl (Table.continues_of_same rfl rfl rfl)
  | moved index job exchange =>
    rcases permitted with continues | ⟨polls, polled⟩ | ⟨deals, counted, _⟩ | turned
    · exact .inl continues
    · exact .inr ⟨⟨index, job, exchange, rfl, polls⟩, polled⟩
    · exact absurd ⟨index, job, exchange, rfl, .inl ⟨deals, counted⟩⟩ step.2
    · exact absurd ⟨index, job, exchange, rfl, .inr turned⟩ step.2

/-- A step within a hand that is no settlement by a poll. -/
def Undisturbed (settings : Settings) (before : World) (event : Event) (after : World) : Prop :=
  WithinHand settings before event after ∧ ¬SettledByPoll before event after

/-- Without a winner and without a settlement by a poll a hand stays open. -/
theorem open_of_undisturbed (solo : settings.mode = .single)
    (run : Run settings (opened tableId) log begun) (fresh : begun.session.table.phase ≠ .settlement)
    (path : Path (Undisturbed settings) begun later world)
    (undecided : world.session.table.winner = none) :
    world.session.table.phase ≠ .settlement := by
  induction path with
  | refl => exact fresh
  | @snoc middle last log event path next hypothesis =>
    have onwards : Run settings begun log middle := path.mono fun step => step.1.1
    rcases next.1.cases solo (run.append onwards) with
      continues | ⟨⟨index, job, exchange, moved, polls⟩, _, winner⟩
    · rcases continues.ending with ⟨_, decided⟩ | ⟨settled, winner⟩
      · rw [undecided] at decided
        exact absurd decided (by decide)
      · rw [winner] at undecided
        exact fun settledNow => hypothesis undecided (settled.mp settledNow)
    · rw [winner] at undecided
      intro settledNow
      exact next.2 ⟨index, job, exchange, moved, polls, hypothesis undecided, settledNow⟩

/-- A hand that is still open was not settled by a poll. -/
theorem undisturbed_of_open (solo : settings.mode = .single)
    (run : Run settings (opened tableId) log begun)
    (path : Path (WithinHand settings) begun later world)
    (stillOpen : world.session.table.phase ≠ .settlement) :
    Path (Undisturbed settings) begun later world := by
  induction path with
  | refl => exact .refl _
  | @snoc middle last log event path next hypothesis =>
    have onwards : Run settings begun log middle := path.mono And.left
    have openBefore : middle.session.table.phase ≠ .settlement := by
      intro settled
      rcases next.cases solo (run.append onwards) with continues | ⟨_, stays, _⟩
      · rcases continues.ending with ⟨settledNow, _⟩ | ⟨same, _⟩
        · exact stillOpen settledNow
        · exact stillOpen (same.mpr settled)
      · exact stillOpen (stays settled)
    apply (hypothesis openBefore).snoc
    refine ⟨next, ?_⟩
    rintro ⟨_, _, _, _, _, _, settledNow⟩
    exact stillOpen settledNow

theorem open_of_begins (solo : settings.mode = .single)
    (run : Run settings (opened tableId) log before) {event : Event}
    (step : Step settings before event begun) (begins : Begins before event begun) :
    begun.session.table.phase ≠ .settlement := by
  have permitted := settling_of_step solo run step
  rcases begins with ⟨index, job, exchange, rfl, ⟨deals, counted⟩ | ⟨_, _, turned⟩⟩
  · rcases permitted with continues | ⟨polls, _⟩ | ⟨_, _, fresh⟩ | ⟨_, _, turned⟩
    · exact absurd continues.hand counted
    · cases job with
      | user => exact absurd polls (by simp [Job.polls])
      | poll => exact absurd deals (by simp [Job.deals])
    · exact fresh
    · simp [turned, Table.opened]
  · simp [turned, Table.opened]

/-- In a solo session, from any deal or turn to a table on and for as long as the snapshot is not
begun anew, a poll that names a phase moves the hand there exactly as long as the hand is open: no
winner is recorded, which folds and showdowns do, and no poll has brought the settlement since.
Otherwise only the settlement itself agrees with what is kept. -/
theorem poll_moves_hand_iff (solo : settings.mode = .single)
    (run : Run settings (opened tableId) log before) {event : Event}
    (step : Step settings before event begun) (begins : Begins before event begun)
    (since : Path (WithinHand settings) begun later world) {poll : Poll} {raw : String}
    {phase : Phase} (named : poll.phase = some raw) (mapped : reportedPhase? raw = some phase) :
    (world.session.table.merge settings.mode poll).1.phase = phase ↔
      phase = .settlement ∨
        (world.session.table.winner = none ∧ Path (Undisturbed settings) begun later world) := by
  have onwards : Run settings (opened tableId) _ begun := run.snoc step
  have fresh := open_of_begins solo run step begins
  have merged := (world.session.table.merge_standing settings.mode poll).1
  by_cases settled : world.session.table.phase = .settlement
  · -- the poll is not heard, and something has closed the hand since it was begun
    have frozen : (world.session.table.merge settings.mode poll).1.phase = .settlement := by
      rw [merged, solo, settled]
      rfl
    rw [frozen]
    constructor
    · intro same
      exact .inl same.symm
    · rintro (same | ⟨undecided, undisturbed⟩)
      · exact same.symm
      · exact absurd settled (open_of_undisturbed solo onwards fresh undisturbed undecided)
  · have taken : (world.session.table.merge settings.mode poll).1.phase = phase := by
      rw [merged]
      simp [settled, named, mapped]
    have undecided : world.session.table.winner = none := by
      have later : Run settings begun later world := since.mono And.left
      rcases settling_of_run solo (onwards.append later) with ⟨ended, _⟩
      rcases decided : world.session.table.winner with _ | winner
      · rfl
      · exact absurd (ended (by rw [decided]; rfl)) settled
    refine ⟨fun _ => .inr ⟨undecided, ?_⟩, fun _ => taken⟩
    exact undisturbed_of_open solo onwards since settled

/-! ## A late poll of the hand before -/

def staysInHand (before : World) : Event → World → Bool
  | .begun _, _ => true
  | .moved _ job _, after =>
    !job.turnsTable &&
      (!job.deals || after.session.table.handNumber = before.session.table.handNumber)

theorem path_play_withinHand (settings : Settings) (world : World) (moves : List Move) :
    Path (WithinHand settings) world (play settings staysInHand world moves).1
      (play settings staysInHand world moves).2 := by
  apply (path_play settings staysInHand world moves).mono
  rintro before event after ⟨step, stays⟩
  refine ⟨step, ?_⟩
  rintro ⟨index, job, exchange, rfl, begins⟩
  simp only [staysInHand, Bool.and_eq_true, Bool.not_eq_true', Bool.or_eq_true,
    decide_eq_true_eq] at stays
  rcases stays with ⟨stayed, counts⟩
  rcases begins with ⟨deals, counted⟩ | ⟨turns, _⟩
  · rw [deals] at counts
    exact counted (counts.resolve_left (by decide))
  · rw [stayed] at turns
    exact absurd turns (by decide)

def solitary : Settings := { hero := "hero" }

/-- A hand is about to be begun. -/
def seated : World :=
  (scheduled solitary 7 (Move.alone (.user (.dispatch (.start []))) 0 2 .offline)).2

def handBegun : World :=
  (play solitary (fun _ _ _ => true) seated [.turn 0 .offline]).2

/-- The hand is dealt, and while the deal is under way a table in this phase is polled. -/
def dealing (phase : String) : List Move :=
  let answers := Answers.granting ("\x7b\"phase\":\"" ++ phase ++ "\"\x7d")
  List.replicate 3 (.turn 0 answers) ++ Move.alone .poll 1 3 answers ++
    List.replicate 7 (.turn 0 answers)

theorem exists_deal_seated :
    ∃ exchange, Step solitary seated (.moved 0 (.user (.dispatch (.start []))) exchange) handBegun :=
  exists_step_of_intent (by decide +kernel)

/-- A poll that tells of the new hand during the deal leaves it open for the flop. -/
theorem poll_moves_hand_of_deal :
    ∃ log before event begun later world, Run solitary (opened 7) log before ∧
      Step solitary before event begun ∧ Path (WithinHand solitary) begun later world ∧
      world.session.table.confirmed = true ∧
      (world.session.table.merge .single { phase := some "Flop" }).1.phase = .flop ∧
      Path (Undisturbed solitary) begun later world := by
  have run : Run solitary (opened 7) _ seated := run_scheduled solitary 7 _
  have since := path_play_withinHand solitary handBegun (dealing "Preflop")
  let poll : Poll := { phase := some "Flop" }
  have named : poll.phase = some "Flop" := rfl
  have mapped : reportedPhase? "Flop" = some .flop := by decide +kernel
  rcases exists_deal_seated with ⟨exchange, deal⟩
  have begins : Begins seated (.moved 0 (.user (.dispatch (.start []))) exchange) handBegun :=
    ⟨_, _, _, rfl, .inl ⟨rfl, by decide +kernel⟩⟩
  have moves := poll_moves_hand_iff rfl run deal begins since named mapped
  rcases moves.mp (by decide +kernel) with settlement | ⟨_, undisturbed⟩
  · exact absurd settlement (by decide)
  · exact ⟨_, _, _, _, _, _, run, deal, since, by decide +kernel, by decide +kernel,
      undisturbed⟩

/-- A late poll that tells of the settlement of the hand before freezes the hand that is being
dealt, although nothing but a deal and polls was ever begun. -/
theorem late_poll_freezes_hand :
    ¬∀ (settings : Settings) (tableId : UInt32) (log later : List Event) (before begun world : World)
      (index : Nat) (opponents : List Address) (exchange : Option Exchange) (poll : Poll)
      (raw : String) (phase : Phase), settings.mode = .single →
      Run settings (opened tableId) log before →
      Step settings before (.moved index (.user (.dispatch (.start opponents))) exchange) begun →
      begun.session.table.handNumber ≠ before.session.table.handNumber →
      Path (WithinHand settings) begun later world →
      (∀ job, .begun job ∈ log ++ later → job.deals ∨ job.polls) →
      world.session.table.winner = none →
      poll.phase = some raw → reportedPhase? raw = some phase →
      (world.session.table.merge settings.mode poll).1.phase = phase := by
  intro moved
  let late := dealing "Settlement"
  have since := path_play_withinHand solitary handBegun late
  let poll : Poll := { phase := some "Preflop", handNumber := some 2 }
  have mapped : reportedPhase? "Preflop" = some .preflop := by decide +kernel
  rcases exists_deal_seated with ⟨exchange, deal⟩
  have preflop := moved solitary 7 _ _ seated handBegun _ 0 [] exchange poll "Preflop" .preflop rfl
    (run_scheduled solitary 7 _) deal (by decide +kernel) since ?_ (by decide +kernel) rfl mapped
  · have settlement : ((play solitary staysInHand handBegun late).2.session.table.merge
        solitary.mode poll).1.phase = .settlement := by
      decide +kernel
    rw [settlement] at preflop
    exact absurd preflop (by decide)
  · intro job member
    rcases List.mem_append.mp member with first | second
    · have begun : job = .user (.dispatch (.start [])) := by
        simpa [Move.alone] using begin_mem_of_begun first
      exact .inl (by rw [begun]; rfl)
    · have begun : job = .poll := by
        simpa [late, dealing, Move.alone] using begin_mem_of_begun second
      exact .inr (by rw [begun]; rfl)

end World

end Holdem
