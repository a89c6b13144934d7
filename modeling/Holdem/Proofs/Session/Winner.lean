import Holdem.Proofs.Session.LateAnswer
import Holdem.Proofs.Session.Operation
import Holdem.Proofs.Session.Settlement

/-!
# Winners in hands being played

A winner is recorded when a hand is settled, and dealing and turning to a table forget it. Polls
know of no winner, but outside a solo session they move the phase to wherever they say. So a poll
that tells of the next hand, which another player has dealt, leaves the winner of the hand before
where it is.

Here is exactly when a betting round shows a winner: when a poll has taken a hand with a recorded
winner into a betting round, and the snapshot was not begun anew since.
-/

namespace Holdem

/-! ## Operations -/

namespace Table

/-- What an action does to the end of play: the hand is settled and its winner recorded, or the
winner stays and no betting round is entered from outside of one. -/
def PlaysOut (before after : Table) : Prop :=
  (after.phase = .settlement ∧ after.winner.isSome) ∨
    (after.winner = before.winner ∧ (after.phase.isBettingRound → before.phase.isBettingRound))

variable {arithmetic : Arithmetic} {before after : Table}

theorem playsOut_of_same (phase : after.phase = before.phase)
    (winner : after.winner = before.winner) : before.PlaysOut after :=
  .inr ⟨winner, fun playing => by rwa [phase] at playing⟩

theorem playsOut_settle (acted : Table) (winner : Address) :
    before.PlaysOut (acted.settle arithmetic winner) := by
  rcases acted.settle_frame winner with ⟨players, pot, eq⟩
  rw [eq]
  exact .inl ⟨rfl, rfl⟩

/-- A street is shown in a betting round that follows another. -/
theorem playsOut_showStreet (street : Street) (cards : List Card) (size : Nat)
    (transaction : Option String) :
    before.PlaysOut (before.showStreet street cards size transaction) := by
  rcases before.showStreet_cases street cards size transaction with
    ⟨asked, eq⟩ | ⟨_, eq⟩ | ⟨_, _, eq⟩
  · rw [eq]
    refine .inr ⟨rfl, fun _ => ?_⟩
    rw [asked]
    cases street <;> rfl
  · rw [eq]
    exact playsOut_of_same rfl rfl
  · rw [eq]
    exact playsOut_of_same rfl rfl

theorem playsOut_decide (mode : PlayMode) (winner : Address) (size : Nat)
    (transaction : Option String) :
    before.PlaysOut (before.decide mode arithmetic winner size transaction) := by
  simp only [Table.decide]
  split
  · have settled : before.PlaysOut (before.settle arithmetic winner) := playsOut_settle _ winner
    exact settled
  · exact .inl ⟨rfl, rfl⟩

theorem playsOut_act? {address : Address} {action : Action} {moved : Chips}
    (acts : before.act? arithmetic address action = some (after, moved)) :
    before.PlaysOut after := by
  rw [act?_frame acts]
  exact playsOut_of_same rfl rfl

end Table

namespace Operation

variable {settings : Settings} {job : Job} {before after : Table}

/-- An operation plays on, unless it begins the snapshot anew or merges a poll. -/
theorem playsOut_or (operation : Operation settings job before after) :
    before.PlaysOut after ∨
      (after.winner = none ∧ ((job.deals ∧ after.handNumber ≠ before.handNumber) ∨
        (job.turnsTable ∧ ∃ tableId, after = .opened tableId))) ∨
      (job.polls ∧ after.winner = before.winner) := by
  cases operation with
  | leave | hash | proof => exact .inl (Table.playsOut_of_same rfl rfl)
  | begin deals seats =>
    rcases before.beginHand_frame settings.mode settings.hero seats settings.buyIn
      settings.soloStack with ⟨players, eq⟩
    rw [eq]
    exact .inr (.inl ⟨rfl, .inl ⟨deals, before.clearedForHand_handNumber_ne⟩⟩)
  | store deals cards => exact .inl (Table.playsOut_of_same rfl rfl)
  | seat _ _ seat buyIn =>
    rcases before.takeSeat_frame settings.hero seat buyIn with ⟨players, eq⟩
    rw [eq]
    exact .inl (Table.playsOut_of_same rfl rfl)
  | street street cards size transaction =>
    exact .inl (Table.playsOut_showStreet street cards size transaction)
  | decision winner size transaction =>
    exact .inl (Table.playsOut_decide settings.mode winner size transaction)
  | accepted applied =>
    rcases Table.applyAccepted?_cases applied with ⟨acted, moved, acts, rfl⟩
    have plays : before.PlaysOut acted := Table.playsOut_act? acts
    exact .inl plays
  | opening opened =>
    rcases Settings.openSoloBet_cases opened with ⟨acted, moved, acts, rfl | ⟨winner, rfl⟩⟩
    · have plays : before.PlaysOut acted := Table.playsOut_act? acts
      exact .inl plays
    · exact .inl (Table.playsOut_settle _ winner)
  | closing closed =>
    rcases Settings.closeSoloBet_cases closed with ⟨acted, moved, acts, rfl | ⟨winner, rfl⟩⟩
    · exact .inl (Table.playsOut_act? acts)
    · exact .inl (Table.playsOut_settle _ winner)
  | turn turns tableId => exact .inr (.inl ⟨rfl, .inr ⟨turns, tableId, rfl⟩⟩)
  | merge polls raw poll read =>
    exact .inr (.inr ⟨polls, (before.merge_standing settings.mode poll).2.2⟩)

end Operation

/-! ## Steps -/

namespace World

variable {settings : Settings} {session : Session} {tableId : UInt32} {log later : List Event}
  {first before after world : World} {event : Event}

/-- A step in which a poll takes a hand with a recorded winner into a betting round. -/
def Reopens (settings : Settings) (before : World) (event : Event) (after : World) : Prop :=
  Step settings before event after ∧
    (∃ index job exchange, event = .moved index job exchange ∧ job.polls) ∧
    before.session.table.winner.isSome ∧
    ¬before.session.table.phase.isBettingRound ∧ after.session.table.phase.isBettingRound

theorem playsOut_or_of_step (run : Run settings { session } log before)
    (step : Step settings before event after) :
    before.session.table.PlaysOut after.session.table ∨ Begins before event after ∨
      ((∃ index job exchange, event = .moved index job exchange ∧ job.polls) ∧
        after.session.table.winner = before.session.table.winner) := by
  rcases operation_of_step run step with same | ⟨index, job, exchange, rfl, operation⟩
  · rw [same]
    exact .inl (Table.playsOut_of_same rfl rfl)
  rcases operation.playsOut_or with plays | ⟨_, begins⟩ | ⟨polls, winner⟩
  · exact .inl plays
  · exact .inr (.inl ⟨index, job, exchange, rfl, begins⟩)
  · exact .inr (.inr ⟨⟨index, job, exchange, rfl, polls⟩, winner⟩)

/-- A snapshot that is begun anew has no winner. -/
theorem winner_of_begins (run : Run settings { session } log before)
    (step : Step settings before event after) (begins : Begins before event after) :
    after.session.table.winner = none := by
  rcases begins with ⟨index, job, exchange, rfl, ⟨deals, counted⟩ | ⟨_, _, turned⟩⟩
  · rcases (operation_of_move run step).begins_of_counted deals counted with ⟨seats, begun⟩
    rcases before.session.table.beginHand_frame settings.mode settings.hero seats settings.buyIn
      settings.soloStack with ⟨players, eq⟩
    rw [begun, eq]
    rfl
  · rw [turned]
    rfl

/-- Within a hand a winner stays recorded. -/
theorem WithinHand.decided (step : WithinHand settings before event after)
    (run : Run settings { session } log before) (decided : before.session.table.winner.isSome) :
    after.session.table.winner.isSome := by
  rcases playsOut_or_of_step run step.1 with (⟨_, now⟩ | ⟨winner, _⟩) | begins | ⟨_, winner⟩
  · exact now
  · rwa [winner]
  · exact absurd begins step.2
  · rwa [winner]

/-- A hand that is reopened keeps its winner. -/
theorem Reopens.decided (reopens : Reopens settings before event after)
    (run : Run settings { session } log before) : after.session.table.winner.isSome := by
  rcases reopens with ⟨step, ⟨index, job, exchange, rfl, polls⟩, decided, was, now⟩
  rcases (operation_of_move run step).playsOut_or with
    (⟨_, decidedNow⟩ | ⟨_, stays⟩) | ⟨_, ⟨deals, _⟩ | ⟨turns, _⟩⟩ | ⟨_, winner⟩
  · exact decidedNow
  · exact absurd (stays now) was
  · exact absurd polls (Job.not_polls_of_deals deals)
  · exact absurd polls (Job.not_polls_of_turnsTable turns)
  · rwa [winner]

/-- A step to a betting round that shows a winner comes from one, unless it reopens a hand. -/
theorem reopens_or (run : Run settings { session } log before)
    (step : Step settings before event after)
    (playing : after.session.table.phase.isBettingRound)
    (decided : after.session.table.winner.isSome) :
    Reopens settings before event after ∨
      (WithinHand settings before event after ∧ before.session.table.phase.isBettingRound ∧
        before.session.table.winner.isSome) := by
  have within : WithinHand settings before event after := by
    refine ⟨step, fun begins => ?_⟩
    rw [winner_of_begins run step begins] at decided
    exact absurd decided (by decide)
  rcases playsOut_or_of_step run step with
    (⟨settled, _⟩ | ⟨winner, stays⟩) | begins | ⟨polls, winner⟩
  · rw [settled] at playing
    exact absurd playing (by decide)
  · rw [winner] at decided
    exact .inr ⟨within, stays playing, decided⟩
  · exact absurd begins within.2
  · rw [winner] at decided
    by_cases was : before.session.table.phase.isBettingRound
    · exact .inr ⟨within, was, decided⟩
    · exact .inl ⟨step, polls, decided, was, playing⟩

/-! ## Runs -/

theorem decided_of_path (run : Run settings { session } log first)
    (path : Path (WithinHand settings) first later world)
    (decided : first.session.table.winner.isSome) : world.session.table.winner.isSome := by
  induction path with
  | refl => exact decided
  | snoc path next hypothesis =>
    have onwards : Run settings first _ _ := path.mono And.left
    exact next.decided (run.append onwards) hypothesis

/-- A run to a betting round that shows a winner has reopened a hand, unless it began there. -/
theorem exists_reopens (fresh : session.table.winner = none)
    (run : Run settings { session } log world)
    (playing : world.session.table.phase.isBettingRound)
    (decided : world.session.table.winner.isSome) :
    ∃ early event late before after, log = early ++ event :: late ∧
      Run settings { session } early before ∧ Reopens settings before event after ∧
      Path (WithinHand settings) after late world := by
  generalize start : ({ session } : World) = first at run ⊢
  induction run with
  | refl =>
    rw [← start] at decided
    simp [fresh] at decided
  | @snoc middle last log event run next hypothesis =>
    subst start
    rcases reopens_or run next playing decided with reopens | ⟨within, was, decidedBefore⟩
    · exact ⟨log, event, [], middle, last, rfl, run, reopens, .refl last⟩
    · rcases hypothesis was decidedBefore with
        ⟨early, poll, late, before, after, split, reached, reopens, since⟩
      refine ⟨early, poll, late ++ [event], before, after, ?_, reached, reopens, since.snoc within⟩
      rw [split, List.append_assoc, List.cons_append]

/-- In a betting round a winner is recorded exactly when a poll has taken a hand with a recorded
winner there from outside, and since then no hand was begun and no table turned to. In a solo
session that never happens. -/
theorem winner_in_play_iff (run : Run settings (opened tableId) log world)
    (playing : world.session.table.phase.isBettingRound) :
    (world.session.table.winner.isSome ↔
      ∃ early event late before after, log = early ++ event :: late ∧
        Run settings (opened tableId) early before ∧ Reopens settings before event after ∧
        Path (WithinHand settings) after late world) ∧
      (settings.mode = .single → world.session.table.winner = none) := by
  refine ⟨⟨exists_reopens rfl run playing, ?_⟩, ?_⟩
  · rintro ⟨early, event, late, before, after, _, reached, reopens, since⟩
    exact decided_of_path (reached.snoc reopens.1) since (reopens.decided reached)
  · intro solo
    rcases decided : world.session.table.winner with _ | winner
    · rfl
    · have settled := (settling_of_run solo run).1 (by rw [decided]; rfl)
      rw [settled] at playing
      exact absurd playing (by decide)

/-! ## The next hand -/

/-- A hand is polled on the river, the hero wins it at the showdown, and the next hand is polled. -/
def nextHand : List Event × World :=
  scheduled .headsUp 7 (Move.alone .poll 0 3 (publishing "River" "1") ++
    Move.alone (.user (.dispatch .showdown)) 1 12 (publishing "River" "1") ++
    Move.alone .poll 2 3 (publishing "Preflop" "2"))

theorem nextHand_decided :
    nextHand.2.session.table.phase = .preflop ∧ nextHand.2.session.table.handNumber = 2 ∧
      nextHand.2.session.table.winner = some "hero" := by
  decide +kernel

/-- The poll of the next hand is the one that has reopened the settled hand. -/
theorem winner_in_play_of_next_hand :
    ∃ log world, Run .headsUp (opened 7) log world ∧ world.session.table.phase = .preflop ∧
      world.session.table.winner = some "hero" ∧
      ∃ early event late before after, log = early ++ event :: late ∧
        Run .headsUp (opened 7) early before ∧ Reopens .headsUp before event after ∧
        Path (WithinHand .headsUp) after late world := by
  have run : Run .headsUp (opened 7) nextHand.1 nextHand.2 := run_scheduled .headsUp 7 _
  rcases nextHand_decided with ⟨phase, _, winner⟩
  have playing : nextHand.2.session.table.phase.isBettingRound := by
    rw [phase]
    rfl
  have decided : nextHand.2.session.table.winner.isSome := by
    rw [winner]
    rfl
  exact ⟨_, _, run, phase, winner, (winner_in_play_iff run playing).1.mp decided⟩

/-- The winner of a settled hand shows in the hand after it. -/
theorem winner_shows_in_next_hand :
    ¬∀ (settings : Settings) (tableId : UInt32) (log : List Event) (world : World),
      Run settings (opened tableId) log world → world.session.table.phase.isBettingRound →
      world.session.table.winner = none := by
  intro cleared
  rcases nextHand_decided with ⟨phase, _, winner⟩
  have run : Run .headsUp (opened 7) nextHand.1 nextHand.2 := run_scheduled .headsUp 7 _
  have none := cleared .headsUp 7 _ _ run (by rw [phase]; rfl)
  rw [winner] at none
  exact absurd none (by decide)

end World

end Holdem
