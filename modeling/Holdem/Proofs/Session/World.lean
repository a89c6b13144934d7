import Holdem.Proofs.Session.Discipline

/-!
# Sessions with several things under way

A session is used by the player and polled at the same time. Here is what can happen to it: any
number of jobs are begun at any moment, each is a procedure of the library, and they take turns at
single changes and single questions. Nothing is assumed about the order of turns or about the
answers, except that a question which is answered at once is not separated from what stands before
and after it.

A run is recorded as a list of events, the latest last. `Path` is also used with fewer steps than a
session can take, to speak of stretches of a run in which something does not happen.
-/

namespace Holdem

/-! ## Jobs -/

inductive UserAction where
  | dispatch (intent : Intent)
  | create (body : CreateRequest)
  | select (tableId : UInt32)

/-- What an action gives when it completes. -/
abbrev UserAction.Value : UserAction → Type
  | .dispatch _ => Outcome
  | .create _ => CreateReply
  | .select _ => Unit

/-- What a session has under way. -/
inductive Job where
  | user (action : UserAction)
  | poll

/-- The kind of result of a job. -/
abbrev Job.Result : Job → Type
  | .user action => Except ActionFault action.Value
  | .poll => PollOutcome

namespace Job

/-- Whether a job turns the session to another table. -/
def turnsTable : Job → Bool
  | .user (.create _) | .user (.select _) => true
  | _ => false

def deals : Job → Bool
  | .user (.dispatch (.start _)) => true
  | _ => false

def joins : Job → Bool
  | .user (.dispatch (.join _)) => true
  | _ => false

def polls : Job → Bool
  | .poll => true
  | .user _ => false

def intent? : Job → Option Intent
  | .user (.dispatch intent) => some intent
  | _ => none

theorem exists_start_of_deals {job : Job} (deals : job.deals) :
    ∃ opponents, job = .user (.dispatch (.start opponents)) := by
  simp only [Job.deals] at deals
  split at deals
  · exact ⟨_, rfl⟩
  · exact absurd deals Bool.false_ne_true

theorem exists_join_of_joins {job : Job} (joins : job.joins) :
    ∃ buyIn, job = .user (.dispatch (.join buyIn)) := by
  simp only [Job.joins] at joins
  split at joins
  · exact ⟨_, rfl⟩
  · exact absurd joins Bool.false_ne_true

theorem eq_of_intent? {job : Job} {intent : Intent} (dispatched : job.intent? = some intent) :
    job = .user (.dispatch intent) := by
  rcases job with (other | body | tableId) | _
  · rw [← Option.some.inj dispatched]
  · exact absurd dispatched (by simp [intent?])
  · exact absurd dispatched (by simp [intent?])
  · exact absurd dispatched (by simp [intent?])

end Job

namespace Settings

def act (settings : Settings) : (action : UserAction) → Step action.Value
  | .dispatch intent => settings.dispatch intent
  | .create body => settings.createTable body
  | .select tableId => Step.selectTable tableId

/-- What an action does while it has the token. -/
def body (settings : Settings) : (action : UserAction) → Step action.Value
  | .dispatch intent => settings.perform intent
  | .create body => settings.openTable body
  | .select tableId => Step.change fun _ => .opened tableId

def procedure (settings : Settings) : (job : Job) → Procedure Session job.Result
  | .user action => (settings.act action).run
  | .poll => settings.poll

/-- Every action excludes the others for as long as it runs. -/
theorem act_eq_exclusively (settings : Settings) (action : UserAction) :
    settings.act action = Step.exclusively (settings.body action) := by
  cases action <;> rfl

end Settings

/-- A job keeps a discipline of the snapshot that admits all operations; dealing, turning to a table
and merging polls count only for the jobs that do so. -/
theorem Settings.keeps_procedure (settings : Settings) {law : Discipline Table} (job : Job)
    (admission : law.Admission settings)
    (begins : job.deals → ∀ seats, law.Admits fun table =>
      table.beginHand settings.mode settings.hero seats settings.buyIn settings.soloStack)
    (turns : job.turnsTable → ∀ tableId, law.Admits fun _ => .opened tableId)
    (merges : job.polls → ∀ raw poll, Poll.ofText? raw = some poll →
      law.Admits fun table => (table.merge settings.mode poll).1) :
    (settings.procedure job).Keeps law.onTable := by
  rcases job with (intent | body | tableId) | _
  · apply settings.keeps_dispatch intent admission
    rintro opponents rfl
    exact begins rfl
  · apply Step.keeps_exclusively
    exact settings.keeps_openTable body (turns rfl)
  · apply Step.keeps_exclusively
    exact Step.keeps_change (turns rfl tableId)
  · apply settings.keeps_poll
    intro _ reply poll _
    exact merges rfl reply.state poll

/-! ## Turns -/

structure Exchange where
  request : Request
  answer : request.Answer

namespace Procedure

variable {σ α : Type}

/-- One turn of a procedure: it changes the state, or has a question answered. -/
inductive Turn : Procedure σ α → σ → Option Exchange → Procedure σ α → σ → Prop
  | update (change : σ → σ) (resume : σ → Procedure σ α) (state : σ) :
    Turn (.update change resume) state none (resume state) (change state)
  | ask (request : Request) (resume : request.Answer → Procedure σ α) (answer : request.Answer)
      (state : σ) :
    Turn (.ask request resume) state (some ⟨request, answer⟩) (resume answer) state

/-- Whether a procedure asks next what is answered at once. -/
def asksAtOnce : Procedure σ α → Bool
  | .ask request _ => request.isImmediate
  | _ => false

/-- A turn of a procedure that keeps a discipline is admitted, and what is left keeps it too unless
the answer was an unexpected one. -/
theorem Keeps.turn {discipline : Discipline σ} {procedure rest : Procedure σ α} {state after : σ}
    {exchange : Option Exchange} (kept : procedure.Keeps discipline)
    (turn : procedure.Turn state exchange rest after) (holds : discipline.invariant state) :
    (discipline.invariant after ∧ discipline.permits state after) ∧
      ((∀ heard, exchange = some heard → discipline.expects heard.request heard.answer) →
        rest.Keeps discipline) := by
  cases turn with
  | update change resume =>
    rcases kept state holds with ⟨admitted, keptRest⟩
    exact ⟨admitted, fun _ => keptRest⟩
  | ask request resume answer =>
    refine ⟨⟨holds, discipline.permits_refl state⟩, ?_⟩
    intro expected
    exact kept answer (expected _ rfl)

end Procedure

/-! ## Worlds -/

/-- A job with what is left of its procedure. -/
structure Running where
  job : Job
  rest : Procedure Session job.Result

/-- A session with everything that was ever begun in it. -/
structure World where
  session : Session
  /-- The jobs in the order in which they were begun; those that are finished stay. -/
  running : List Running := []
  /-- The job whose next turn nothing can come before. -/
  held : Option Nat := none

inductive Event where
  | begun (job : Job)
  /-- A turn of the job at an index, with the exchange if the job asked something. -/
  | moved (index : Nat) (job : Job) (exchange : Option Exchange)

namespace World

/-- The session of a player who has just turned to a table, with nothing under way. -/
def opened (tableId : UInt32) : World := { session := .opened tableId }

def afterTurn (world : World) (index : Nat) (before after : Running) (session : Session) : World where
  session := session
  running := world.running.set index after
  held := if before.rest.asksAtOnce || after.rest.asksAtOnce then some index else none

/-- One step of a world: a job is begun, or one that nothing comes before takes its turn. -/
inductive Step (settings : Settings) : World → Event → World → Prop
  | begin (world : World) (job : Job) :
    Step settings world (.begun job)
      { world with running := world.running ++ [⟨job, settings.procedure job⟩] }
  | move {world : World} {index : Nat} {job : Job} {before after : Procedure Session job.Result}
      {exchange : Option Exchange} {session : Session}
      (underWay : world.running[index]? = some ⟨job, before⟩)
      (next : world.held = none ∨ world.held = some index)
      (turn : before.Turn world.session exchange after session) :
    Step settings world (.moved index job exchange)
      (world.afterTurn index ⟨job, before⟩ ⟨job, after⟩ session)

end World

/-- A sequence of steps with their events, the latest last. -/
inductive Path (step : World → Event → World → Prop) : World → List Event → World → Prop
  | refl (world : World) : Path step world [] world
  | snoc {first middle last : World} {log : List Event} {event : Event}
      (path : Path step first log middle) (next : step middle event last) :
    Path step first (log ++ [event]) last

namespace Path

variable {step : World → Event → World → Prop} {first middle last : World}

theorem append {log later : List Event} (path : Path step first log middle)
    (rest : Path step middle later last) : Path step first (log ++ later) last := by
  induction rest with
  | refl => simpa using path
  | snoc _ next hypothesis =>
    rw [← List.append_assoc]
    exact hypothesis.snoc next

theorem mono {wider : World → Event → World → Prop} {log : List Event}
    (path : Path step first log last)
    (liberal : ∀ {before event after}, step before event after → wider before event after) :
    Path wider first log last := by
  induction path with
  | refl => exact .refl _
  | snoc _ next hypothesis => exact hypothesis.snoc (liberal next)

/-- What has happened on a path happened in one of its steps. -/
theorem exists_step_of_mem {log : List Event} {event : Event} (path : Path step first log last)
    (member : event ∈ log) : ∃ early late before after, log = early ++ event :: late ∧
      Path step first early before ∧ step before event after ∧ Path step after late last := by
  induction path with
  | refl => exact absurd member List.not_mem_nil
  | @snoc middle last log recent path next hypothesis =>
    rcases List.mem_append.mp member with old | new
    · rcases hypothesis old with ⟨early, late, before, after, split, toBefore, here, fromAfter⟩
      refine ⟨early, late ++ [recent], before, after, ?_, toBefore, here, fromAfter.snoc next⟩
      rw [split, List.append_assoc, List.cons_append]
    · cases List.mem_singleton.mp new
      exact ⟨log, [], middle, last, rfl, path, next, .refl last⟩

end Path

namespace World

/-- What can happen to a session with some settings. -/
abbrev Run (settings : Settings) : World → List Event → World → Prop := Path (Step settings)

/-! ## Invariants -/

/-- Every job under way keeps the discipline of its kind. -/
def Keeps (law : Job → Discipline Session) (world : World) : Prop :=
  ∀ running ∈ world.running, running.rest.Keeps (law running.job)

variable {settings : Settings} {law : Job → Discipline Session} {invariant : Session → Prop}
  {world next : World} {event : Event}

/-- What a step may do to the session: nothing when a job is begun, otherwise what the job is
permitted to do. -/
def Permitted (law : Job → Discipline Session) (before after : Session) : Event → Prop
  | .begun _ => after = before
  | .moved _ job _ => (law job).permits before after

/-- An event as the disciplines count on it: a job that is begun keeps its discipline, and an answer
is one that the job expects. -/
def Expected (settings : Settings) (law : Job → Discipline Session) : Event → Prop
  | .begun job => (settings.procedure job).Keeps (law job)
  | .moved _ job exchange =>
    ∀ heard, exchange = some heard → (law job).expects heard.request heard.answer

/-- A step of a world whose jobs all keep disciplines with one invariant keeps that invariant, and
does what the job at its turn is permitted. If its event is an expected one, the jobs that it leaves
keep their disciplines. -/
theorem Step.keeps (step : Step settings world event next)
    (shared : ∀ job, (law job).invariant = invariant)
    (holds : invariant world.session) (kept : world.Keeps law) :
    (invariant next.session ∧ Permitted law world.session next.session event) ∧
      (Expected settings law event → next.Keeps law) := by
  cases step with
  | begin job =>
    refine ⟨⟨holds, rfl⟩, ?_⟩
    intro expected running member
    rcases List.mem_append.mp member with old | new
    · exact kept running old
    · rw [List.mem_singleton.mp new]
      exact expected
  | @move index job before after exchange session underWay _ turn =>
    have keptBefore := kept _ (List.mem_of_getElem? underWay)
    rw [← shared job] at holds
    rcases keptBefore.turn turn holds with ⟨⟨holdsAfter, permitted⟩, keptAfter⟩
    rw [shared job] at holdsAfter
    refine ⟨⟨holdsAfter, permitted⟩, ?_⟩
    intro expected running member
    rcases List.mem_or_eq_of_mem_set member with old | new
    · exact kept running old
    · rw [new]
      exact keptAfter expected

/-- In a run of expected events, of jobs whose disciplines have one invariant, the invariant holds
throughout. -/
theorem Run.keeps_of_expected {first last : World} {log : List Event}
    (run : Run settings first log last) (shared : ∀ job, (law job).invariant = invariant)
    (expected : ∀ event ∈ log, Expected settings law event)
    (holds : invariant first.session) (kept : first.Keeps law) :
    invariant last.session ∧ last.Keeps law := by
  induction run with
  | refl => exact ⟨holds, kept⟩
  | snoc _ next hypothesis =>
    rcases hypothesis fun event member => expected event (List.mem_append_left _ member) with
      ⟨holdsBefore, keptBefore⟩
    rcases next.keeps shared holdsBefore keptBefore with ⟨⟨holdsAfter, _⟩, keptAfter⟩
    exact ⟨holdsAfter, keptAfter (expected _ (List.mem_append_right _ List.mem_cons_self))⟩

theorem expected_of_jobs (jobs : ∀ job, (settings.procedure job).Keeps (law job))
    (any : ∀ job request answer, (law job).expects request answer) (event : Event) :
    Expected settings law event := by
  cases event with
  | begun job => exact jobs job
  | moved index job exchange => exact fun heard _ => any job heard.request heard.answer

/-- In a run whose jobs all keep disciplines with one invariant, the invariant holds throughout. The
disciplines have to put up with any answers. -/
theorem Run.keeps {first last : World} {log : List Event} (run : Run settings first log last)
    (shared : ∀ job, (law job).invariant = invariant)
    (jobs : ∀ job, (settings.procedure job).Keeps (law job))
    (holds : invariant first.session) (kept : first.Keeps law)
    (any : ∀ job request answer, (law job).expects request answer := by exact fun _ _ _ => trivial) :
    invariant last.session ∧ last.Keeps law :=
  run.keeps_of_expected shared (fun event _ => expected_of_jobs jobs any event) holds kept

theorem keeps_opened (tableId : UInt32) : (opened tableId).Keeps law :=
  fun _ member => absurd member List.not_mem_nil

/-- Nothing that is under way has broken off where no job may. -/
theorem Keeps.not_stuck (kept : world.Keeps law) (safe : ∀ job, ¬(law job).mayBreak) :
    ∀ running ∈ world.running, running.rest ≠ .stuck := by
  intro running member broken
  have broke := kept running member
  rw [broken] at broke
  exact safe running.job broke

/-! ## Stretches of a run -/

/-- A step in which no job of some kind changes the snapshot. -/
def Without (settings : Settings) (kind : Job → Bool) (before : World) (event : Event)
    (after : World) : Prop :=
  Step settings before event after ∧
    ∀ index job exchange, event = .moved index job exchange → kind job →
      after.session.table = before.session.table

end World

end Holdem
