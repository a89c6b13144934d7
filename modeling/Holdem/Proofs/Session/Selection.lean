import Holdem.Proofs.Session.Course
import Holdem.Proofs.Session.OneTable

/-!
# Since the table was selected

A session comes to its table when it is opened, or when an action turns it there; of everything that
happened before, the snapshot remembers nothing. What is said of a snapshot therefore often counts
from the moment when its table was last selected, and this file splits a run there.

An action can turn the session to a table only while it has the token. So at that moment no intent
acts: every intent that does anything later takes its first turn later, too. Polls are different.
One that fetched its table's state before may still come back, and if the session has turned away
from the table and back, its state is merged.
-/

namespace Holdem

/-! ## Turning to a table -/

namespace Procedure

variable {α β : Type}

/-- Each change of a procedure turns to a table or leaves the snapshot as it is. -/
def OnlySelects : Procedure Session α → Prop
  | .finish _ | .stuck => True
  | .update change resume =>
    ((∃ tableId, change = Session.onTable fun _ => .opened tableId) ∨
        ∀ session, (change session).table = session.table) ∧
      ∀ session, (resume session).OnlySelects
  | .ask _ resume => ∀ answer, (resume answer).OnlySelects

theorem OnlySelects.bind {procedure : Procedure Session α} {next : α → Procedure Session β}
    (first : procedure.OnlySelects) (later : ∀ result, (next result).OnlySelects) :
    (procedure.bind next).OnlySelects := by
  induction procedure with
  | finish result => exact later result
  | stuck => trivial
  | update change resume hypothesis =>
    exact ⟨first.1, fun session => hypothesis session (first.2 session)⟩
  | ask request resume hypothesis => exact fun answer => hypothesis answer (first answer)

theorem onlySelects_of_untouched {procedure : Procedure Session α}
    (kept : procedure.Keeps Course.untouched.onTable) : procedure.OnlySelects := by
  induction procedure with
  | finish | stuck => trivial
  | update change resume hypothesis =>
    exact ⟨.inr fun session => (kept session trivial).1.2,
      fun session => hypothesis session (kept session trivial).2⟩
  | ask request resume hypothesis => exact fun answer => hypothesis answer (kept answer trivial)

theorem LeftOf.onlySelects {procedure rest : Procedure Session α} (left : procedure.LeftOf rest)
    (selects : procedure.OnlySelects) : rest.OnlySelects := by
  induction left with
  | whole => exact selects
  | turn _ turn hypothesis =>
    cases turn with
    | update => exact hypothesis.2 _
    | ask _ _ answer => exact hypothesis answer

end Procedure

theorem Settings.onlySelects_body (settings : Settings) {action : UserAction}
    (turns : (Job.user action).turnsTable) : (settings.body action).run.OnlySelects := by
  cases action with
  | dispatch => exact absurd turns (by simp [Job.turnsTable])
  | select tableId => exact ⟨.inl ⟨tableId, rfl⟩, fun _ => trivial⟩
  | create body =>
    apply Procedure.OnlySelects.bind
    · exact Procedure.onlySelects_of_untouched (settings.keeps_call _)
    · rintro (fault | reply)
      · trivial
      · exact ⟨.inl ⟨reply.tableId, rfl⟩, fun _ => trivial⟩

namespace World

variable {settings : Settings} {first tableId : UInt32} {log : List Event}
  {world before after : World} {event : Event} {index : Nat} {job : Job}
  {exchange : Option Exchange} {holder : Option Nat}

/-- A step in which an action turns the session to a table. -/
def Selects (settings : Settings) (tableId : UInt32) (before : World) (event : Event)
    (after : World) : Prop :=
  Step settings before event after ∧ ∃ index job exchange resume,
    event = .moved index job exchange ∧ job.turnsTable ∧
      before.running[index]? = some ⟨job, .update (Session.onTable fun _ => .opened tableId) resume⟩

/-- A step in which no action turns the session to a table. -/
def Stays (settings : Settings) (before : World) (event : Event) (after : World) : Prop :=
  Step settings before event after ∧ ∀ tableId, ¬Selects settings tableId before event after

theorem Selects.opened (selects : Selects settings tableId before event after) :
    after.session.table = .opened tableId := by
  rcases selects with ⟨step, index, job, exchange, resume, rfl, _, underWay⟩
  rcases step.turn with ⟨_, _, same, turn, _⟩
  cases underWay.symm.trans same
  generalize after.session = session at turn
  cases turn
  rfl

theorem Selects.held (selects : Selects settings tableId before event after)
    (exclusive : Exclusive settings log before holder) :
    ∃ index job exchange, event = .moved index job exchange ∧ job.turnsTable ∧
      holder = some index := by
  rcases selects with ⟨_, index, job, exchange, resume, rfl, turns, underWay⟩
  refine ⟨index, job, exchange, rfl, turns, Decidable.byContradiction fun without => ?_⟩
  have outside := exclusive.outside index _ without underWay
  generalize running : (⟨job, _⟩ : Running) = found at outside
  cases outside with
  | poll =>
    cases running
    exact absurd turns (by simp [Job.turnsTable])
  | ended => cases running
  | fresh action =>
    -- its next change takes the token, which turning to a table does not
    rw [settings.act_eq_exclusively, Running.mk.injEq] at running
    rcases running with ⟨rfl, same⟩
    have changes := (Procedure.update.inj (eq_of_heq same)).1
    have busy := congrArg (fun change => (change (.opened 0)).busy) changes
    exact absurd busy Bool.false_ne_true

/-- An action that may turn the session to a table does so in its turn, or it leaves the snapshot as
it is. -/
theorem selects_or (exclusive : Exclusive settings log before holder)
    (step : Step settings before (.moved index job exchange) after) (turns : job.turnsTable) :
    (∃ tableId, Selects settings tableId before (.moved index job exchange) after) ∨
      after.session.table = before.session.table := by
  rcases exclusive.step step with ⟨_, _, handover⟩
  cases handover with
  | polled => exact absurd turns (by simp [Job.turnsTable])
  | taken _ _ taken => exact .inr (by rw [taken])
  | refused _ _ _ same => exact .inr (by rw [same])
  | released _ _ freed => exact .inr (by rw [freed])
  | acted left underWay turn =>
    have selects := left.onlySelects (settings.onlySelects_body turns)
    generalize after.session = session at turn
    cases turn with
    | ask => exact .inr rfl
    | update change resume =>
      rcases selects.1 with ⟨tableId, rfl⟩ | same
      · exact .inl ⟨tableId, step, index, _, _, _, rfl, turns, underWay⟩
      · exact .inr (same before.session)

/-- Without a selection the session stays at its table, and an action that turns the session to
tables leaves the snapshot as it is. -/
theorem Stays.table {session : Session} (stays : Stays settings before event after)
    (run : Run settings { session } log before) (free : session.busy = false) :
    after.session.table.tableId = before.session.table.tableId ∧
      ∀ index job exchange, event = .moved index job exchange → job.turnsTable →
        after.session.table = before.session.table := by
  rcases stays with ⟨step, unselected⟩
  rcases run.exclusive free with ⟨holder, exclusive⟩
  have same : ∀ index job exchange, event = .moved index job exchange → job.turnsTable →
      after.session.table = before.session.table := by
    rintro index job exchange rfl turns
    rcases selects_or exclusive step turns with ⟨tableId, selects⟩ | same
    · exact absurd selects (unselected tableId)
    · exact same
  refine ⟨?_, same⟩
  cases event with
  | begun job =>
    cases step
    rfl
  | moved index job exchange =>
    by_cases turns : job.turnsTable
    · rw [same index job exchange rfl turns]
    · exact (operation_of_move run step).tableId turns

/-! ## The last selection of a run -/

/-- A session has just come to a table: it was opened there, or turned there. -/
inductive Selected (settings : Settings) (first : UInt32) : UInt32 → List Event → World → Prop
  | opened : Selected settings first first [] (World.opened first)
  | turned {tableId : UInt32} {early : List Event} {before after : World} {event : Event}
      (run : Run settings (World.opened first) early before)
      (selects : Selects settings tableId before event after) :
      Selected settings first tableId (early ++ [event]) after

theorem Selected.run (selected : Selected settings first tableId log world) :
    Run settings (World.opened first) log world := by
  cases selected with
  | opened => exact .refl _
  | turned run selects => exact run.snoc selects.1

theorem Selected.table (selected : Selected settings first tableId log world) :
    world.session.table = .opened tableId := by
  cases selected with
  | opened => rfl
  | turned _ selects => exact selects.opened

/-- No intent acts at that moment. -/
theorem Selected.idle (selected : Selected settings first tableId log world) {intent : Intent}
    {rest : Procedure Session (Except ActionFault Outcome)}
    (underWay : world.running[index]? = some ⟨.user (.dispatch intent), rest⟩) :
    rest = (settings.dispatch intent).run ∨ ∃ result, rest = .finish result := by
  cases selected with
  | opened => exact absurd underWay (by simp [World.opened])
  | @turned _ early before _ event run selects =>
    rcases Run.exclusive run rfl with ⟨holder, exclusive⟩
    rcases selects.held exclusive with ⟨selector, job, exchange, rfl, turns, held⟩
    have apart : selector ≠ index := by
      rintro rfl
      rcases selects.1.turn with ⟨_, _, _, _, ready⟩
      cases underWay.symm.trans ready
      exact absurd turns (by simp [Job.turnsTable])
    have before : before.running[index]? = some ⟨.user (.dispatch intent), rest⟩ := by
      cases selects.1 with
      | move _ _ _ =>
        rw [← underWay]
        exact (List.getElem?_set_ne apart).symm
    -- the selector has the token, so whoever else is under way has yet to begin or is finished
    have outside := exclusive.outside index _ (by rw [held]; simpa using apart) before
    cases outside with
    | fresh => exact .inl rfl
    | ended result => exact .inr ⟨result, rfl⟩

/-- Every run has come to its present table at some moment, and has stayed there since. -/
theorem exists_selected (run : Run settings (opened first) log world) :
    ∃ early since selected, log = early ++ since ∧
      Selected settings first world.session.table.tableId early selected ∧
      Path (Stays settings) selected since world := by
  generalize start : opened first = origin at run
  induction run with
  | refl =>
    subst start
    exact ⟨[], [], _, rfl, .opened, .refl _⟩
  | @snoc middle last log event run step hypothesis =>
    subst start
    by_cases selects : ∃ tableId, Selects settings tableId middle event last
    · rcases selects with ⟨tableId, selects⟩
      refine ⟨log ++ [event], [], last, (List.append_nil _).symm, ?_, .refl _⟩
      rw [selects.opened]
      exact .turned run selects
    · rcases hypothesis with ⟨early, since, selected, rfl, reached, path⟩
      have stays : Stays settings middle event last :=
        ⟨step, fun tableId turned => selects ⟨tableId, turned⟩⟩
      refine ⟨early, since ++ [event], selected, List.append_assoc .., ?_, path.snoc stays⟩
      rw [(stays.table run rfl).1]
      exact reached

end World

end Holdem
