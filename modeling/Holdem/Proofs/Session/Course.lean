import Holdem.Proofs.Session.World

/-!
# Procedures with polls in flight

A procedure that has the token is the only one that changes the session, apart from polls. Its
course is therefore given by the answers to its questions and the polls that are merged while it
waits for them. A procedure that leaves the snapshot alone comes back to the snapshot that the polls
have made.
-/

namespace Holdem

/-- Merges polls one after another. -/
def Table.mergeAll (mode : PlayMode) (polls : List Poll) (table : Table) : Table :=
  polls.foldl (fun table poll => (table.merge mode poll).1) table

theorem Table.mergeAll_append (mode : PlayMode) (polls later : List Poll) (table : Table) :
    table.mergeAll mode (polls ++ later) = (table.mergeAll mode polls).mergeAll mode later :=
  List.foldl_append

namespace Procedure

/-- A procedure goes from one session to another and comes to a result, while polls are merged that
come in between its questions and their answers. -/
inductive Course (mode : PlayMode) {α : Type} :
    Procedure Session α → Session → List Poll → α → Session → Prop
  | finish (result : α) (session : Session) : Course mode (.finish result) session [] result session
  | update {change : Session → Session} {resume : Session → Procedure Session α}
      {session last : Session} {polls : List Poll} {result : α}
      (rest : Course mode (resume session) (change session) polls result last) :
      Course mode (.update change resume) session polls result last
  | ask {request : Request} {resume : request.Answer → Procedure Session α}
      {session last : Session} {inFlight later polls : List Poll} {result : α}
      (waits : request.isImmediate → inFlight = []) (answer : request.Answer)
      (rest : Course mode (resume answer) (session.onTable (Table.mergeAll mode inFlight)) later
        result last)
      (all : polls = inFlight ++ later) :
      Course mode (.ask request resume) session polls result last

namespace Course

variable {mode : PlayMode} {α β : Type} {session last : Session} {polls : List Poll}

/-- The course of a sequence is a course of the first procedure and one of the next. -/
theorem of_bind {procedure : Procedure Session α} {next : α → Procedure Session β} {result : β}
    (course : (procedure.bind next).Course mode session polls result last) :
    ∃ value middle before after, procedure.Course mode session before value middle ∧
      (next value).Course mode middle after result last ∧ polls = before ++ after := by
  induction procedure generalizing session polls with
  | finish value => exact ⟨value, session, [], polls, .finish value session, course, rfl⟩
  | stuck => cases course
  | update change resume hypothesis =>
    cases course with
    | update rest =>
      rcases hypothesis session rest with ⟨value, middle, before, after, first, second, all⟩
      exact ⟨value, middle, before, after, .update first, second, all⟩
  | ask request resume hypothesis =>
    cases course with
    | @ask _ _ _ _ inFlight later _ _ waits answer rest all =>
      rcases hypothesis answer rest with ⟨value, middle, before, after, first, second, laterAll⟩
      refine ⟨value, middle, inFlight ++ before, after, .ask waits answer first rfl, second, ?_⟩
      rw [all, laterAll, List.append_assoc]

/-- The discipline of leaving the snapshot alone. -/
def untouched : Discipline Table where
  invariant _ := True
  permits before after := after = before
  permits_refl _ := rfl
  mayBreak := True

/-- A procedure that leaves the snapshot alone ends with what the polls have made of it. -/
theorem table_of_keeps {procedure : Procedure Session α} {result : α}
    (course : procedure.Course mode session polls result last)
    (kept : procedure.Keeps untouched.onTable) :
    last.table = session.table.mergeAll mode polls := by
  induction course with
  | finish => rfl
  | @update _ _ session _ _ _ _ hypothesis =>
    rcases kept session trivial with ⟨⟨_, same⟩, keptRest⟩
    rw [hypothesis keptRest]
    exact congrArg (Table.mergeAll mode _) same
  | ask _ answer _ all hypothesis =>
    rw [hypothesis (kept answer trivial), all, Table.mergeAll_append]
    rfl

end Course

end Procedure

/-! ## Steps -/

namespace Step

variable {mode : PlayMode} {α β : Type} {session last : Session} {polls : List Poll} {value : β}

/-- The course of a step that completes with a value. -/
abbrev Course (mode : PlayMode) (step : Step α) (session : Session) (polls : List Poll) (value : α)
    (last : Session) : Prop :=
  Procedure.Course mode step.run session polls (.ok value) last

/-- A sequence that completes has completed its first step. -/
theorem course_bind {step : Step α} {next : α → Step β}
    (course : Course mode (step >>= next) session polls value last) :
    ∃ first middle before after, Course mode step session before first middle ∧
      Course mode (next first) middle after value last ∧ polls = before ++ after := by
  rcases Procedure.Course.of_bind course with ⟨result, middle, before, after, first, second, all⟩
  rcases result with fault | result
  · cases second
  · exact ⟨result, middle, before, after, first, second, all⟩

theorem course_pure {given : β} (course : Course mode (pure given) session polls value last) :
    given = value ∧ polls = [] ∧ last = session := by
  cases course
  exact ⟨rfl, rfl, rfl⟩

theorem course_table {seen : Table} (course : Course mode Step.table session polls seen last) :
    seen = session.table ∧ polls = [] ∧ last = session := by
  cases course with
  | update rest =>
    cases rest
    exact ⟨rfl, rfl, rfl⟩

theorem course_require {answer : Except ε β} {fault : ε → ActionFault}
    (course : Course mode (Step.require answer fault) session polls value last) :
    answer = .ok value ∧ polls = [] ∧ last = session := by
  rcases answer with reason | result
  · cases course
  · cases course
    exact ⟨rfl, rfl, rfl⟩

/-- A change with a result is made on the snapshot as it is. -/
theorem course_changeWith {update : Table → Option (Table × β)}
    (course : Course mode (Step.changeWith update) session polls value last) :
    ∃ table, update session.table = some (table, value) ∧ polls = [] ∧
      last = { session with table } := by
  cases course with
  | update rest =>
    rcases changed : update session.table with _ | ⟨table, result⟩
    · simp only [changed, Option.map_none] at rest
      cases rest
    · simp only [changed, Option.map_some] at rest
      cases rest
      exact ⟨table, rfl, rfl, rfl⟩

/-- A step that completes with the token has completed without it. -/
theorem course_exclusively {step : Step β}
    (course : Course mode (Step.exclusively step) session polls value last) :
    ∃ middle, Course mode step session.take.1 polls value middle ∧ last = middle.giveBack.1 := by
  cases course with
  | update rest =>
    by_cases free : session.take.2
    · simp only [free, ↓reduceIte] at rest
      rcases Procedure.Course.of_bind rest with ⟨result, middle, before, after, first, second, all⟩
      cases second with
      | update finished =>
        cases finished
        rw [List.append_nil] at all
        rw [all]
        exact ⟨middle, first, rfl⟩
    · simp only [free, Bool.false_eq_true, ↓reduceIte] at rest
      cases rest

end Step

end Holdem
