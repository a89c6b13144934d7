import Holdem.Proofs.Session.World

/-!
# Turns in a row

What the steps of an action come to when nothing happens in between: which turns they take, what they
ask in them and the value they complete with. The rules follow the steps as they are put together, so
that a run can be found for answers that are not given in full. Every row of turns of a job is a run.
-/

namespace Holdem

namespace Procedure

variable {σ α β : Type}

/-- Turns of a procedure in a row, with what was asked in each. -/
inductive Turns : Procedure σ α → σ → List (Option Exchange) → Procedure σ α → σ → Prop
  | refl (procedure : Procedure σ α) (state : σ) : Turns procedure state [] procedure state
  | cons {first middle last : Procedure σ α} {before between after : σ}
      {exchange : Option Exchange} {exchanges : List (Option Exchange)}
      (turn : first.Turn before exchange middle between)
      (rest : Turns middle between exchanges last after) :
      Turns first before (exchange :: exchanges) last after

theorem Turn.bind {procedure rest : Procedure σ α} {state after : σ} {exchange : Option Exchange}
    (turn : procedure.Turn state exchange rest after) (next : α → Procedure σ β) :
    (procedure.bind next).Turn state exchange (rest.bind next) after := by
  cases turn with
  | update change resume => exact .update change (fun state => (resume state).bind next) state
  | ask request resume answer =>
    exact .ask request (fun answer => (resume answer).bind next) answer state

namespace Turns

theorem append {first middle last : Procedure σ α} {before between after : σ}
    {exchanges later : List (Option Exchange)} (turns : Turns first before exchanges middle between)
    (rest : Turns middle between later last after) :
    Turns first before (exchanges ++ later) last after := by
  induction turns with
  | refl => exact rest
  | cons turn _ hypothesis => exact .cons turn (hypothesis rest)

theorem bind {procedure rest : Procedure σ α} {state after : σ} {exchanges : List (Option Exchange)}
    (turns : Turns procedure state exchanges rest after) (next : α → Procedure σ β) :
    Turns (procedure.bind next) state exchanges (rest.bind next) after := by
  induction turns with
  | refl => exact .refl _ _
  | cons turn _ hypothesis => exact .cons (turn.bind next) hypothesis

end Turns

end Procedure

/-! ## Steps that complete -/

namespace Step

variable {α β : Type} {state between after : Session} {exchanges later : List (Option Exchange)}

/-- A step can complete with a value, and these turns take it there. -/
def Completes (step : Step α) (state : Session) (exchanges : List (Option Exchange)) (value : α)
    (after : Session) : Prop :=
  step.run.Turns state exchanges (.finish (.ok value)) after

theorem Completes.bind {step : Step α} {value : α} {next : α → Step β}
    {rest : Procedure Session (Except ActionFault β)}
    (completes : step.Completes state exchanges value between)
    (turns : (next value).run.Turns between later rest after) :
    (step >>= next).run.Turns state (exchanges ++ later) rest after :=
  (Procedure.Turns.bind completes _).append turns

theorem completes_pure (value : α) (state : Session) :
    (pure value : Step α).Completes state [] value state :=
  .refl _ state

theorem completes_table (state : Session) : Step.table.Completes state [none] state.table state :=
  .cons (.update _ _ state) (.refl _ state)

theorem completes_require {ε : Type} {answer : Except ε α} {value : α} (passed : answer = .ok value)
    (fault : ε → ActionFault) (state : Session) :
    (require answer fault).Completes state [] value state := by
  rw [passed]
  exact completes_pure value state

theorem completes_ask (request : Request) (answer : request.Answer) (state : Session) :
    (Step.ask request).Completes state [some ⟨request, answer⟩] answer state :=
  .cons (.ask _ _ answer state) (.refl _ state)

/-- Where the token is free, a step that needs it takes the turns of its own after one for the
token. -/
theorem turns_exclusively {step : Step α} {rest : Procedure Session (Except ActionFault α)}
    (free : state.busy = false) (turns : step.run.Turns state.take.1 exchanges rest after) :
    (exclusively step).run.Turns state (none :: exchanges) (rest.bind release) after := by
  apply Procedure.Turns.cons (.update _ _ state)
  simp only [Session.take, free, Bool.not_false, ↓reduceIte]
  exact turns.bind release

end Step

/-! ## Runs of one job -/

namespace World

variable {settings : Settings}

/-- After its turn a job can go on with what is left of it. -/
theorem afterTurn_ready {world : World} {index : Nat} {before after : Running} (session : Session)
    (underWay : world.running[index]? = some before) :
    (world.afterTurn index before after session).running[index]? = some after ∧
      ((world.afterTurn index before after session).held = none ∨
        (world.afterTurn index before after session).held = some index) := by
  have within := (List.getElem?_eq_some_iff.mp underWay).1
  refine ⟨by simp [afterTurn, within], ?_⟩
  simp only [afterTurn]
  split
  · exact .inr rfl
  · exact .inl rfl

/-- Turns in a row of a job that nothing comes before are a run. -/
theorem exists_run_of_turns {world : World} {index : Nat} {job : Job}
    {before rest : Procedure Session job.Result} {session : Session}
    {exchanges : List (Option Exchange)}
    (underWay : world.running[index]? = some ⟨job, before⟩)
    (next : world.held = none ∨ world.held = some index)
    (turns : before.Turns world.session exchanges rest session) :
    ∃ last, Run settings world (exchanges.map (.moved index job)) last ∧
      last.running[index]? = some ⟨job, rest⟩ ∧ (last.held = none ∨ last.held = some index) ∧
      last.session = session := by
  generalize started : world.session = state at turns
  induction turns generalizing world with
  | refl => exact ⟨world, .refl world, underWay, next, started⟩
  | @cons first middle _ _ between _ exchange _ turn _ hypothesis =>
    rw [← started] at turn
    rcases world.afterTurn_ready between underWay with ⟨underWayAfter, nextAfter⟩
    rcases hypothesis underWayAfter nextAfter rfl with ⟨last, run, reached⟩
    exact ⟨last, (Path.snoc (.refl world) (.move underWay next turn)).append run, reached⟩

/-- In a session that has just been opened, turns in a row of an intent are a run. -/
theorem exists_run_of_dispatch {intent : Intent} {tableId : UInt32} {session : Session}
    {rest : Procedure Session (Except ActionFault Outcome)} {exchanges : List (Option Exchange)}
    (turns : (settings.dispatch intent).run.Turns (.opened tableId) exchanges rest session) :
    ∃ last, Run settings (opened tableId)
        (.begun (.user (.dispatch intent)) ::
          exchanges.map (.moved 0 (.user (.dispatch intent)))) last ∧
      last.running[0]? = some ⟨.user (.dispatch intent), rest⟩ ∧
      (last.held = none ∨ last.held = some 0) ∧ last.session = session := by
  let job : Job := .user (.dispatch intent)
  let begun : World := { opened tableId with running := [⟨job, settings.procedure job⟩] }
  have begins : Step settings (opened tableId) (.begun job) begun := .begin (opened tableId) job
  have underWay : begun.running[0]? = some ⟨job, (settings.dispatch intent).run⟩ := rfl
  rcases exists_run_of_turns underWay (.inl rfl) turns with ⟨last, run, reached⟩
  exact ⟨last, (Path.snoc (.refl _) begins).append run, reached⟩

end World

end Holdem
