import Holdem.Proofs.Session.Exclusion

/-!
# Turns that nothing divides

A question that is answered at once is not separated from the turns before and after it, so what a
procedure does around it nobody else can see. A procedure may break an invariant there and restore
it before anybody else has a turn.

`Procedure.Upholds` asks for the invariant of a discipline only where somebody else can come in, and
lets the procedure count on what the discipline permits the others to do then. The procedure itself
can do more than that. In a session it is the action with the token: what comes in between its turns
are polls, and actions that are turned away. So a session upholds a discipline when its polls keep
it and the body of every action upholds it.
-/

namespace Holdem

namespace Discipline

variable {σ : Type}

/-- What can have become of a state after a turn of somebody who keeps a discipline. -/
def Allows (discipline : Discipline σ) (before after : σ) : Prop :=
  discipline.invariant after ∧ discipline.permits before after

end Discipline

namespace Procedure

variable {σ α β : Type} {discipline own : Discipline σ} {property : α → σ → Prop} {state : σ}

/-- Going on from a state, a procedure satisfies the invariant of a discipline wherever somebody
else can come in, goes on from whatever state is allowed then, and comes to a result and a state
with a property. -/
def Upholds (discipline : Discipline σ) (property : α → σ → Prop) : Procedure σ α → σ → Prop
  | .finish result, state => discipline.invariant state ∧ property result state
  | .stuck, _ => discipline.mayBreak
  | .update change resume, state =>
    (resume state).Upholds discipline property (change state) ∧
      ((resume state).asksAtOnce = false → discipline.invariant (change state) ∧
        ∀ later, discipline.Allows (change state) later →
          (resume state).Upholds discipline property later)
  | .ask request resume, state =>
    (request.isImmediate = false → discipline.invariant state) ∧
      ∀ answer, discipline.expects request answer →
        (resume answer).Upholds discipline property state ∧
          (request.isImmediate = false → ∀ later, discipline.Allows state later →
            (resume answer).Upholds discipline property later)

/-- A turn leaves a procedure that still upholds the discipline. Where somebody else can come in
after it, the invariant holds, and the procedure upholds the discipline from wherever they may leave
off. -/
theorem Upholds.turn {procedure rest : Procedure σ α} {after : σ} {exchange : Option Exchange}
    (upholds : procedure.Upholds discipline property state)
    (turn : procedure.Turn state exchange rest after)
    (expected : ∀ heard, exchange = some heard → discipline.expects heard.request heard.answer) :
    rest.Upholds discipline property after ∧
      ((procedure.asksAtOnce || rest.asksAtOnce) = false → discipline.invariant after ∧
        ∀ later, discipline.Allows after later → rest.Upholds discipline property later) := by
  cases turn with
  | update change resume => exact upholds
  | ask request resume answer =>
    rcases upholds with ⟨holds, onwards⟩
    rcases onwards answer (expected _ rfl) with ⟨rest, free⟩
    refine ⟨rest, ?_⟩
    intro divided
    have waited : request.isImmediate = false := (Bool.or_eq_false_iff.mp divided).1
    exact ⟨holds waited, free waited⟩

end Procedure

/-! ## Steps -/

namespace Step

variable {α β : Type} {law own : Discipline Table} {property : α → Table → Prop}
  {last : β → Table → Prop} {session : Session}

/-- A step upholds a discipline of the snapshot, and what it completes with has a property beside
the snapshot at that moment. -/
def Upholds (law : Discipline Table) (property : α → Table → Prop) (step : Step α)
    (session : Session) : Prop :=
  Procedure.Upholds law.onTable
    (fun result after => ∀ value, result = .ok value → property value after.table) step.run session

end Step

/-! ## Jobs with and without the token -/

section Jobs

variable {settings : Settings} {α : Type}

theorem asksAtOnce_bind_release (procedure : Procedure Session (Except ActionFault α)) :
    (procedure.bind Step.release).asksAtOnce = procedure.asksAtOnce := by
  cases procedure with
  | finish | stuck | update | ask => rfl

theorem bind_release_ne_finish (procedure : Procedure Session (Except ActionFault α))
    (result : Except ActionFault α) : procedure.bind Step.release ≠ .finish result := by
  cases procedure with
  | finish | stuck | update | ask => exact nofun

theorem unfinished_of_bind_release {action other : UserAction}
    (rest : Procedure Session (Except ActionFault action.Value)) (value : other.Value) :
    (⟨.user action, rest.bind Step.release⟩ : Running) ≠ ⟨.user other, .finish (.ok value)⟩ := by
  intro same
  simp only [Running.mk.injEq, Job.user.injEq] at same
  rcases same with ⟨rfl, finished⟩
  exact absurd (eq_of_heq finished) (bind_release_ne_finish rest (.ok value))

/-- A poll waits for its answer like everyone else. -/
theorem Polled.not_asksAtOnce {rest : Procedure Session PollOutcome} {traffic : List Exchange}
    (polled : Polled settings rest traffic) : rest.asksAtOnce = false ∧ rest ≠ .stuck := by
  cases polled with
  | looking | asking | merging | finished => exact ⟨rfl, nofun⟩

theorem Running.Outside.not_asksAtOnce {turned : Prop} {traffic : List Exchange}
    {running : Running} (outside : running.Outside settings turned traffic) :
    running.rest.asksAtOnce = false ∧ running.rest ≠ .stuck := by
  cases outside with
  | fresh action =>
    rw [settings.act_eq_exclusively]
    exact ⟨rfl, nofun⟩
  | ended => exact ⟨rfl, nofun⟩
  | poll polled => exact polled.not_asksAtOnce

end Jobs

/-! ## Worlds -/

/-- The polls of a session keep a discipline of the snapshot, whose changes add up, and the body of
every action upholds it. What an action completes with has a property. -/
structure Settings.Upholds (settings : Settings) (law : Discipline Table)
    (property : (action : UserAction) → action.Value → Prop) : Prop where
  trans : ∀ {first middle last}, law.permits first middle → law.permits middle last →
    law.permits first last
  merges : ∀ poll, law.Admits fun table => (table.merge settings.mode poll).1
  bodies : ∀ (action : UserAction) (session : Session), law.invariant session.table →
    Step.Upholds law (fun value _ => property action value) (settings.body action) session

namespace World

variable {settings : Settings} {law : Discipline Table}
  {property : (action : UserAction) → action.Value → Prop} {world next : World} {event : Event}
  {log : List Event} {holder later : Option Nat} {index : Nat} {session : Session} {job : Job}
  {exchange : Option Exchange}

/-- What is left of the body of an action upholds a discipline. -/
def BodyUpholds (law : Discipline Table) (property : (action : UserAction) → action.Value → Prop)
    {action : UserAction} (rest : Procedure Session (Except ActionFault action.Value))
    (session : Session) : Prop :=
  rest.Upholds law.onTable
    (fun result _ => ∀ value, result = .ok value → property action value) session

/-- A world in which the action with the token upholds a discipline. -/
structure Upholds (law : Discipline Table)
    (property : (action : UserAction) → action.Value → Prop) (world : World)
    (holder : Option Nat) : Prop where
  /-- The invariant holds unless a job is held. -/
  free : world.held = none → law.invariant world.session.table
  held : ∀ index, world.held = some index → holder = some index
  /-- The action with the token goes on from the session as it is, and unless it is held from
  whatever the others make of the session. -/
  holding : ∀ index, holder = some index →
    ∃ (action : UserAction) (rest : Procedure Session (Except ActionFault action.Value)),
      world.running[index]? = some ⟨.user action, rest.bind Step.release⟩ ∧
        BodyUpholds law property rest world.session ∧
        (world.held = none → ∀ later, law.onTable.Allows world.session later →
          BodyUpholds law property rest later)
  ended : ∀ action value, ⟨.user action, .finish (.ok value)⟩ ∈ world.running →
    property action value

/-- What a discipline expects of an event: that the answer, if there is one, is an expected one. -/
def Answered (law : Discipline Table) : Event → Prop
  | .begun _ => True
  | .moved _ _ exchange =>
    ∀ heard, exchange = some heard → law.expects heard.request heard.answer

theorem upholds_opened {tableId : UInt32} (holds : law.invariant (.opened tableId)) :
    (opened tableId).Upholds law property none where
  free _ := holds
  held _ held := absurd held (by simp [opened])
  holding _ none := absurd none (by simp)
  ended _ _ member := absurd member List.not_mem_nil

theorem Upholds.begin (upholds : world.Upholds law property holder) (settings : Settings)
    (job : Job) :
    Upholds law property
      { world with running := world.running ++ [⟨job, settings.procedure job⟩] } holder where
  free := upholds.free
  held := upholds.held
  holding index has := by
    rcases upholds.holding index has with ⟨action, rest, underWay, onwards⟩
    have within := (List.getElem?_eq_some_iff.mp underWay).1
    exact ⟨action, rest, by rw [List.getElem?_append_left within]; exact underWay, onwards⟩
  ended action value member := by
    rcases List.mem_append.mp member with old | new
    · exact upholds.ended action value old
    · have fresh := List.mem_singleton.mp new
      rcases job with other | _
      · simp only [Running.mk.injEq, Job.user.injEq] at fresh
        rcases fresh with ⟨rfl, begun⟩
        simp only [Settings.procedure, settings.act_eq_exclusively, heq_eq_eq] at begun
        exact nomatch begun
      · exact absurd fresh (by simp)

/-- A job is held by its own turn. -/
theorem held_afterTurn {before after : Running} {other : Nat}
    (held : (world.afterTurn index before after session).held = some other) : index = other := by
  simp only [afterTurn] at held
  split at held
  · exact Option.some.inj held
  · exact absurd held (by simp)

/-- A turn that does not end an action leaves what the ended ones have completed with. -/
theorem Upholds.ended_afterTurn (upholds : world.Upholds law property holder)
    {before after : Running}
    (unfinished : ∀ action value, after ≠ ⟨.user action, .finish (.ok value)⟩) :
    ∀ action value, ⟨.user action, .finish (.ok value)⟩ ∈
      (world.afterTurn index before after session).running → property action value := by
  intro action value member
  rcases List.mem_or_eq_of_mem_set member with old | new
  · exact upholds.ended action value old
  · exact absurd new.symm (unfinished action value)

/-- Somebody without the token has a turn that is allowed. -/
theorem Upholds.others (upholds : world.Upholds law property holder)
    (kept : settings.Upholds law property) (free : world.held = none)
    (allowed : law.Allows world.session.table session.table) {before after : Running}
    (apart : holder ≠ some index)
    (waits : (before.rest.asksAtOnce || after.rest.asksAtOnce) = false)
    (unfinished : ∀ action value, after ≠ ⟨.user action, .finish (.ok value)⟩) :
    (world.afterTurn index before after session).Upholds law property holder where
  free _ := allowed.1
  held other held := by simp [afterTurn, waits] at held
  holding other has := by
    rcases upholds.holding other has with ⟨action, rest, otherUnderWay, _, onwards⟩
    refine ⟨action, rest, ?_, onwards free session allowed, ?_⟩
    · have different : index ≠ other := by
        rintro rfl
        exact apart has
      simp only [afterTurn, List.getElem?_set_ne different]
      exact otherUnderWay
    · intro _ last allowedLast
      exact onwards free last ⟨allowedLast.1, kept.trans allowed.2 allowedLast.2⟩
  ended := upholds.ended_afterTurn unfinished

theorem Upholds.turn_outside (upholds : world.Upholds law property holder)
    (kept : settings.Upholds law property) (exclusive : Exclusive settings log world holder)
    {before after : Procedure Session job.Result}
    (underWay : world.running[index]? = some ⟨job, before⟩) (without : holder ≠ some index)
    (free : world.held = none) (turn : before.Turn world.session exchange after session) :
    ∃ later, Exclusive settings (log ++ [.moved index job exchange])
        (world.afterTurn index ⟨job, before⟩ ⟨job, after⟩ session) later ∧
      (world.afterTurn index ⟨job, before⟩ ⟨job, after⟩ session).Upholds law property later := by
  have holds := upholds.free free
  have outside := exclusive.outside index _ without underWay
  have waits := outside.not_asksAtOnce.1
  rcases exclusive.turn_outside underWay without turn with ⟨later, exclusiveThen, handover⟩
  refine ⟨later, exclusiveThen, ?_⟩
  cases outside with
  | poll polled =>
    rcases polled.turn turn with ⟨polledThen, polls⟩
    have allowed : law.Allows world.session.table session.table := by
      rcases polls with rfl | ⟨_, poll, _, _, rfl⟩
      · exact ⟨holds, law.permits_refl _⟩
      · exact kept.merges poll world.session.table holds
    cases handover with
    | polled =>
      exact upholds.others kept free allowed without
        (Bool.or_eq_false_iff.mpr ⟨waits, polledThen.not_asksAtOnce.1⟩) fun _ _ => nofun
  | ended => cases turn
  | fresh action unturned =>
    rcases Running.turn_act turn with ⟨rfl, ⟨busy, rfl, rfl⟩ | ⟨token, rfl, rfl⟩⟩
    · cases handover with
      | acted | released => exact absurd rfl without
      | taken =>
        rw [exclusive.token] at busy
        exact absurd busy (by decide)
      | refused =>
        have same : law.Allows world.session.table world.session.table :=
          ⟨holds, law.permits_refl _⟩
        exact upholds.others kept free same without (Bool.or_eq_false_iff.mpr ⟨waits, rfl⟩)
          fun _ _ => nofun
    · cases handover with
      | acted | released => exact absurd rfl without
      | refused =>
        rw [exclusive.token] at token
        exact absurd token (by simp)
      | taken =>
        have ready := (@afterTurn_ready world index _
          ⟨.user action, (settings.body action).run.bind Step.release⟩
          { world.session with busy := true } underWay).1
        refine ⟨fun _ => holds, fun _ held => congrArg some (held_afterTurn held), ?_,
          upholds.ended_afterTurn fun _ _ => unfinished_of_bind_release _ _⟩
        intro other has
        obtain rfl : index = other := Option.some.inj has
        exact ⟨action, _, ready, kept.bodies action _ holds,
          fun _ last allowed => kept.bodies action last allowed.1⟩

theorem Upholds.turn_inside (upholds : world.Upholds law property (some index))
    (exclusive : Exclusive settings log world (some index))
    {before after : Procedure Session job.Result}
    (underWay : world.running[index]? = some ⟨job, before⟩)
    (turn : before.Turn world.session exchange after session)
    (answered : Answered law (.moved index job exchange)) :
    ∃ later, Exclusive settings (log ++ [.moved index job exchange])
        (world.afterTurn index ⟨job, before⟩ ⟨job, after⟩ session) later ∧
      (world.afterTurn index ⟨job, before⟩ ⟨job, after⟩ session).Upholds law property later := by
  rcases exclusive.turn_inside underWay turn with ⟨later, exclusiveThen, handover⟩
  refine ⟨later, exclusiveThen, ?_⟩
  rcases upholds.holding index rfl with ⟨action, rest, same, onwards, _⟩
  cases underWay.symm.trans same
  have ready := (@afterTurn_ready world index _ ⟨.user action, after⟩ session underWay).1
  rcases Procedure.turn_bind_cases turn with ⟨result, rfl, releases⟩ | ⟨next, goesOn, rfl⟩
  · -- the body is finished, and its last turn gives the token back
    cases releases
    obtain rfl : later = none := by
      have token := exclusiveThen.token
      simpa [afterTurn, Session.giveBack] using token.symm
    refine ⟨fun _ => onwards.1, ?_, fun _ none => absurd none (by simp), ?_⟩
    · intro other held
      simp [afterTurn, Procedure.bind, Procedure.asksAtOnce, Step.release] at held
    · intro other value member
      rcases List.mem_or_eq_of_mem_set member with old | new
      · exact upholds.ended other value old
      · simp only [Running.mk.injEq, Job.user.injEq] at new
        rcases new with ⟨rfl, finished⟩
        have completed := eq_of_heq finished
        simp only [Procedure.finish.injEq] at completed
        exact onwards.2 value completed.symm
  · obtain rfl : later = some index := by
      cases handover with
      | acted => rfl
      | refused _ other => exact absurd rfl other
      | released _ result _ done =>
        have finished := done.symm.trans ready
        simp only [Option.some.injEq, Running.mk.injEq, heq_eq_eq, true_and] at finished
        exact absurd finished.symm (bind_release_ne_finish _ _)
    rcases onwards.turn goesOn answered with ⟨onwardsThen, free⟩
    rw [← asksAtOnce_bind_release rest, ← asksAtOnce_bind_release next] at free
    refine ⟨?_, fun _ held => congrArg some (held_afterTurn held), ?_,
      upholds.ended_afterTurn fun _ _ => unfinished_of_bind_release _ _⟩
    · intro nobody
      exact (free (by simpa [afterTurn] using nobody)).1
    · intro other has
      obtain rfl : index = other := Option.some.inj has
      refine ⟨action, next, ready, onwardsThen, ?_⟩
      intro nobody
      exact (free (by simpa [afterTurn] using nobody)).2

theorem Upholds.step (upholds : world.Upholds law property holder)
    (kept : settings.Upholds law property) (exclusive : Exclusive settings log world holder)
    (step : Step settings world event next) (answered : Answered law event) :
    ∃ later, Exclusive settings (log ++ [event]) next later ∧
      next.Upholds law property later := by
  cases step with
  | begin job => exact ⟨holder, exclusive.begin job, upholds.begin settings job⟩
  | @move index job before after exchange session underWay next turn =>
    by_cases has : holder = some index
    · subst has
      exact upholds.turn_inside exclusive underWay turn answered
    · have free : world.held = none := by
        rcases next with free | held
        · exact free
        · exact absurd (upholds.held index held) has
      exact upholds.turn_outside kept exclusive underWay has free turn

/-- In a run with expected answers the world upholds what its actions uphold. -/
theorem Run.upholds {tableId : UInt32} (run : Run settings (opened tableId) log world)
    (kept : settings.Upholds law property) (holds : law.invariant (.opened tableId))
    (answered : ∀ event ∈ log, Answered law event) :
    ∃ holder, Exclusive settings log world holder ∧ world.Upholds law property holder := by
  generalize start : opened tableId = first at run
  induction run with
  | refl =>
    subst start
    exact ⟨none, .start settings rfl, upholds_opened holds⟩
  | snoc _ step hypothesis =>
    rcases hypothesis fun event member => answered event (List.mem_append_left _ member) with
      ⟨holder, exclusive, upholds⟩
    exact upholds.step kept exclusive step
      (answered _ (List.mem_append_right _ List.mem_cons_self))

/-- Nothing breaks off where a discipline does not let it. -/
theorem Upholds.not_stuck (upholds : world.Upholds law property holder)
    (exclusive : Exclusive settings log world holder) (safe : ¬law.mayBreak) :
    ∀ running ∈ world.running, running.rest ≠ .stuck := by
  intro running member
  rcases List.mem_iff_getElem?.mp member with ⟨index, underWay⟩
  by_cases has : holder = some index
  · rcases upholds.holding index has with ⟨action, rest, same, onwards, _⟩
    cases underWay.symm.trans same
    cases rest with
    | stuck => exact absurd onwards safe
    | finish | update | ask => exact nofun
  · exact (exclusive.outside index running has underWay).not_asksAtOnce.2

end World

end Holdem
