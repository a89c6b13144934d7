import Holdem.Proofs.Session.Confirmation
import Holdem.Proofs.Session.Token

/-!
# One action at a time

Any number of actions can be begun in a session, at any moment and on top of each other. The token
lets one of them act, from the turn in which it takes the token to the turn in which it gives it
back. Every other action that tries meanwhile is turned away in its first turn, before it has read,
changed or asked anything. Polls do not take part in that.

`Exclusive` says how every job stands towards the token, and `Handover` what one step does to it.
They are all that later modules need to know about the order in which jobs take their turns.
-/

namespace Holdem

namespace Procedure

variable {σ α β : Type}

/-- What can be left of a procedure after some turns of it. -/
inductive LeftOf (procedure : Procedure σ α) : Procedure σ α → Prop
  | whole : LeftOf procedure procedure
  | turn {rest after : Procedure σ α} {state later : σ} {exchange : Option Exchange}
      (left : LeftOf procedure rest) (turn : rest.Turn state exchange after later) :
      LeftOf procedure after

/-- A sequence takes a turn of its first part as long as there is one. -/
theorem turn_bind_cases {procedure : Procedure σ α} {next : α → Procedure σ β}
    {rest : Procedure σ β} {state after : σ} {exchange : Option Exchange}
    (turn : (procedure.bind next).Turn state exchange rest after) :
    (∃ value, procedure = .finish value ∧ (next value).Turn state exchange rest after) ∨
      ∃ later, procedure.Turn state exchange later after ∧ rest = later.bind next := by
  cases procedure with
  | finish value => exact .inl ⟨value, rfl, turn⟩
  | stuck => cases turn
  | update change resume =>
    cases turn
    exact .inr ⟨_, .update change resume state, rfl⟩
  | ask request resume =>
    cases turn with
    | ask _ _ answer => exact .inr ⟨_, .ask request resume answer state, rfl⟩

/-- What is left of a procedure that follows a conversation follows it too. -/
theorem LeftOf.follows {settings : Settings} {procedure rest : Procedure Session α}
    {progress : Progress} {ends : α → Progress → Prop} (left : procedure.LeftOf rest)
    (follows : procedure.Follows settings progress ends) :
    ∃ progress, rest.Follows settings progress ends := by
  induction left with
  | whole => exact ⟨progress, follows⟩
  | turn _ turn hypothesis =>
    rcases hypothesis with ⟨progress, follows⟩
    cases turn with
    | update =>
      rcases follows _ with ⟨_, next, _, continues⟩
      exact ⟨next, continues⟩
    | ask _ _ answer =>
      rcases follows answer with ⟨next, _, continues⟩
      exact ⟨next, continues⟩

theorem Follows.busy {settings : Settings} {procedure rest : Procedure Session α}
    {progress : Progress} {ends : α → Progress → Prop} {session after : Session}
    {exchange : Option Exchange} (follows : procedure.Follows settings progress ends)
    (turn : procedure.Turn session exchange rest after) : after.busy = session.busy := by
  cases turn with
  | update => exact (follows session).1
  | ask => rfl

end Procedure

/-! ## Jobs inside and outside -/

namespace World

/-- The job at an index has taken a turn. -/
def Turned (log : List Event) (index : Nat) : Prop :=
  ∃ job exchange, Event.moved index job exchange ∈ log

theorem turned_begun {log : List Event} {job : Job} {index : Nat} :
    Turned (log ++ [.begun job]) index ↔ Turned log index := by
  simp [Turned]

theorem turned_moved {log : List Event} {job : Job} {exchange : Option Exchange}
    {index other : Nat} :
    Turned (log ++ [.moved index job exchange]) other ↔ Turned log other ∨ other = index := by
  simp only [Turned, List.mem_append, List.mem_singleton, Event.moved.injEq]
  constructor
  · rintro ⟨_, _, early | ⟨same, _⟩⟩
    · exact .inl ⟨_, _, early⟩
    · exact .inr same
  · rintro (⟨_, _, early⟩ | same)
    · exact ⟨_, _, .inl early⟩
    · exact ⟨_, _, .inr ⟨same, rfl, rfl⟩⟩

theorem traffic_of_unturned {log : List Event} {index : Nat} (unturned : ¬Turned log index) :
    traffic log index = [] := by
  apply List.filterMap_eq_nil_iff.mpr
  intro event member
  cases event with
  | begun => rfl
  | moved mover job exchange =>
    have other : mover ≠ index := by
      rintro rfl
      exact unturned ⟨job, exchange, member⟩
    simp [Event.exchangeOf?, other]

/-- An action acts from its first turn until it is finished. -/
def Acts (log : List Event) (world : World) (index : Nat) : Prop :=
  Turned log index ∧ ∃ action rest, world.running[index]? = some ⟨.user action, rest⟩ ∧
    ∀ result, rest ≠ .finish result

end World

/-- How far a poll has come, with what it has exchanged: one question about the table that it has
looked at. -/
inductive Polled (settings : Settings) :
    Procedure Session PollOutcome → List Exchange → Prop
  | looking : Polled settings settings.poll []
  | asking (tableId : UInt32) : Polled settings (settings.asking tableId) []
  | merging {tableId : UInt32} {raw : String} {poll : Poll} (read : Poll.ofText? raw = some poll) :
    Polled settings (settings.merging tableId poll) [Settings.stateAnswered tableId raw]
  | finished (outcome : PollOutcome) (traffic : List Exchange) :
    Polled settings (.finish outcome) traffic

/-- What a poll may do to the session: nothing, or merge what it was told of the session's table. -/
def PollsFrom (settings : Settings) (traffic : List Exchange) (before after : Session) : Prop :=
  after = before ∨ ∃ raw poll, Poll.ofText? raw = some poll ∧
    traffic = [Settings.stateAnswered before.table.tableId raw] ∧
    after = (before.merge settings.mode poll).1

theorem PollsFrom.busy {settings : Settings} {traffic : List Exchange} {before after : Session}
    (polls : PollsFrom settings traffic before after) : after.busy = before.busy := by
  rcases polls with rfl | ⟨raw, poll, _, _, rfl⟩
  · rfl
  · rfl

theorem Polled.turn {settings : Settings} {rest next : Procedure Session PollOutcome}
    {session after : Session} {exchange : Option Exchange} {traffic : List Exchange}
    (polled : Polled settings rest traffic) (turn : rest.Turn session exchange next after) :
    Polled settings next (traffic ++ exchange.toList) ∧
      PollsFrom settings traffic session after := by
  cases polled with
  | looking =>
    rcases Settings.turn_looking turn with ⟨rfl, rfl, rfl⟩
    exact ⟨.asking _, .inl rfl⟩
  | asking tableId =>
    rcases Settings.turn_asking turn with ⟨answer, rfl, rfl, rfl⟩
    refine ⟨?_, .inl rfl⟩
    rcases settings.answered_cases tableId answer with
      ⟨outcome, ends⟩ | ⟨raw, poll, rfl, read, merges⟩
    · rw [ends]
      exact .finished outcome _
    · rw [merges]
      exact .merging read
  | @merging tableId raw poll read =>
    rcases Settings.turn_merging turn with ⟨rfl, ⟨outcome, rfl⟩, rfl⟩
    refine ⟨.finished outcome _, ?_⟩
    split
    · rename_i here
      rw [← here]
      exact .inr ⟨raw, poll, read, rfl, rfl⟩
    · exact .inl rfl
  | finished => cases turn

namespace Running

variable {settings : Settings} {turned : Prop} {traffic : List Exchange} {action : UserAction}
  {job : Job} {session later : Session} {exchange : Option Exchange}

/-- An action that has the token is somewhere in its body, and gives the token back behind it. -/
inductive Inside (settings : Settings) : Running → Prop
  | intro {action : UserAction} {rest : Procedure Session (Except ActionFault action.Value)}
      (left : (settings.body action).run.LeftOf rest) :
      Inside settings ⟨.user action, rest.bind Step.release⟩

/-- A job that does not have the token is an action that has yet to try for it or is finished, or it
is a poll. -/
inductive Outside (settings : Settings) (turned : Prop) (traffic : List Exchange) : Running → Prop
  | fresh (action : UserAction) (unturned : ¬turned) :
    Outside settings turned traffic ⟨.user action, (settings.act action).run⟩
  | ended {action : UserAction} (result : Except ActionFault action.Value) (done : turned) :
    Outside settings turned traffic ⟨.user action, .finish result⟩
  | poll {rest : Procedure Session PollOutcome} (polled : Polled settings rest traffic) :
    Outside settings turned traffic ⟨.poll, rest⟩

theorem Inside.not_finished {rest : Procedure Session (Except ActionFault action.Value)}
    (inside : Inside settings ⟨.user action, rest⟩) (result : Except ActionFault action.Value) :
    rest ≠ .finish result := by
  cases inside with
  | @intro _ before left => cases before <;> exact nofun

theorem outside_procedure (settings : Settings) (job : Job) (unturned : ¬turned) :
    Outside settings turned [] ⟨job, settings.procedure job⟩ := by
  cases job with
  | user action => exact .fresh action unturned
  | poll => exact .poll .looking

/-- In its first turn an action takes the token, or it finds the token taken and is turned away. -/
theorem turn_act {after : Procedure Session (Except ActionFault action.Value)}
    (turn : (settings.act action).run.Turn session exchange after later) :
    exchange = none ∧
      ((session.busy = true ∧ later = session ∧ after = .finish (.error .busy)) ∨
        (session.busy = false ∧ later = { session with busy := true } ∧
          after = (settings.body action).run.bind Step.release)) := by
  rw [settings.act_eq_exclusively] at turn
  cases turn with
  | update change resume =>
    refine ⟨rfl, ?_⟩
    cases taken : session.busy with
    | true =>
      refine .inl ⟨rfl, ?_, ?_⟩
      · simp only [Session.take, ← taken]
      · simp [Session.take, taken]
    | false =>
      refine .inr ⟨rfl, rfl, ?_⟩
      simp [Session.take, taken]

/-- An action with the token takes a turn of its body, or gives the token back and is finished. -/
theorem turn_inside {rest after : Procedure Session (Except ActionFault action.Value)}
    (turn : (rest.bind Step.release).Turn session exchange after later) :
    (exchange = none ∧ later = { session with busy := false } ∧
        ∃ result, after = .finish result) ∨
      ∃ next, rest.Turn session exchange next later ∧ after = next.bind Step.release := by
  rcases Procedure.turn_bind_cases turn with ⟨result, rfl, turn⟩ | goesOn
  · cases turn
    exact .inl ⟨rfl, rfl, result, rfl⟩
  · exact .inr goesOn

end Running

/-- One job at most has the token, and it is inside its body; all others are outside. -/
structure Exclusive (settings : Settings) (log : List Event) (world : World)
    (holder : Option Nat) : Prop where
  token : world.session.busy = holder.isSome
  inside : ∀ index, holder = some index → World.Turned log index ∧
    ∃ running, world.running[index]? = some running ∧ running.Inside settings
  outside : ∀ index running, holder ≠ some index → world.running[index]? = some running →
    running.Outside settings (World.Turned log index) (traffic log index)
  beyond : ∀ index, world.running.length ≤ index → ¬World.Turned log index

/-- What a step does with the token: a job is begun, a poll takes its turn, an action takes the
token, is turned away, goes on in its body or gives the token back. -/
inductive Handover (settings : Settings) (log : List Event) (before after : World) :
    Option Nat → Event → Option Nat → Prop
  | begun (holder : Option Nat) (job : Job) (same : after.session = before.session) :
    Handover settings log before after holder (.begun job) holder
  | polled (holder : Option Nat) {index : Nat} (exchange : Option Exchange)
      (polls : PollsFrom settings (traffic log index) before.session after.session) :
    Handover settings log before after holder (.moved index .poll exchange) holder
  | taken {index : Nat} (action : UserAction) (unturned : ¬World.Turned log index)
      (taken : after.session = { before.session with busy := true }) :
    Handover settings log before after none (.moved index (.user action) none) (some index)
  | refused {holder index : Nat} (action : UserAction) (other : index ≠ holder)
      (unturned : ¬World.Turned log index) (same : after.session = before.session)
      (refused : after.running[index]? = some ⟨.user action, .finish (.error .busy)⟩) :
    Handover settings log before after (some holder) (.moved index (.user action) none)
      (some holder)
  | acted {index : Nat} {action : UserAction} {exchange : Option Exchange}
      {rest next : Procedure Session (Except ActionFault action.Value)}
      (left : (settings.body action).run.LeftOf rest)
      (underWay : before.running[index]? = some ⟨.user action, rest.bind Step.release⟩)
      (turn : rest.Turn before.session exchange next after.session)
      (goesOn : after.running[index]? = some ⟨.user action, next.bind Step.release⟩) :
    Handover settings log before after (some index) (.moved index (.user action) exchange)
      (some index)
  | released (index : Nat) {action : UserAction} (result : Except ActionFault action.Value)
      (freed : after.session = { before.session with busy := false })
      (done : after.running[index]? = some ⟨.user action, .finish result⟩) :
    Handover settings log before after (some index) (.moved index (.user action) none) none

namespace Exclusive

variable {settings : Settings} {log : List Event} {world next : World} {holder later : Option Nat}
  {event : Event} {index : Nat} {job : Job} {exchange : Option Exchange} {session : Session}

theorem start (settings : Settings) (free : session.busy = false) :
    Exclusive settings [] { session } none where
  token := free
  inside _ none := absurd none (by simp)
  outside _ _ _ underWay := absurd underWay (by simp)
  beyond _ _ := by simp [World.Turned]

theorem begin (exclusive : Exclusive settings log world holder) (job : Job) :
    Exclusive settings (log ++ [.begun job])
      { world with running := world.running ++ [⟨job, settings.procedure job⟩] } holder where
  token := exclusive.token
  inside index has := by
    rcases exclusive.inside index has with ⟨turned, running, underWay, inside⟩
    have within := (List.getElem?_eq_some_iff.mp underWay).1
    exact ⟨World.turned_begun.mpr turned, running,
      by rw [List.getElem?_append_left within]; exact underWay, inside⟩
  outside index running absent underWay := by
    rw [World.turned_begun, traffic_begun]
    rcases Nat.lt_or_ge index world.running.length with old | new
    · rw [List.getElem?_append_left old] at underWay
      exact exclusive.outside index running absent underWay
    · rw [List.getElem?_append_right new] at underWay
      have unturned := exclusive.beyond index new
      rw [List.mem_singleton.mp (List.mem_of_getElem? underWay),
        World.traffic_of_unturned unturned]
      exact Running.outside_procedure settings job unturned
  beyond index beyond := by
    rw [World.turned_begun]
    rw [List.length_append] at beyond
    exact exclusive.beyond index (by omega)

/-- A turn keeps the others where they are, as far as the token stays with them. -/
theorem moved (exclusive : Exclusive settings log world holder) {before after : Running}
    (underWay : world.running[index]? = some before) (token : session.busy = later.isSome)
    (others : ∀ other, other ≠ index → (later = some other ↔ holder = some other))
    (inside : later = some index → after.Inside settings)
    (outside : later ≠ some index →
      after.Outside settings True (traffic log index ++ exchange.toList)) :
    Exclusive settings (log ++ [.moved index job exchange])
      (world.afterTurn index before after session) later where
  token := token
  inside other has := by
    rw [World.turned_moved]
    by_cases same : other = index
    · subst same
      exact ⟨.inr rfl, after, (world.afterTurn_ready session underWay).1, inside has⟩
    · rcases exclusive.inside other ((others other same).mp has) with
        ⟨turned, running, otherUnderWay, stands⟩
      refine ⟨.inl turned, running, ?_, stands⟩
      simp only [World.afterTurn, List.getElem?_set_ne (Ne.symm same)]
      exact otherUnderWay
  outside other running absent otherUnderWay := by
    simp only [World.turned_moved]
    by_cases same : other = index
    · subst same
      rw [(world.afterTurn_ready session underWay).1, Option.some.injEq] at otherUnderWay
      simp only [or_true, ← otherUnderWay, traffic_moved]
      exact outside absent
    · simp only [World.afterTurn, List.getElem?_set_ne (Ne.symm same)] at otherUnderWay
      simp only [same, or_false]
      rw [traffic_moved_of_ne _ _ _ _ same]
      exact exclusive.outside other running (fun has => absent ((others other same).mpr has))
        otherUnderWay
  beyond other beyond := by
    simp only [World.afterTurn, List.length_set] at beyond
    have within := (List.getElem?_eq_some_iff.mp underWay).1
    rw [World.turned_moved]
    rintro (turned | rfl)
    · exact exclusive.beyond other beyond turned
    · omega

theorem turn_inside (exclusive : Exclusive settings log world (some index))
    {before after : Procedure Session job.Result}
    (underWay : world.running[index]? = some ⟨job, before⟩)
    (turn : before.Turn world.session exchange after session) :
    ∃ later, Exclusive settings (log ++ [.moved index job exchange])
        (world.afterTurn index ⟨job, before⟩ ⟨job, after⟩ session) later ∧
      Handover settings log world (world.afterTurn index ⟨job, before⟩ ⟨job, after⟩ session)
        (some index) (.moved index job exchange) later := by
  rcases exclusive.inside index rfl with ⟨_, _, same, inside⟩
  cases underWay.symm.trans same
  have ready := (@World.afterTurn_ready world index _ ⟨job, after⟩ session underWay).1
  cases inside with
  | @intro action rest left =>
    rcases Running.turn_inside turn with ⟨rfl, rfl, result, rfl⟩ | ⟨next, goesOn, rfl⟩
    · refine ⟨none, exclusive.moved underWay rfl ?_ (fun none => absurd none (by simp)) ?_,
        .released index result rfl ready⟩
      · intro other apart
        simp [Ne.symm apart]
      · exact fun _ => .ended result trivial
    · rcases left.follows (settings.follows_body action) with ⟨progress, follows⟩
      exact ⟨some index, exclusive.moved underWay ((follows.busy goesOn).trans exclusive.token)
        (fun _ _ => Iff.rfl) (fun _ => .intro (left.turn goesOn)) (fun apart => absurd rfl apart),
        .acted left underWay goesOn ready⟩

theorem turn_outside (exclusive : Exclusive settings log world holder)
    {before after : Procedure Session job.Result}
    (underWay : world.running[index]? = some ⟨job, before⟩) (without : holder ≠ some index)
    (turn : before.Turn world.session exchange after session) :
    ∃ later, Exclusive settings (log ++ [.moved index job exchange])
        (world.afterTurn index ⟨job, before⟩ ⟨job, after⟩ session) later ∧
      Handover settings log world (world.afterTurn index ⟨job, before⟩ ⟨job, after⟩ session)
        holder (.moved index job exchange) later := by
  have ready := (@World.afterTurn_ready world index _ ⟨job, after⟩ session underWay).1
  cases exclusive.outside index _ without underWay with
  | poll polled =>
    rcases polled.turn turn with ⟨polledThen, polls⟩
    exact ⟨holder, exclusive.moved underWay (polls.busy.trans exclusive.token)
      (fun _ _ => Iff.rfl) (fun has => absurd has without) (fun _ => .poll polledThen),
      .polled holder exchange polls⟩
  | ended => cases turn
  | fresh action unturned =>
    rcases Running.turn_act turn with ⟨rfl, ⟨busy, rfl, rfl⟩ | ⟨free, rfl, rfl⟩⟩
    · cases holder with
      | none =>
        rw [exclusive.token] at busy
        exact absurd busy (by decide)
      | some holder =>
        refine ⟨some holder, exclusive.moved underWay exclusive.token (fun _ _ => Iff.rfl)
          (fun has => absurd has without) (fun _ => .ended _ trivial), ?_⟩
        exact .refused action (fun same => without (congrArg some same.symm)) unturned rfl ready
    · cases holder with
      | some holder =>
        rw [exclusive.token] at free
        exact absurd free (by simp)
      | none =>
        refine ⟨some index, exclusive.moved underWay rfl ?_ (fun _ => .intro .whole)
          (fun apart => absurd rfl apart), .taken action unturned rfl⟩
        intro other apart
        simp [Ne.symm apart]

/-- A step leaves at most one job with the token, and hands it over as it may. -/
theorem step (exclusive : Exclusive settings log world holder)
    (step : World.Step settings world event next) :
    ∃ later, Exclusive settings (log ++ [event]) next later ∧
      Handover settings log world next holder event later := by
  cases step with
  | begin job => exact ⟨holder, exclusive.begin job, .begun holder job rfl⟩
  | @move index job before after exchange session underWay _ turn =>
    by_cases has : holder = some index
    · subst has
      exact exclusive.turn_inside underWay turn
    · exact exclusive.turn_outside underWay has turn

theorem acts_iff (exclusive : Exclusive settings log world holder) :
    World.Acts log world index ↔ holder = some index := by
  constructor
  · rintro ⟨turned, action, rest, underWay, unfinished⟩
    apply Decidable.of_not_not
    intro without
    cases exclusive.outside index _ without underWay with
    | fresh _ unturned => exact unturned turned
    | ended result => exact unfinished result rfl
  · intro has
    rcases exclusive.inside index has with ⟨turned, running, underWay, inside⟩
    cases inside with
    | @intro action rest left =>
      exact ⟨turned, action, _, underWay, (Running.Inside.intro left).not_finished⟩

end Exclusive

namespace World

variable {settings : Settings} {session : Session} {log : List Event} {world : World}

/-- In a run from a session with a free token, one job at most has it. -/
theorem Run.exclusive (run : Run settings { session } log world) (free : session.busy = false) :
    ∃ holder, Exclusive settings log world holder := by
  generalize start : ({ session } : World) = first at run
  induction run with
  | refl =>
    subst start
    exact ⟨none, .start settings free⟩
  | snoc _ next hypothesis =>
    rcases hypothesis with ⟨holder, exclusive⟩
    rcases exclusive.step next with ⟨later, exclusiveThen, _⟩
    exact ⟨later, exclusiveThen⟩

end World

end Holdem
