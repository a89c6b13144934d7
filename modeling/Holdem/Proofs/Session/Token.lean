import Holdem.Proofs.Session.Speech

/-!
# Who has the token

At any time at most one action has the token, and only it is in the middle of a conversation with
the coordinator. All other jobs are before or behind theirs, or hold none: polls and actions that
were turned away. So the nonces of a session are drawn and sent by one action after the other,
although any number of jobs may be under way.
-/

namespace Holdem

/-! ## Traffic -/

/-- What was asked and answered in an event. -/
def Event.exchange? : Event → Option Exchange
  | .begun _ => none
  | .moved _ _ exchange => exchange

/-- What the job at an index asked and was answered in an event. -/
def Event.exchangeOf? (index : Nat) : Event → Option Exchange
  | .begun _ => none
  | .moved mover _ exchange => if mover = index then exchange else none

/-- All exchanges of the job at an index, the latest last. -/
def traffic (log : List Event) (index : Nat) : List Exchange :=
  log.filterMap (Event.exchangeOf? index)

section

variable (log : List Event) (index : Nat) (job : Job) (exchange : Option Exchange)

@[simp]
theorem traffic_begun : traffic (log ++ [.begun job]) index = traffic log index := by
  simp [traffic, Event.exchangeOf?]

@[simp]
theorem traffic_moved :
    traffic (log ++ [.moved index job exchange]) index = traffic log index ++ exchange.toList := by
  cases exchange <;> simp [traffic, Event.exchangeOf?]

theorem traffic_moved_of_ne {other : Nat} (ne : other ≠ index) :
    traffic (log ++ [.moved index job exchange]) other = traffic log other := by
  simp [traffic, Event.exchangeOf?, Ne.symm ne]

end

/-! ## Jobs with and without the token -/

namespace Progress

/-- A turn of the job that has the token moves its conversation on: by a nonce that is drawn, or by
an exchange. -/
inductive Moves (settings : Settings) (progress : Progress) (before : NonceCounter) :
    Option Exchange → NonceCounter → Progress → Prop
  | draws {after : NonceCounter} {next : Progress} (draws : progress.Draws before after next) :
    Moves settings progress before none after next
  | reads {exchange : Exchange} {next : Progress} (reads : progress.Reads settings exchange next) :
    Moves settings progress before (some exchange) before next

end Progress

namespace Running

/-- A job without the token has yet to try for it, or has nothing more to say under a label. -/
inductive Stands (settings : Settings) : Running → List Exchange → Prop
  | fresh (action : UserAction) : Stands settings ⟨.user action, (settings.act action).run⟩ []
  | quiet {job : Job} {rest : Procedure Session job.Result} {calls : List CoordinatorCall}
      {traffic : List Exchange} (quiet : rest.Quiet)
      (conversation : settings.Conversation calls traffic) : Stands settings ⟨job, rest⟩ traffic

/-- A job with the token carries on with its conversation, and gives the token back at the end. -/
inductive Holds (settings : Settings) (progress : Progress) : Running → List Exchange → Prop
  | intro {action : UserAction} {rest : Procedure Session (Except ActionFault action.Value)}
      {traffic : List Exchange}
      (follows : rest.Follows settings progress fun _ progress => progress.stage = .idle)
      (has : progress.Has settings traffic) :
      Holds settings progress ⟨.user action, rest.bind Step.release⟩ traffic

variable {settings : Settings} {job : Job} {before after : Procedure Session job.Result}
  {session later : Session} {exchange : Option Exchange} {traffic : List Exchange}
  {progress : Progress}

theorem stands_procedure (settings : Settings) (job : Job) :
    Stands settings ⟨job, settings.procedure job⟩ [] := by
  cases job with
  | user action => exact .fresh action
  | poll => exact .quiet settings.quiet_poll .nil

/-- In its turn a job without the token says nothing under a label, unless it takes the token, which
it can only when that is free. -/
theorem Stands.turn (stands : Stands settings ⟨job, before⟩ traffic)
    (turn : before.Turn session exchange after later) :
    later.nonces = session.nonces ∧
      ((later.busy = session.busy ∧ (∀ heard, exchange = some heard → heard.request.isPlain) ∧
          Stands settings ⟨job, after⟩ (traffic ++ exchange.toList)) ∨
        (session.busy = false ∧ later.busy = true ∧ exchange = none ∧
          Holds settings ⟨[], .idle⟩ ⟨job, after⟩ traffic)) := by
  cases stands with
  | fresh action =>
    rw [settings.act_eq_exclusively] at turn
    cases turn with
    | update change resume =>
      refine ⟨rfl, ?_⟩
      cases taken : session.busy with
      | true =>
        left
        refine ⟨rfl, fun _ none => absurd none (by simp), ?_⟩
        simp only [Session.take, taken, Bool.not_true, Bool.false_eq_true, ↓reduceIte]
        exact .quiet trivial .nil
      | false =>
        right
        refine ⟨rfl, rfl, rfl, ?_⟩
        simp only [Session.take, taken, Bool.not_false, ↓reduceIte]
        exact .intro (settings.follows_body action) .nil
  | quiet quiet conversation =>
    cases turn with
    | update change resume =>
      rcases quiet session with ⟨busy, nonces, rest⟩
      refine ⟨nonces, Or.inl ⟨busy, fun _ none => absurd none (by simp), ?_⟩⟩
      rw [Option.toList_none, List.append_nil]
      exact .quiet rest conversation
    | ask request resume answer =>
      refine ⟨rfl, Or.inl ⟨rfl, ?_, .quiet (quiet.2 answer) (conversation.plain quiet.1)⟩⟩
      intro heard eq
      rw [← Option.some.inj eq]
      exact quiet.1

/-- In its turn a job with the token moves its conversation on, or gives the token back when its
conversation is over. -/
theorem Holds.turn (holds : Holds settings progress ⟨job, before⟩ traffic)
    (turn : before.Turn session exchange after later) :
    (later.busy = session.busy ∧ ∃ next,
        progress.Moves settings session.nonces exchange later.nonces next ∧
          Holds settings next ⟨job, after⟩ (traffic ++ exchange.toList)) ∨
      (later.busy = false ∧ later.nonces = session.nonces ∧ exchange = none ∧
        progress.stage = .idle ∧ Stands settings ⟨job, after⟩ traffic) := by
  cases holds with
  | @intro action rest _ follows has =>
    cases rest with
    | finish result =>
      right
      cases turn with
      | update change resume =>
        have conversation : settings.Conversation progress.attempted traffic := by
          rcases progress with ⟨calls, stage⟩
          have idle : stage = .idle := follows
          subst idle
          exact has
        exact ⟨rfl, rfl, rfl, follows, .quiet trivial conversation⟩
    | stuck => cases turn
    | update change resume =>
      left
      cases turn with
      | update =>
        rcases follows session with ⟨busy, next, draws, continues⟩
        refine ⟨busy, next, .draws draws, ?_⟩
        rw [Option.toList_none, List.append_nil]
        exact .intro continues (has.draws draws)
    | ask request resume =>
      left
      cases turn with
      | ask _ _ answer =>
        rcases follows answer with ⟨next, reads, continues⟩
        exact ⟨rfl, next, .reads reads, .intro continues (has.reads reads)⟩

theorem Stands.vouched {running : Running} (stands : Stands settings running traffic) :
    settings.Vouched traffic := by
  cases stands with
  | fresh => exact Settings.Conversation.vouched .nil
  | quiet _ conversation => exact conversation.vouched

theorem Holds.vouched {running : Running} (holds : Holds settings progress running traffic) :
    settings.Vouched traffic := by
  cases holds with
  | intro follows has => exact has.vouched

theorem Stands.finished {running : Running} {result : running.job.Result}
    (stands : Stands settings running traffic) (ends : running.rest = .finish result) :
    ∃ calls, settings.Conversation calls traffic := by
  cases stands with
  | fresh action => exact ⟨[], .nil⟩
  | quiet _ conversation => exact ⟨_, conversation⟩

theorem Holds.not_finished {running : Running} {result : running.job.Result}
    (holds : Holds settings progress running traffic) : running.rest ≠ .finish result := by
  cases holds with
  | @intro action rest =>
    cases rest with
    | finish | stuck | update | ask => exact nofun

end Running

/-! ## The token -/

/-- Who has the token, and how far its conversation has come. -/
structure Holder where
  index : Nat
  progress : Progress

namespace Holder

/-- How far the job at an index has come, if it has the token. -/
def progressAt (holder : Option Holder) (index : Nat) : Option Progress :=
  holder.bind fun holder => if holder.index = index then some holder.progress else none

variable {index other : Nat} {progress : Progress}

@[simp]
theorem progressAt_none : progressAt none index = none := rfl

@[simp]
theorem progressAt_self : progressAt (some ⟨index, progress⟩) index = some progress := by
  simp [progressAt]

theorem progressAt_of_ne (ne : other ≠ index) :
    progressAt (some ⟨index, progress⟩) other = none := by
  simp [progressAt, Ne.symm ne]

theorem progressAt_eq_some {holder : Option Holder}
    (at_index : progressAt holder index = some progress) : holder = some ⟨index, progress⟩ := by
  cases holder with
  | none => exact absurd at_index (by simp)
  | some holder =>
    rcases holder with ⟨holderIndex, holderProgress⟩
    by_cases same : holderIndex = index
    · subst same
      rw [progressAt_self, Option.some.injEq] at at_index
      rw [at_index]
    · rw [progressAt_of_ne (Ne.symm same)] at at_index
      exact absurd at_index (by simp)

/-- The signing that is under way. -/
def stage (holder : Option Holder) : Stage :=
  holder.elim .idle fun holder => holder.progress.stage

/-- What a step does to the token and to the nonces: a job takes the token while nobody has it, the
job that has it moves its conversation on or gives the token back, or neither is touched. -/
inductive Passes (settings : Settings) : Option Holder → NonceCounter → Option Exchange →
    NonceCounter → Option Holder → Prop
  | stays {holder : Option Holder} {counter : NonceCounter} {exchange : Option Exchange}
      (plain : ∀ heard, exchange = some heard → heard.request.isPlain) :
      Passes settings holder counter exchange counter holder
  | taken {counter : NonceCounter} {index : Nat} :
      Passes settings none counter none counter (some ⟨index, ⟨[], .idle⟩⟩)
  | moves {before after : NonceCounter} {exchange : Option Exchange} {index : Nat}
      {progress next : Progress} (moves : progress.Moves settings before exchange after next) :
      Passes settings (some ⟨index, progress⟩) before exchange after (some ⟨index, next⟩)
  | givenBack {counter : NonceCounter} {index : Nat} {progress : Progress}
      (idle : progress.stage = .idle) :
      Passes settings (some ⟨index, progress⟩) counter none counter none

end Holder

namespace Running

/-- How a job stands that has come to some progress with the token, or does not have it. -/
def At (settings : Settings) (running : Running) (traffic : List Exchange) :
    Option Progress → Prop
  | none => Stands settings running traffic
  | some progress => Holds settings progress running traffic

theorem At.vouched {settings : Settings} {running : Running} {traffic : List Exchange}
    {progress : Option Progress} (stands : running.At settings traffic progress) :
    settings.Vouched traffic := by
  cases progress with
  | none => exact Stands.vouched stands
  | some progress => exact Holds.vouched stands

theorem At.finished {settings : Settings} {running : Running} {traffic : List Exchange}
    {progress : Option Progress} (stands : running.At settings traffic progress)
    {result : running.job.Result} (ends : running.rest = .finish result) :
    ∃ calls, settings.Conversation calls traffic := by
  cases progress with
  | none => exact Stands.finished stands ends
  | some progress => exact absurd ends (Holds.not_finished stands)

end Running

/-- The token is where the session says, one job at most has it, and every job stands as it
should. -/
structure Orderly (settings : Settings) (log : List Event) (world : World)
    (holder : Option Holder) : Prop where
  token : world.session.busy = holder.isSome
  jobs : ∀ index running, world.running[index]? = some running →
    Running.At settings running (traffic log index) (Holder.progressAt holder index)
  unheard : ∀ index, world.running.length ≤ index → traffic log index = []
  present : ∀ index progress, holder = some ⟨index, progress⟩ → index < world.running.length

namespace Orderly

variable {settings : Settings} {log : List Event} {world next : World}
  {holder later : Option Holder} {event : Event} {index : Nat} {job : Job} {exchange : Option Exchange}

theorem opened (settings : Settings) (tableId : UInt32) :
    Orderly settings [] (World.opened tableId) none where
  token := rfl
  jobs index running underWay := absurd underWay (by simp [World.opened])
  unheard index _ := rfl
  present index progress none := absurd none (by simp)

theorem begin (orderly : Orderly settings log world holder) (job : Job) :
    Orderly settings (log ++ [.begun job])
      { world with running := world.running ++ [⟨job, settings.procedure job⟩] } holder where
  token := orderly.token
  jobs index running underWay := by
    rw [traffic_begun]
    rcases Nat.lt_or_ge index world.running.length with old | new
    · rw [List.getElem?_append_left old] at underWay
      exact orderly.jobs index running underWay
    · have absent : Holder.progressAt holder index = none := by
        cases has : Holder.progressAt holder index with
        | none => rfl
        | some progress =>
          have present := orderly.present index progress (Holder.progressAt_eq_some has)
          omega
      have last : index - world.running.length = 0 := by
        rw [List.getElem?_append_right new] at underWay
        have bound := (List.getElem?_eq_some_iff.mp underWay).1
        rw [List.length_singleton] at bound
        omega
      rw [List.getElem?_append_right new, last, List.getElem?_cons_zero, Option.some.injEq]
        at underWay
      rw [absent, orderly.unheard index new, ← underWay]
      exact Running.stands_procedure settings job
  unheard index beyond := by
    rw [traffic_begun]
    rw [List.length_append] at beyond
    exact orderly.unheard index (by omega)
  present index progress has := by
    have present := orderly.present index progress has
    rw [List.length_append]
    omega

theorem moved (orderly : Orderly settings log world holder) {before after : Running}
    {session : Session} (underWay : world.running[index]? = some before)
    (token : session.busy = later.isSome)
    (others : ∀ other, other ≠ index →
      Holder.progressAt later other = Holder.progressAt holder other)
    (stands : after.At settings (traffic log index ++ exchange.toList)
      (Holder.progressAt later index)) :
    Orderly settings (log ++ [.moved index job exchange])
      (world.afterTurn index before after session) later where
  token := token
  jobs other running otherUnderWay := by
    by_cases same : other = index
    · subst same
      have bound := (List.getElem?_eq_some_iff.mp underWay).1
      simp only [World.afterTurn, List.getElem?_set_self bound, Option.some.injEq] at otherUnderWay
      rw [traffic_moved, ← otherUnderWay]
      exact stands
    · simp only [World.afterTurn, List.getElem?_set_ne (Ne.symm same)] at otherUnderWay
      rw [traffic_moved_of_ne _ _ _ _ same, others other same]
      exact orderly.jobs other running otherUnderWay
  unheard other beyond := by
    simp only [World.afterTurn, List.length_set] at beyond
    have bound := (List.getElem?_eq_some_iff.mp underWay).1
    rw [traffic_moved_of_ne _ _ _ _ (by omega)]
    exact orderly.unheard other beyond
  present other progress has := by
    simp only [World.afterTurn, List.length_set]
    by_cases same : other = index
    · rw [same]
      exact (List.getElem?_eq_some_iff.mp underWay).1
    · apply orderly.present other progress
      apply Holder.progressAt_eq_some
      rw [← others other same, has, Holder.progressAt_self]

section

variable {before after : Procedure Session job.Result} {session : Session} {progress : Progress}

/-- The turn of a job without the token leaves the token where it is, or takes it. -/
theorem turn_without (orderly : Orderly settings log world holder)
    (underWay : world.running[index]? = some ⟨job, before⟩)
    (without : Holder.progressAt holder index = none)
    (turn : before.Turn world.session exchange after session) :
    ∃ later, Orderly settings (log ++ [.moved index job exchange])
        (world.afterTurn index ⟨job, before⟩ ⟨job, after⟩ session) later ∧
      Holder.Passes settings holder world.session.nonces exchange session.nonces later := by
  have stands := orderly.jobs index _ underWay
  rw [without] at stands
  rcases Running.Stands.turn stands turn with
    ⟨nonces, ⟨busy, plain, still⟩ | ⟨free, taken, rfl, holds⟩⟩
  · refine ⟨holder, orderly.moved underWay ?_ (fun _ _ => rfl) ?_, ?_⟩
    · rw [busy]
      exact orderly.token
    · rw [without]
      exact still
    · rw [nonces]
      exact .stays plain
  · have nobody : holder = none := by
      rw [orderly.token] at free
      simpa using free
    subst nobody
    refine ⟨some ⟨index, ⟨[], .idle⟩⟩, orderly.moved underWay taken ?_ ?_, ?_⟩
    · intro other ne
      exact Holder.progressAt_of_ne ne
    · rw [Holder.progressAt_self, Option.toList_none, List.append_nil]
      exact holds
    · rw [nonces]
      exact .taken

/-- The turn of the job with the token moves its conversation on, or gives the token back. -/
theorem turn_with (orderly : Orderly settings log world (some ⟨index, progress⟩))
    (underWay : world.running[index]? = some ⟨job, before⟩)
    (turn : before.Turn world.session exchange after session) :
    ∃ later, Orderly settings (log ++ [.moved index job exchange])
        (world.afterTurn index ⟨job, before⟩ ⟨job, after⟩ session) later ∧
      Holder.Passes settings (some ⟨index, progress⟩) world.session.nonces exchange session.nonces
        later := by
  have stands := orderly.jobs index _ underWay
  rw [Holder.progressAt_self] at stands
  rcases Running.Holds.turn stands turn with
    ⟨busy, further, moves, holds⟩ | ⟨free, nonces, rfl, idle, still⟩
  · refine ⟨some ⟨index, further⟩, orderly.moved underWay ?_ ?_ ?_, .moves moves⟩
    · rw [busy, orderly.token]
      rfl
    · intro other ne
      rw [Holder.progressAt_of_ne ne, Holder.progressAt_of_ne ne]
    · rw [Holder.progressAt_self]
      exact holds
  · refine ⟨none, orderly.moved underWay free ?_ ?_, ?_⟩
    · intro other ne
      rw [Holder.progressAt_of_ne ne, Holder.progressAt_none]
    · rw [Holder.progressAt_none, Option.toList_none, List.append_nil]
      exact still
    · rw [nonces]
      exact .givenBack idle

end

/-- A step keeps order and passes the token on as it may be. -/
theorem step (orderly : Orderly settings log world holder)
    (step : World.Step settings world event next) :
    ∃ later, Orderly settings (log ++ [event]) next later ∧
      Holder.Passes settings holder world.session.nonces event.exchange? next.session.nonces
        later := by
  cases step with
  | begin job =>
    refine ⟨holder, orderly.begin job, .stays ?_⟩
    intro heard none
    exact absurd none (by simp [Event.exchange?])
  | @move index job before after exchange session underWay _ turn =>
    cases has : Holder.progressAt holder index with
    | none => exact orderly.turn_without underWay has turn
    | some progress =>
      rcases Holder.progressAt_eq_some has with rfl
      exact orderly.turn_with underWay turn

end Orderly

end Holdem
