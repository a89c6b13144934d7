import Holdem.Proofs.Session.Exclusion

/-!
# Which calls can be made

What a procedure can say binds it at every point, whatever it has been answered so far: the calls
that are left to it are among those that it speaks of. Nothing has to be known about the course of a
run for that. So a hand is never dealt but by an intent to start one, and while that has the token.
-/

namespace Holdem

/-- Whether a request calls the coordinator only with calls of some kind. -/
def Request.Within (allowed : CoordinatorCall → Prop) : Request → Prop
  | .coordinator _ call => allowed call
  | _ => True

theorem Request.within_mono {allowed wider : CoordinatorCall → Prop} {request : Request}
    (within : request.Within allowed) (weaker : ∀ call, allowed call → wider call) :
    request.Within wider := by
  cases request with
  | coordinator credentials call => exact weaker call within
  | _ => trivial

namespace Progress

/-- A labelled call is done with: it was attempted, and no signing of it is under way. -/
structure Past (call : CoordinatorCall) (progress : Progress) : Prop where
  attempted : call ∈ progress.attempted
  elsewhere : ∀ {other label stage}, progress.stage = .signing other label stage → other ≠ call

variable {settings : Settings} {call : CoordinatorCall} {progress next : Progress}
  {exchange : Exchange} {before after : NonceCounter}

theorem past_idle {calls : List CoordinatorCall} (attempted : call ∈ calls) :
    Past call ⟨calls, .idle⟩ :=
  ⟨attempted, nofun⟩

theorem past_signing {other : CoordinatorCall} {label : String} {stage : SigningStage}
    {calls : List CoordinatorCall} (attempted : call ∈ calls) (apart : other ≠ call) :
    Past call ⟨calls, .signing other label stage⟩ :=
  ⟨attempted, fun same => by cases same; exact apart⟩

theorem Past.draws (past : progress.Past call) (draws : progress.Draws before after next) :
    next.Past call := by
  cases draws with
  | leave => exact past
  | draw => exact past_signing past.attempted (past.elsewhere rfl)

theorem Past.reads {label : String} (past : progress.Past call)
    (labelled : call.label? = some label) (reads : progress.Reads settings exchange next) :
    next.Past call ∧ exchange.request.Within (· ≠ call) := by
  -- whatever is made now has not been attempted yet, so it is another call than the one done with
  have others : ∀ {other : CoordinatorCall} {calls : List CoordinatorCall}, call ∈ calls →
      other ∉ calls → other ≠ call := by
    rintro other calls attempted fresh rfl
    exact fresh attempted
  rcases past with ⟨attempted, elsewhere⟩
  cases reads with
  | plain plain =>
    refine ⟨⟨attempted, elsewhere⟩, ?_⟩
    rcases exchange with ⟨request, answer⟩
    cases request with
    | coordinator credentials sent =>
      rintro rfl
      have unlabelled := Settings.label?_of_plain plain (decide_eq_true rfl)
      exact absurd (labelled.symm.trans unlabelled) nofun
    | _ => trivial
  | final _ fresh | nameless _ fresh =>
    exact ⟨past_idle (List.mem_cons_of_mem _ attempted), others attempted fresh⟩
  | refused _ fresh =>
    exact ⟨past_signing attempted (others attempted fresh), others attempted fresh⟩
  | start _ fresh => exact ⟨past_signing attempted (others attempted fresh), trivial⟩
  | date => exact ⟨past_signing attempted (elsewhere rfl), trivial⟩
  | deny => exact ⟨past_idle (List.mem_cons_of_mem _ attempted), trivial⟩
  | grant => exact ⟨past_signing attempted (elsewhere rfl), trivial⟩
  | send => exact ⟨past_idle (List.mem_cons_of_mem _ attempted), elsewhere rfl⟩

end Progress

namespace Procedure

variable {σ α : Type} {allowed : CoordinatorCall → Prop}

/-- Every call that a procedure can make, whatever it is answered, is of some kind. -/
def Calls (allowed : CoordinatorCall → Prop) : Procedure σ α → Prop
  | .finish _ | .stuck => True
  | .update _ resume => ∀ state, (resume state).Calls allowed
  | .ask request resume => request.Within allowed ∧ ∀ answer, (resume answer).Calls allowed

theorem calls_mono {procedure : Procedure σ α} {wider : CoordinatorCall → Prop}
    (made : procedure.Calls allowed) (weaker : ∀ call, allowed call → wider call) :
    procedure.Calls wider := by
  induction procedure with
  | finish | stuck => trivial
  | update change resume hypothesis => exact fun state => hypothesis state (made state)
  | ask request resume hypothesis =>
    exact ⟨request.within_mono made.1 weaker, fun answer => hypothesis answer (made.2 answer)⟩

theorem calls_of_excluded {procedure : Procedure σ α}
    (excluded : ∀ call, ¬allowed call → procedure.Calls (· ≠ call)) : procedure.Calls allowed := by
  induction procedure with
  | finish | stuck => trivial
  | update change resume hypothesis =>
    exact fun state => hypothesis state fun call other => excluded call other state
  | ask request resume hypothesis =>
    refine ⟨?_, fun answer => hypothesis answer fun call other => (excluded call other).2 answer⟩
    cases request with
    | coordinator credentials call =>
      apply Classical.byContradiction
      intro other
      exact (excluded call other).1 rfl
    | _ => trivial

theorem LeftOf.calls {procedure rest : Procedure σ α} (left : procedure.LeftOf rest)
    (made : procedure.Calls allowed) : rest.Calls allowed := by
  induction left with
  | whole => exact made
  | turn _ turn hypothesis =>
    cases turn with
    | update => exact hypothesis _
    | ask _ _ answer => exact hypothesis.2 answer

/-- A procedure that follows a conversation makes no call that is done with. -/
theorem Follows.calls {settings : Settings} {procedure : Procedure Session α} {progress : Progress}
    {ends : α → Progress → Prop} {call : CoordinatorCall} {label : String}
    (follows : procedure.Follows settings progress ends) (labelled : call.label? = some label)
    (past : progress.Past call) : procedure.Calls (· ≠ call) := by
  induction procedure generalizing progress with
  | finish | stuck => trivial
  | update change resume hypothesis =>
    intro session
    rcases follows session with ⟨_, next, draws, rest⟩
    exact hypothesis session rest (past.draws draws)
  | ask request resume hypothesis =>
    refine ⟨?_, fun answer => ?_⟩
    · cases request with
      | coordinator credentials other =>
        rcases follows (.error (.decode "")) with ⟨next, reads, _⟩
        exact (past.reads labelled reads).2
      | _ => trivial
    · rcases follows answer with ⟨next, reads, rest⟩
      exact hypothesis answer rest (past.reads labelled reads).1

end Procedure

/-- The labelled calls that a step can make are those that it speaks of. -/
theorem Step.Speaks.calls {settings : Settings} {new : CoordinatorCall → Prop} {step : Step α}
    (speaks : Step.Speaks settings new step) :
    step.run.Calls fun call => call.label?.isSome → new call := by
  apply Procedure.calls_of_excluded
  intro call excluded
  have labelled : call.label?.isSome := Classical.byContradiction fun unlabelled =>
    excluded fun labelled => absurd labelled unlabelled
  have unspoken : ¬new call := fun spoken => excluded fun _ => spoken
  rcases Option.isSome_iff_exists.mp labelled with ⟨label, labelled⟩
  apply (speaks [call] _).calls labelled (Progress.past_idle List.mem_cons_self)
  intro other spoken member
  rw [List.mem_singleton.mp member] at spoken
  exact unspoken spoken

namespace World

variable {settings : Settings} {log : List Event} {world : World} {holder : Option Nat}
  {index : Nat} {job : Job} {tableId : UInt32} {body : DealRequest}

/-- A job is about to make a call: what is left of it begins with that question. -/
def Sends (world : World) (index : Nat) (job : Job) (call : CoordinatorCall) : Prop :=
  ∃ credentials resume,
    world.running[index]? = some ⟨job, .ask (.coordinator credentials call) resume⟩

/-- A hand is dealt by an intent to start one that has the token. -/
theorem Sends.deals (sends : world.Sends index job (.deal tableId body))
    (exclusive : Exclusive settings log world holder) : holder = some index ∧ job.deals := by
  rcases sends with ⟨credentials, resume, underWay⟩
  by_cases held : holder = some index
  · refine ⟨held, ?_⟩
    rcases exclusive.inside index held with ⟨_, running, same, inside⟩
    cases underWay.symm.trans same
    generalize running : (⟨job, _⟩ : Running) = found at inside
    cases inside with
    | @intro action rest left =>
      have made := left.calls (settings.speaks_body action).calls
      cases rest with
      | finish | stuck | update => cases running
      | ask request next =>
        cases running
        exact made.1 rfl rfl
  · have outside := exclusive.outside index _ held underWay
    generalize running : (⟨job, _⟩ : Running) = found at outside
    cases outside with
    | ended => cases running
    | fresh action =>
      rw [settings.act_eq_exclusively] at running
      cases running
    | poll polled =>
      generalize traffic log index = heard at polled
      cases polled <;> cases running

end World

end Holdem
