import Holdem.Proofs.Session.Failure
import Holdem.Proofs.Session.OneTable
import Holdem.Proofs.Session.Requests

/-!
# Joins that are granted

Once the coordinator has granted a join, the join cannot fail any more: what is left of it takes the
seat and gives the token back. A join that is finished and was ever granted has therefore succeeded.
-/

namespace Holdem

namespace Procedure

variable {σ α β : Type} {decisive : Exchange → Prop}

/-- From a decisive answer on, whatever a procedure can come to has a property. -/
def Commits (decisive : Exchange → Prop) (property : α → Prop) : Procedure σ α → Prop
  | .finish _ | .stuck => True
  | .update _ resume => ∀ state, (resume state).Commits decisive property
  | .ask request resume =>
    ∀ answer, (resume answer).Commits decisive property ∧
      (decisive ⟨request, answer⟩ → (resume answer).Gives (fun _ _ => True) property)

theorem commits_of_calls {procedure : Procedure σ α} {property : α → Prop}
    {allowed : CoordinatorCall → Prop} (made : procedure.Calls allowed)
    (indecisive : ∀ exchange, decisive exchange → ¬exchange.request.Within allowed) :
    procedure.Commits decisive property := by
  induction procedure with
  | finish | stuck => trivial
  | update change resume hypothesis => exact fun state => hypothesis state (made state)
  | ask request resume hypothesis =>
    refine fun answer => ⟨hypothesis answer (made.2 answer), ?_⟩
    exact fun decides => absurd made.1 (indecisive _ decides)

theorem commits_bind {procedure : Procedure σ α} {next : α → Procedure σ β} {between : α → Prop}
    {property : β → Prop} (first : procedure.Commits decisive between)
    (later : ∀ result, (next result).Commits decisive property)
    (safe : ∀ result, between result → (next result).Gives (fun _ _ => True) property) :
    (procedure.bind next).Commits decisive property := by
  induction procedure with
  | finish result => exact later result
  | stuck => trivial
  | update change resume hypothesis => exact fun state => hypothesis state (first state)
  | ask request resume hypothesis =>
    intro answer
    rcases first answer with ⟨rest, gives⟩
    exact ⟨hypothesis answer rest, fun decides => gives_bind (gives decides) safe⟩

theorem Commits.turn {procedure rest : Procedure σ α} {property : α → Prop} {state after : σ}
    {exchange : Option Exchange} (commits : procedure.Commits decisive property)
    (turn : procedure.Turn state exchange rest after) :
    rest.Commits decisive property ∧ ∀ heard, exchange = some heard → decisive heard →
      rest.Gives (fun _ _ => True) property := by
  cases turn with
  | update => exact ⟨commits state, fun _ heard => absurd heard.symm (Option.some_ne_none _)⟩
  | ask request resume answer =>
    refine ⟨(commits answer).1, ?_⟩
    rintro _ ⟨⟩
    exact (commits answer).2

end Procedure

/-- The coordinator grants a join. -/
def Exchange.Joins (exchange : Exchange) : Prop :=
  ∃ credentials tableId reply, exchange = ⟨.coordinator credentials (.join tableId), .ok reply⟩

namespace Step

variable {α β : Type}

/-- Once a join is granted the step does not fail. -/
def CommitsOnJoin (step : Step α) : Prop :=
  step.run.Commits Exchange.Joins fun result => ∀ fault, result = .error fault → False

theorem commits_bind {step : Step α} {next : α → Step β} (first : step.CommitsOnJoin)
    (later : ∀ value, (next value).CommitsOnJoin)
    (safe : ∀ value, Step.Faults (fun _ => False) (next value)) :
    (step >>= next).CommitsOnJoin := by
  apply Procedure.commits_bind first
  · rintro (fault | value)
    · trivial
    · exact later value
  · rintro (fault | value) sound
    · exact absurd rfl (sound fault)
    · exact safe value

theorem commits_bind_of_calls {step : Step α} {next : α → Step β}
    {allowed : CoordinatorCall → Prop} (made : step.run.Calls allowed)
    (unasked : ∀ tableId, ¬allowed (.join tableId)) (later : ∀ value, (next value).CommitsOnJoin) :
    (step >>= next).CommitsOnJoin := by
  have first : step.run.Commits Exchange.Joins fun _ => False := by
    apply Procedure.commits_of_calls made
    rintro _ ⟨credentials, tableId, reply, rfl⟩
    exact unasked tableId
  apply Procedure.commits_bind first
  · rintro (fault | value)
    · trivial
    · exact later value
  · exact fun _ impossible => absurd impossible id

theorem commits_exclusively {step : Step α} (commits : step.CommitsOnJoin) :
    (Step.exclusively step).CommitsOnJoin := by
  intro session
  by_cases free : session.take.2
  · simp only [free, ↓reduceIte]
    exact Procedure.commits_bind commits (fun _ _ => trivial) fun _ sound _ => sound
  · simp only [free, Bool.false_eq_true, ↓reduceIte]
    trivial

end Step

namespace Settings

variable (settings : Settings)

theorem commits_send (credentials : Option Credentials) (call : CoordinatorCall) :
    (send credentials call).CommitsOnJoin := by
  intro answer
  refine ⟨?_, ?_⟩
  · cases answer <;> trivial
  · rintro ⟨_, _, reply, same⟩
    cases same
    exact Step.faults_pure reply

theorem calls_credentials (call : CoordinatorCall) (purpose : Purpose) :
    (settings.credentials call purpose).run.Calls fun _ => False := by
  simp only [credentials]
  by_cases nameless : settings.hero = ""
  · simp only [nameless, ↓reduceIte]
    trivial
  · simp only [nameless, ↓reduceIte]
    refine ⟨trivial, fun now session => ⟨trivial, ?_⟩⟩
    rintro (fault | signature)
    · trivial
    · trivial

theorem commits_sendSigned (call : CoordinatorCall) (purpose : Purpose) :
    (settings.sendSigned call purpose).CommitsOnJoin :=
  Step.commits_bind_of_calls (settings.calls_credentials call purpose) (fun _ => id)
    fun credentials => commits_send (some credentials) call

theorem commits_call (call : CoordinatorCall) : (settings.call call).CommitsOnJoin := by
  rcases purposed : call.purpose? with _ | purpose
  · have same : settings.call call = send none call := by simp only [Settings.call, purposed]
    rw [same]
    exact commits_send none call
  cases names : settings.unsignedFirst with
  | false =>
    rw [Step.CommitsOnJoin, run_call_of_signed purposed names]
    exact settings.commits_sendSigned call purpose
  | true =>
    rw [Step.CommitsOnJoin, run_call_of_unsigned purposed names]
    rintro (fault | reply)
    · refine ⟨?_, ?_⟩
      · by_cases unauthorized : fault.isUnauthorized
        · simp only [unauthorized, ↓reduceIte]
          exact settings.commits_sendSigned call purpose
        · simp only [unauthorized, Bool.false_eq_true, ↓reduceIte]
          trivial
      · rintro ⟨_, _, reply, same⟩
        cases same
    · exact ⟨trivial, fun _ => Step.faults_pure reply⟩

theorem commits_join (tableId : UInt32) (buyIn : Option Chips) :
    (settings.join tableId buyIn).CommitsOnJoin := by
  have lobby : Step.CommitsOnJoin do
      let reply ← settings.call (.join tableId)
      Step.change fun table =>
        table.takeSeat settings.hero reply.seat.toNat (buyIn.getD settings.buyIn)
      return Outcome.joined reply.seat.toNat reply.joinedWallets.toNat reply.maxPlayers.toNat := by
    apply Step.commits_bind (settings.commits_call _)
    · exact fun _ _ => trivial
    · exact fun _ => Step.faults_bind_pure (Step.faults_change _) _
  unfold Settings.join
  dsimp only
  split
  · apply Step.commits_bind_of_calls (settings.speaks_submit _ _).calls
    · exact fun _ silent => silent rfl
    intro hash session
    exact lobby
  · exact lobby

theorem commits_dispatch (buyIn : Option Chips) :
    (settings.dispatch (.join buyIn)).CommitsOnJoin := by
  apply Step.commits_exclusively
  have silent : ∀ {α : Type} {step : Step α}, Step.Silent settings step →
      step.run.Calls fun call => call.label?.isSome → False := fun speaks => speaks.calls
  apply Step.commits_bind_of_calls (silent Step.speaks_table) fun _ unspoken => unspoken rfl
  intro table
  apply Step.commits_bind_of_calls (silent (Step.speaks_require _ _)) fun _ unspoken => unspoken rfl
  intro _
  exact settings.commits_join table.tableId buyIn

end Settings

namespace World

variable {settings : Settings} {session : Session} {log : List Event} {world last : World}
  {index : Nat} {job : Job} {buyIn : Option Chips} {exchange : Exchange}

theorem commits_of_run (run : Run settings { session } log world)
    {rest : Procedure Session (Except ActionFault Outcome)}
    (member : ⟨.user (.dispatch (.join buyIn)), rest⟩ ∈ world.running) :
    rest.Commits Exchange.Joins fun result => ∀ fault, result = .error fault → False := by
  generalize start : ({ session } : World) = first at run
  induction run generalizing rest with
  | refl =>
    subst start
    exact absurd member List.not_mem_nil
  | snoc _ step hypothesis =>
    cases step with
    | begin job =>
      rcases List.mem_append.mp member with old | new
      · exact hypothesis old
      · cases List.mem_singleton.mp new
        exact settings.commits_dispatch buyIn
    | move underWay _ turn =>
      rcases List.mem_or_eq_of_mem_set member with old | new
      · exact hypothesis old
      · cases new
        exact ((hypothesis (List.mem_of_getElem? underWay)).turn turn).1

/-- What a job can come to is settled by what is left of it. -/
theorem gives_of_path {later : List Event} (path : Run settings world later last)
    {rest : Procedure Session job.Result} {property : job.Result → Prop}
    (underWay : world.running[index]? = some ⟨job, rest⟩)
    (gives : rest.Gives (fun _ _ => True) property) :
    ∃ left, last.running[index]? = some ⟨job, left⟩ ∧ left.Gives (fun _ _ => True) property := by
  induction path with
  | refl => exact ⟨rest, underWay, gives⟩
  | snoc _ step hypothesis =>
    rcases hypothesis with ⟨left, ready, gives⟩
    rcases step.rest_cases ready with ⟨leftThen, readyThen, rfl | ⟨_, _, turn⟩⟩
    · exact ⟨_, readyThen, gives⟩
    · exact ⟨leftThen, readyThen, gives.turn turn⟩

/-- A join that was granted does not fail any more. -/
theorem exists_joined (run : Run settings { session } log world)
    (granted : Event.moved index (.user (.dispatch (.join buyIn))) (some exchange) ∈ log)
    (joins : exchange.Joins) :
    ∃ rest : Procedure Session (Except ActionFault Outcome),
      world.running[index]? = some ⟨.user (.dispatch (.join buyIn)), rest⟩ ∧
      rest.Gives (fun _ _ => True) fun result => ∀ fault, result = .error fault → False := by
  rcases run.exists_step_of_mem granted with ⟨_, _, before, after, _, toBefore, step, onwards⟩
  rcases step.turn with ⟨rest, later, underWay, turn, ready⟩
  -- what was left of the join when it was granted had been committed to that answer all along
  have commits := commits_of_run toBefore (List.mem_of_getElem? underWay)
  exact gives_of_path onwards ready ((commits.turn turn).2 _ rfl joins)

end World

end Holdem
