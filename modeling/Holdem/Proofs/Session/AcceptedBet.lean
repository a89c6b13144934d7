import Holdem.Proofs.Session.GrantedJoin

/-!
# Accepted bets

Outside a solo session a bet completes in one way: it has been accepted, the hero's action has been
applied to the snapshot of that moment, and after that nothing was left to do but to give the token
back. So behind the outcome of a bet there is always the step that applied it.
-/

namespace Holdem

namespace Procedure

variable {settings : Settings} {action : Action} {α : Type}

/-- A procedure comes to an outcome only by applying an action of the hero, and then it gives the
token back. -/
def Applies (settings : Settings) (action : Action) :
    Procedure Session (Except ActionFault Outcome) → Prop
  | .finish result => ∀ outcome, result ≠ .ok outcome
  | .stuck => True
  | .update change resume => ∀ session, (resume session).Applies settings action ∨ ∃ transaction,
      session.table.applyAccepted? settings.arithmetic settings.hero action transaction =
        some (change session).table ∧
      resume session = Step.release (.ok (.acted action transaction))
  | .ask _ resume => ∀ answer, (resume answer).Applies settings action

theorem applies_bind (procedure : Procedure Session α)
    {next : α → Procedure Session (Except ActionFault Outcome)}
    (later : ∀ result, (next result).Applies settings action) :
    (procedure.bind next).Applies settings action := by
  induction procedure with
  | finish result => exact later result
  | stuck => trivial
  | update change resume hypothesis => exact fun session => .inl (hypothesis session)
  | ask request resume hypothesis => exact fun answer => hypothesis answer

theorem applies_release (fault : ActionFault) :
    (Step.release (.error fault)).Applies settings action :=
  fun _ => .inl fun _ given => absurd given (by simp)

theorem applies_bind_release (step : Step α) {next : α → Step Outcome}
    (later : ∀ value, ((next value).run.bind Step.release).Applies settings action) :
    ((step >>= next).run.bind Step.release).Applies settings action := by
  change ((step.run.bind _).bind _).Applies settings action
  rw [bind_assoc]
  apply applies_bind
  rintro (fault | value)
  · exact applies_release fault
  · exact later value

theorem Applies.turn {procedure rest : Procedure Session (Except ActionFault Outcome)}
    {session after : Session} {exchange : Option Exchange}
    (applies : procedure.Applies settings action)
    (turn : procedure.Turn session exchange rest after) :
    rest.Applies settings action ∨ ∃ transaction, exchange = none ∧
      session.table.applyAccepted? settings.arithmetic settings.hero action transaction =
        some after.table ∧
      rest = Step.release (.ok (.acted action transaction)) := by
  cases turn with
  | update =>
    rcases applies session with left | ⟨transaction, applied, released⟩
    · exact .inl left
    · exact .inr ⟨transaction, rfl, applied, released⟩
  | ask _ _ answer => exact .inl (applies answer)

end Procedure

namespace Settings

variable {settings : Settings}

theorem applies_accepted (settings : Settings) (action : Action) (transaction : Option String) :
    let accepted : Step Outcome := do
      Step.changeWith fun table =>
        (table.applyAccepted? settings.arithmetic settings.hero action transaction).map
          fun table => (table, ())
      return .acted action transaction
    (accepted.run.bind Step.release).Applies settings action := by
  intro accepted session
  rcases applied : session.table.applyAccepted? settings.arithmetic settings.hero action
    transaction with _ | after
  · left
    simp only [applied]
    trivial
  · right
    refine ⟨transaction, ?_, ?_⟩
    · simp only [applied]
      rfl
    · simp only [applied]
      rfl

theorem applies_betOnChain (settings : Settings) (tableId : UInt32) (action : Action) :
    ((settings.betOnChain tableId action).run.bind Step.release).Applies settings action := by
  unfold betOnChain
  dsimp only
  split
  · exact Procedure.applies_bind_release _ fun hash => settings.applies_accepted action hash
  · exact Procedure.applies_bind_release _ fun reply =>
      settings.applies_accepted action reply.transaction

theorem applies_dispatch (shared : settings.mode.isSolo = false) (action : Action) :
    (settings.dispatch (.bet action)).run.Applies settings action := by
  intro session
  left
  by_cases free : session.take.2
  · simp only [free, ↓reduceIte]
    apply Procedure.applies_bind_release
    intro table
    apply Procedure.applies_bind_release
    intro _
    simp only [carryOut, shared, Bool.false_eq_true, ↓reduceIte]
    exact settings.applies_betOnChain table.tableId action
  · simp only [free, Bool.false_eq_true, ↓reduceIte]
    exact fun _ given => absurd given (by simp)

end Settings

namespace World

variable {settings : Settings} {session : Session} {log : List Event} {world : World} {index : Nat}
  {action : Action}

/-- The step that applied the bet at an index, with the transaction that it was accepted by. -/
structure Applied (settings : Settings) (index : Nat) (action : Action)
    (transaction : Option String) (before after : World) : Prop where
  step : Step settings before (.moved index (.user (.dispatch (.bet action))) none) after
  applied : before.session.table.applyAccepted? settings.arithmetic settings.hero action
    transaction = some after.session.table
  released : after.running[index]? =
    some ⟨.user (.dispatch (.bet action)), Step.release (.ok (.acted action transaction))⟩

/-- A bet that is under way has yet to be applied, or it has been. -/
theorem applies_or (shared : settings.mode.isSolo = false)
    (run : Run settings { session } log world)
    {rest : Procedure Session (Except ActionFault Outcome)}
    (underWay : world.running[index]? = some ⟨.user (.dispatch (.bet action)), rest⟩) :
    rest.Applies settings action ∨ ∃ transaction early late before after,
      log = early ++ .moved index (.user (.dispatch (.bet action))) none :: late ∧
      Run settings { session } early before ∧
      Applied settings index action transaction before after ∧ Run settings after late world := by
  generalize start : ({ session } : World) = first at run
  induction run generalizing rest with
  | refl =>
    subst start
    exact absurd underWay (by simp)
  | @snoc middle last log event run step hypothesis =>
    subst start
    rcases step.origin underWay with ⟨_, rfl⟩ | ⟨earlier, underWayBefore, turns⟩
    · exact .inl (settings.applies_dispatch shared action)
    rcases hypothesis underWayBefore with
      applies | ⟨transaction, early, late, before, after, split, toBefore, here, onwards⟩
    · rcases turns with rfl | ⟨exchange, rfl, turn⟩
      · exact .inl applies
      · rcases applies.turn turn with left | ⟨transaction, rfl, applied, rfl⟩
        · exact .inl left
        · exact .inr ⟨transaction, log, [], middle, last, rfl, run, ⟨step, applied, underWay⟩,
            .refl last⟩
    · refine .inr ⟨transaction, early, late ++ [event], before, after, ?_, toBefore, here,
        onwards.snoc step⟩
      rw [split, List.append_assoc, List.cons_append]

/-- Behind the outcome of a bet stands the step that applied it, and the outcome is that it was
accepted. -/
theorem exists_applied (shared : settings.mode.isSolo = false)
    (run : Run settings { session } log world) {outcome : Outcome}
    (returned : world.running[index]? =
      some ⟨.user (.dispatch (.bet action)), .finish (.ok outcome)⟩) :
    ∃ transaction early late before after, outcome = .acted action transaction ∧
      log = early ++ .moved index (.user (.dispatch (.bet action))) none :: late ∧
      Run settings { session } early before ∧
      Applied settings index action transaction before after ∧ Run settings after late world := by
  rcases applies_or shared run returned with
    applies | ⟨transaction, early, late, before, after, split, toBefore, here, onwards⟩
  · exact absurd rfl (applies outcome)
  · let accepted : Except ActionFault Outcome := .ok (.acted action transaction)
    have gives : (Step.release accepted).Gives (fun _ _ => True) (· = accepted) := fun _ => rfl
    rcases gives_of_path onwards here.released gives with ⟨left, ready, given⟩
    cases returned.symm.trans ready
    have same : outcome = .acted action transaction := Except.ok.inj given
    exact ⟨transaction, early, late, before, after, same, split, toBefore, here, onwards⟩

end World

end Holdem
