import Holdem.Proofs.Session.Hearing
import Holdem.Proofs.Session.Turns

/-!
# What an action left alone comes to

When nothing happens between the turns of an action, the snapshot that it leaves is fixed by what it
was told: the replies that the coordinator granted and the actions that simulated players replied
with. Times, nonces, signatures and refusals decide how often something is sent, and never what it
does to the snapshot.

`Procedure.Ends` relates a procedure to the ends that it can come to, with the words that it is told
on the way, and forgets everything else that was asked. It follows the procedure, so that a step is
taken apart and put together again part by part. `ends_iff_turns` says that nothing but rows of
turns is meant.
-/

namespace Holdem

/-- The words of what was asked in some turns. -/
def wordsOf (exchanges : List (Option Exchange)) : List Word :=
  exchanges.filterMap fun exchange => exchange.bind Exchange.word?

namespace Procedure

variable {σ α β : Type}

/-- Left alone, and told these words, a procedure can finish with a result in a state. -/
def Ends : Procedure σ α → σ → List Word → α → σ → Prop
  | .finish finished, state, words, result, last =>
    words = [] ∧ result = finished ∧ last = state
  | .stuck, _, _, _, _ => False
  | .update change resume, state, words, result, last =>
    (resume state).Ends (change state) words result last
  | .ask request resume, state, words, result, last =>
    ∃ answer later, words = (Exchange.word? ⟨request, answer⟩).toList ++ later ∧
      (resume answer).Ends state later result last

/-- The ends of a procedure are those that its turns in a row can take it to. -/
theorem ends_iff_turns {procedure : Procedure σ α} {state last : σ} {words : List Word}
    {result : α} :
    procedure.Ends state words result last ↔
      ∃ exchanges, wordsOf exchanges = words ∧
        procedure.Turns state exchanges (.finish result) last := by
  constructor
  · intro ends
    induction procedure generalizing state words with
    | finish finished =>
      rcases ends with ⟨rfl, rfl, rfl⟩
      exact ⟨[], rfl, .refl _ _⟩
    | stuck => exact absurd ends id
    | update change resume hypothesis =>
      rcases hypothesis state ends with ⟨exchanges, same, turns⟩
      exact ⟨none :: exchanges, same, .cons (.update change resume state) turns⟩
    | ask request resume hypothesis =>
      rcases ends with ⟨answer, later, rfl, ends⟩
      rcases hypothesis answer ends with ⟨exchanges, rfl, turns⟩
      refine ⟨some ⟨request, answer⟩ :: exchanges, ?_,
        .cons (.ask request resume answer state) turns⟩
      simp only [wordsOf, List.filterMap_cons, Option.bind_some]
      cases Exchange.word? ⟨request, answer⟩ <;> rfl
  · rintro ⟨exchanges, rfl, turns⟩
    generalize finished : Procedure.finish result = rest at turns
    induction turns with
    | refl =>
      rw [← finished]
      exact ⟨rfl, rfl, rfl⟩
    | cons turn _ hypothesis =>
      have endsRest := hypothesis finished
      cases turn with
      | update => exact endsRest
      | ask request resume answer =>
        refine ⟨answer, _, ?_, endsRest⟩
        simp only [wordsOf, List.filterMap_cons, Option.bind_some]
        cases Exchange.word? ⟨request, answer⟩ <;> rfl

theorem ends_bind {procedure : Procedure σ α} {next : α → Procedure σ β} {state last : σ}
    {words : List Word} {result : β} :
    (procedure.bind next).Ends state words result last ↔
      ∃ value between first later, words = first ++ later ∧
        procedure.Ends state first value between ∧ (next value).Ends between later result last := by
  induction procedure generalizing state words with
  | finish finished =>
    constructor
    · exact fun ends => ⟨finished, state, [], words, rfl, ⟨rfl, rfl, rfl⟩, ends⟩
    · rintro ⟨value, between, first, later, rfl, ⟨rfl, rfl, rfl⟩, ends⟩
      exact ends
  | stuck =>
    constructor
    · exact fun ends => absurd ends id
    · rintro ⟨_, _, _, _, _, ends, _⟩
      exact ends
  | update change resume hypothesis => exact hypothesis state
  | ask request resume hypothesis =>
    constructor
    · rintro ⟨answer, rest, rfl, ends⟩
      rcases (hypothesis answer).mp ends with ⟨value, between, first, later, rfl, endsFirst, ends⟩
      exact ⟨value, between, _, later, (List.append_assoc ..).symm, ⟨answer, first, rfl, endsFirst⟩,
        ends⟩
    · rintro ⟨value, between, _, later, rfl, ⟨answer, first, rfl, endsFirst⟩, ends⟩
      exact ⟨answer, first ++ later, List.append_assoc ..,
        (hypothesis answer).mpr ⟨value, between, first, later, rfl, endsFirst, ends⟩⟩

/-- What a procedure comes to when it is left alone it hears without a poll. -/
theorem Ends.hears {procedure : Procedure Session α} {session last : Session} {words : List Word}
    {result : α} (ends : procedure.Ends session words result last) (mode : PlayMode) :
    procedure.Hears mode session [] words result last := by
  induction procedure generalizing session words with
  | finish => exact ⟨rfl, ends⟩
  | stuck => exact absurd ends id
  | update change resume hypothesis => exact ⟨[], [], rfl, hypothesis session ends⟩
  | ask request resume hypothesis =>
    rcases ends with ⟨answer, later, rfl, ends⟩
    exact ⟨answer, [], [], later, rfl, rfl, hypothesis answer ends⟩

/-- Whatever it is answered, a procedure that keeps a discipline under which nothing breaks off does
not. -/
theorem Turns.not_stuck {procedure rest : Procedure σ α} {state last : σ}
    {exchanges : List (Option Exchange)} {discipline : Discipline σ}
    (turns : procedure.Turns state exchanges rest last)
    (any : ∀ request answer, discipline.expects request answer)
    (kept : procedure.Keeps discipline) (holds : discipline.invariant state)
    (safe : ¬discipline.mayBreak) : rest ≠ .stuck := by
  induction turns with
  | refl =>
    rintro rfl
    exact safe kept
  | cons turn _ hypothesis =>
    rcases kept.turn turn holds with ⟨⟨holdsAfter, _⟩, keptRest⟩
    exact hypothesis (keptRest fun heard _ => any heard.request heard.answer) holdsAfter

end Procedure

namespace Step

variable {α β : Type} {session between last : Session} {words first later : List Word}

abbrev Ends (step : Step α) (session : Session) (words : List Word)
    (result : Except ActionFault α) (last : Session) : Prop :=
  Procedure.Ends step.run session words result last

theorem ends_pure (value : α) (session : Session) :
    (pure value : Step α).Ends session [] (.ok value) session := ⟨rfl, rfl, rfl⟩

/-- A step after another ends with the failure of the first, or where it goes on to. -/
theorem ends_bind_cases {step : Step α} {next : α → Step β} {result : Except ActionFault β}
    (ends : (step >>= next).Ends session words result last) :
    (∃ fault, result = .error fault ∧ step.Ends session words (.error fault) last) ∨
      ∃ value between first later, words = first ++ later ∧
        step.Ends session first (.ok value) between ∧
        (next value).Ends between later result last := by
  rcases Procedure.ends_bind.mp ends with ⟨found, between, first, later, rfl, endsFirst, endsNext⟩
  cases found with
  | ok value => exact .inr ⟨value, between, first, later, rfl, endsFirst, endsNext⟩
  | error fault =>
    rcases endsNext with ⟨rfl, rfl, rfl⟩
    rw [List.append_nil]
    exact .inl ⟨fault, rfl, endsFirst⟩

theorem ends_bind {step : Step α} {next : α → Step β} {value : α} {result : Except ActionFault β}
    (endsFirst : step.Ends session first (.ok value) between)
    (ends : (next value).Ends between later result last) :
    (step >>= next).Ends session (first ++ later) result last :=
  Procedure.ends_bind.mpr ⟨_, between, first, later, rfl, endsFirst, ends⟩

theorem ends_bind_of_error {step : Step α} {next : α → Step β} {fault : ActionFault}
    (ends : step.Ends session words (.error fault) last) :
    (step >>= next).Ends session words (.error fault) last :=
  Procedure.ends_bind.mpr
    ⟨_, last, words, [], (List.append_nil _).symm, ends, rfl, rfl, rfl⟩

/-- Where the token is free a step ends as it does with the token, which is then given back. -/
theorem ends_exclusively_iff {step : Step α} {result : Except ActionFault α}
    (free : session.busy = false) :
    (exclusively step).Ends session words result last ↔
      ∃ after, step.Ends { session with busy := true } words result after ∧
        last = { after with busy := false } := by
  have taken : session.take.2 = true := by simp [Session.take, free]
  change Procedure.Ends (if session.take.2 then _ else _) _ _ _ _ ↔ _
  rw [taken, if_pos rfl, Procedure.ends_bind]
  constructor
  · rintro ⟨value, after, first, _, rfl, ends, rfl, rfl, rfl⟩
    rw [List.append_nil]
    exact ⟨after, ends, rfl⟩
  · rintro ⟨after, ends, rfl⟩
    exact ⟨result, after, words, [], (List.append_nil _).symm, ends, rfl, rfl, rfl⟩

theorem ends_ask_bind {request : Request} {next : request.Answer → Step β}
    {result : Except ActionFault β} :
    (Step.ask request >>= next).Ends session words result last ↔
      ∃ answer later, words = (Exchange.word? ⟨request, answer⟩).toList ++ later ∧
        (next answer).Ends session later result last :=
  Iff.rfl

theorem ends_changeWith_bind {update : Table → Option (Table × α)} {next : α → Step β}
    {result : Except ActionFault β} :
    (Step.changeWith update >>= next).Ends session words result last ↔
      ∃ table value, update session.table = some (table, value) ∧
        (next value).Ends { session with table } words result last := by
  simp only [Ends, run_changeWith_bind, Procedure.Ends]
  rcases changed : update session.table with _ | ⟨table, value⟩
  · simp [Procedure.Ends]
  · simp only [Option.elim_some, Option.some.injEq, Prod.mk.injEq]
    constructor
    · exact fun ends => ⟨table, value, ⟨rfl, rfl⟩, ends⟩
    · rintro ⟨_, _, ⟨rfl, rfl⟩, ends⟩
      exact ends

/-- What is made of the result of a step in the end changes nothing else. -/
theorem ends_bind_pure {step : Step α} {make : α → β} {result : Except ActionFault β} :
    (step >>= fun value => pure (make value)).Ends session words result last ↔
      ∃ found, step.Ends session words found last ∧ result = found.map make := by
  constructor
  · intro ends
    rcases ends_bind_cases ends with
      ⟨fault, rfl, failed⟩ | ⟨value, between, first, later, rfl, endsFirst, rfl, rfl, rfl⟩
    · exact ⟨.error fault, failed, rfl⟩
    · rw [List.append_nil]
      exact ⟨.ok value, endsFirst, rfl⟩
  · rintro ⟨found, ends, rfl⟩
    cases found with
    | error fault => exact ends_bind_of_error ends
    | ok value =>
      rw [← List.append_nil words]
      exact ends_bind ends (ends_pure (make value) last)

/-! ## Steps that go by the snapshot -/

/-- Told the same, a step comes to the same result and snapshot from any session with the same
snapshot: the nonces and the token do not matter. -/
def Replays (step : Step α) : Prop :=
  ∀ {session other last : Session} {words : List Word} {result : Except ActionFault α},
    step.Ends session words result last → other.table = session.table →
      ∃ replayed, step.Ends other words result replayed ∧ replayed.table = last.table

theorem replays_pure (value : α) : (pure value : Step α).Replays := by
  rintro session other _ _ _ ⟨rfl, rfl, rfl⟩ same
  exact ⟨other, ⟨rfl, rfl, rfl⟩, same⟩

theorem replays_throw (fault : ActionFault) : (throw fault : Step α).Replays := by
  rintro session other _ _ _ ⟨rfl, rfl, rfl⟩ same
  exact ⟨other, ⟨rfl, rfl, rfl⟩, same⟩

theorem replays_bind {step : Step α} {next : α → Step β} (replays : step.Replays)
    (later : ∀ value, (next value).Replays) : (step >>= next).Replays := by
  intro session other last words result ends same
  rcases ends_bind_cases ends with
    ⟨fault, rfl, failed⟩ | ⟨value, between, first, rest, rfl, endsFirst, endsNext⟩
  · rcases replays failed same with ⟨replayed, ends, same⟩
    exact ⟨replayed, ends_bind_of_error ends, same⟩
  · rcases replays endsFirst same with ⟨middle, endsMiddle, sameMiddle⟩
    rcases later value endsNext sameMiddle with ⟨replayed, ends, same⟩
    exact ⟨replayed, ends_bind endsMiddle ends, same⟩

theorem replays_table : Step.table.Replays := by
  rintro session other _ _ _ ⟨rfl, rfl, rfl⟩ same
  exact ⟨other, ⟨rfl, congrArg Except.ok same.symm, rfl⟩, same⟩

theorem replays_change (update : Table → Table) : (Step.change update).Replays := by
  rintro session other _ _ _ ⟨rfl, rfl, rfl⟩ same
  exact ⟨other.onTable update, ⟨rfl, rfl, rfl⟩, congrArg update same⟩

theorem replays_changeWith_bind {update : Table → Option (Table × α)} {next : α → Step β}
    (later : ∀ value, (next value).Replays) : (Step.changeWith update >>= next).Replays := by
  intro session other last words result ends same
  rcases ends_changeWith_bind.mp ends with ⟨table, value, changed, endsNext⟩
  rw [← same] at changed
  have sameTable : ({ other with table } : Session).table = table := rfl
  rcases later value endsNext sameTable with ⟨replayed, ends, same⟩
  exact ⟨replayed, ends_changeWith_bind.mpr ⟨table, value, changed, ends⟩, same⟩

theorem replays_ask (request : Request) : (Step.ask request).Replays := by
  rintro session other _ _ _ ⟨answer, _, rfl, rfl, rfl, rfl⟩ same
  exact ⟨other, ⟨answer, [], rfl, rfl, rfl, rfl⟩, same⟩

theorem replays_require {ε : Type} (answer : Except ε α) (fault : ε → ActionFault) :
    (Step.require answer fault).Replays := by
  cases answer with
  | ok value => exact replays_pure value
  | error reason => exact replays_throw (fault reason)

theorem replays_attempt {step : Step α} (replays : step.Replays) :
    (Step.attempt step).Replays := by
  intro session other last words result ends same
  rcases Procedure.ends_bind.mp ends with ⟨found, _, first, _, rfl, endsFirst, rfl, rfl, rfl⟩
  rcases replays endsFirst same with ⟨replayed, ends, same⟩
  exact ⟨replayed, Procedure.ends_bind.mpr ⟨found, replayed, first, [], rfl, ends, rfl, rfl, rfl⟩,
    same⟩

end Step

/-! ## Calls -/

namespace Settings

theorem replays_send (credentials : Option Credentials) (call : CoordinatorCall) :
    (send credentials call).Replays :=
  Step.replays_bind (Step.replays_ask _) fun _ => Step.replays_require _ _

/-- The nonce and the message are others, and what is answered to them the same. -/
theorem replays_sendSigned (settings : Settings) (call : CoordinatorCall) (purpose : Purpose) :
    (settings.sendSigned call purpose).Replays := by
  intro session other last words result ends same
  by_cases nameless : settings.hero = ""
  · simp only [Step.Ends, run_sendSigned_of_nameless nameless] at ends ⊢
    exact Step.replays_throw _ ends same
  · simp only [sendSigned, credentials, nameless, ↓reduceIte] at ends ⊢
    rcases ends with ⟨now, _, rfl, signature, _, rfl, ends⟩
    let advanced := { other with nonces := other.nonces.advance now.micros }
    cases signature with
    | error fault =>
      rcases ends with ⟨rfl, rfl, rfl⟩
      exact ⟨advanced, ⟨now, _, rfl, .error fault, _, rfl, rfl, rfl, rfl⟩, same⟩
    | ok signature =>
      rcases ends with ⟨answer, _, rfl, ends⟩
      cases answer with
      | error fault =>
        rcases ends with ⟨rfl, rfl, rfl⟩
        exact ⟨advanced, ⟨now, _, rfl, .ok signature, _, rfl, .error fault, _, rfl, rfl, rfl, rfl⟩,
          same⟩
      | ok reply =>
        rcases ends with ⟨rfl, rfl, rfl⟩
        exact ⟨advanced, ⟨now, _, rfl, .ok signature, _, rfl, .ok reply, _, rfl, rfl, rfl, rfl⟩,
          same⟩

theorem replays_call (settings : Settings) (call : CoordinatorCall) :
    (settings.call call).Replays := by
  simp only [Settings.call]
  split
  · exact replays_send none call
  · rename_i purpose _
    split
    · apply Step.replays_bind (Step.replays_ask _)
      intro answer
      rcases answer with fault | reply
      · dsimp only
        split
        · exact settings.replays_sendSigned call purpose
        · exact Step.replays_throw _
      · exact Step.replays_pure reply
    · exact settings.replays_sendSigned call purpose

end Settings

end Holdem
