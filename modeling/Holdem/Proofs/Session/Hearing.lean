import Holdem.Proofs.Session.Course
import Holdem.Proofs.Session.Speech

/-!
# What an action hears among polls

An action that has the token shares the session with polls alone. What it comes to is fixed by what
it is told, the replies that the coordinator grants and the actions that simulated players reply
with, and by the polls that are merged while it waits. Times, nonces, signatures and refusals decide
how often something is sent, and never what it does to the snapshot.

`Procedure.Hears` relates a procedure to the ends that it can come to, with the polls and the words
that come in on the way, and forgets everything else that was asked. Polls may come before any turn,
also where nothing is waited for. A call leaves the snapshot to them, however often it is sent.
-/

namespace Holdem

/-- What a procedure is told and can act on. -/
inductive Word where
  | granted (call : CoordinatorCall) (reply : call.Reply)
  /-- The reply of a simulated player. -/
  | played (action : Action)

/-- What is told by an exchange. A refusal tells nothing, since it changes nothing. -/
def Exchange.word? : Exchange → Option Word
  | ⟨.coordinator _ call, .ok reply⟩ => some (.granted call reply)
  | ⟨.reply _ _, action⟩ => some (.played action)
  | _ => none

namespace Procedure

variable {mode : PlayMode} {α β : Type}

/-- Told these words, and with these polls merged before its turns, a procedure can finish with a
result in a session. -/
def Hears (mode : PlayMode) :
    Procedure Session α → Session → List Poll → List Word → α → Session → Prop
  | .finish finished, session, polls, words, result, last =>
    polls = [] ∧ words = [] ∧ result = finished ∧ last = session
  | .stuck, _, _, _, _, _ => False
  | .update change resume, session, polls, words, result, last =>
    ∃ merged later, polls = merged ++ later ∧
      (resume (session.onTable (Table.mergeAll mode merged))).Hears mode
        (change (session.onTable (Table.mergeAll mode merged))) later words result last
  | .ask request resume, session, polls, words, result, last =>
    ∃ answer merged later laterWords, polls = merged ++ later ∧
      words = (Exchange.word? ⟨request, answer⟩).toList ++ laterWords ∧
      (resume answer).Hears mode (session.onTable (Table.mergeAll mode merged)) later laterWords
        result last

/-- What a sequence hears is heard by the first procedure, and the rest of it by the next. -/
theorem Hears.of_bind {procedure : Procedure Session α} {next : α → Procedure Session β}
    {session last : Session} {polls : List Poll} {words : List Word} {result : β}
    (hears : (procedure.bind next).Hears mode session polls words result last) :
    ∃ value middle early late before after, polls = early ++ late ∧ words = before ++ after ∧
      procedure.Hears mode session early before value middle ∧
      (next value).Hears mode middle late after result last := by
  induction procedure generalizing session polls words with
  | finish value =>
    exact ⟨value, session, [], polls, [], words, rfl, rfl, ⟨rfl, rfl, rfl, rfl⟩, hears⟩
  | stuck => exact absurd hears id
  | update change resume hypothesis =>
    rcases hears with ⟨merged, later, rfl, rest⟩
    rcases hypothesis _ rest with
      ⟨value, middle, early, late, before, after, rfl, rfl, first, second⟩
    exact ⟨value, middle, _, late, before, after, (List.append_assoc ..).symm, rfl,
      ⟨merged, early, rfl, first⟩, second⟩
  | ask request resume hypothesis =>
    rcases hears with ⟨answer, merged, later, laterWords, rfl, rfl, rest⟩
    rcases hypothesis answer rest with
      ⟨value, middle, early, late, before, after, rfl, rfl, first, second⟩
    exact ⟨value, middle, _, late, _, after, (List.append_assoc ..).symm,
      (List.append_assoc ..).symm, ⟨answer, merged, early, before, rfl, rfl, first⟩, second⟩

end Procedure

/-! ## Steps -/

namespace Step

variable {mode : PlayMode} {α β : Type} {session last : Session} {polls : List Poll}
  {words : List Word}

abbrev Hears (mode : PlayMode) (step : Step α) (session : Session) (polls : List Poll)
    (words : List Word) (result : Except ActionFault α) (last : Session) : Prop :=
  Procedure.Hears mode step.run session polls words result last

/-- A step after another ends with the failure of the first, or where it goes on to. -/
theorem hears_bind_cases {step : Step α} {next : α → Step β} {result : Except ActionFault β}
    (hears : (step >>= next).Hears mode session polls words result last) :
    (∃ fault, result = .error fault ∧ step.Hears mode session polls words (.error fault) last) ∨
      ∃ value middle early late before after, polls = early ++ late ∧ words = before ++ after ∧
        step.Hears mode session early before (.ok value) middle ∧
        (next value).Hears mode middle late after result last := by
  rcases hears.of_bind with
    ⟨found, middle, early, late, before, after, rfl, rfl, first, second⟩
  cases found with
  | ok value =>
    exact .inr ⟨value, middle, early, late, before, after, rfl, rfl, first, second⟩
  | error fault =>
    rcases second with ⟨rfl, rfl, rfl, rfl⟩
    rw [List.append_nil, List.append_nil]
    exact .inl ⟨fault, rfl, first⟩

/-- A change is made on the snapshot that the polls have made by then. -/
theorem hears_changeWith_bind {update : Table → Option (Table × α)} {next : α → Step β}
    {result : Except ActionFault β}
    (hears : (Step.changeWith update >>= next).Hears mode session polls words result last) :
    ∃ early late table value, polls = early ++ late ∧
      update (session.table.mergeAll mode early) = some (table, value) ∧
      (next value).Hears mode { session with table } late words result last := by
  simp only [Hears, run_changeWith_bind, Procedure.Hears] at hears
  rcases hears with ⟨early, late, rfl, rest⟩
  rcases changed : update (session.table.mergeAll mode early) with _ | ⟨table, value⟩
  · simp only [Session.onTable, changed] at rest
    exact absurd rest id
  · simp only [Session.onTable, changed] at rest
    exact ⟨early, late, table, value, rfl, changed, rest⟩

end Step

/-! ## Calls -/

/-- What a call is told and comes to: the reply that is granted, or nothing, and a failure that is
no refusal on the spot. -/
def CoordinatorCall.Reports (call : CoordinatorCall) (words : List Word) :
    Except ActionFault call.Reply → Prop
  | .ok reply => words = [.granted call reply]
  | .error fault => words = [] ∧ fault.isPrecondition = false

namespace Settings

variable {settings : Settings} {mode : PlayMode} {call : CoordinatorCall} {purpose : Purpose}
  {session last : Session} {polls : List Poll} {words : List Word}
  {result : Except ActionFault call.Reply}

theorem hears_send {credentials : Option Credentials}
    (hears : (send credentials call).Hears mode session polls words result last) :
    last = session.onTable (Table.mergeAll mode polls) ∧ call.Reports words result := by
  rcases hears with ⟨answer, merged, _, _, rfl, rfl, rest⟩
  cases answer with
  | ok reply =>
    rcases rest with ⟨rfl, rfl, rfl, rfl⟩
    rw [List.append_nil]
    exact ⟨rfl, rfl⟩
  | error fault =>
    rcases rest with ⟨rfl, rfl, rfl, rfl⟩
    rw [List.append_nil]
    exact ⟨rfl, rfl, rfl⟩

theorem hears_sendSigned
    (hears : (settings.sendSigned call purpose).Hears mode session polls words result last) :
    last.table = session.table.mergeAll mode polls ∧ last.busy = session.busy ∧
      call.Reports words result := by
  by_cases nameless : settings.hero = ""
  · rw [Step.Hears, run_sendSigned_of_nameless nameless] at hears
    rcases hears with ⟨rfl, rfl, rfl, rfl⟩
    exact ⟨rfl, rfl, rfl, rfl⟩
  · simp only [sendSigned, credentials, nameless, ↓reduceIte] at hears
    rcases hears with
      ⟨now, _, _, _, rfl, rfl, _, _, rfl, signature, _, _, _, rfl, rfl, rest⟩
    cases signature with
    | error fault =>
      rcases rest with ⟨rfl, rfl, rfl, rfl⟩
      rw [List.append_nil, Table.mergeAll_append, Table.mergeAll_append]
      exact ⟨rfl, rfl, rfl, rfl⟩
    | ok signature =>
      rcases hears_send rest with ⟨rfl, reports⟩
      rw [Table.mergeAll_append, Table.mergeAll_append, Table.mergeAll_append]
      exact ⟨rfl, rfl, reports⟩

/-- A call leaves the token alone and the snapshot to the polls, and comes to what it reports. -/
theorem hears_call (hears : (settings.call call).Hears mode session polls words result last) :
    last.table = session.table.mergeAll mode polls ∧ last.busy = session.busy ∧
      call.Reports words result := by
  rcases purposed : call.purpose? with _ | purpose
  · simp only [Settings.call, purposed] at hears
    rcases hears_send hears with ⟨rfl, reports⟩
    exact ⟨rfl, rfl, reports⟩
  cases names : settings.unsignedFirst with
  | false =>
    rw [Step.Hears, run_call_of_signed purposed names] at hears
    exact hears_sendSigned hears
  | true =>
    rw [Step.Hears, run_call_of_unsigned purposed names] at hears
    rcases hears with ⟨answer, _, _, _, rfl, rfl, rest⟩
    cases answer with
    | ok reply =>
      rcases rest with ⟨rfl, rfl, rfl, rfl⟩
      rw [List.append_nil]
      exact ⟨rfl, rfl, rfl⟩
    | error fault =>
      dsimp only at rest
      split at rest
      · rcases hears_sendSigned rest with ⟨table, busy, reports⟩
        rw [Table.mergeAll_append]
        exact ⟨table, busy, reports⟩
      · rcases rest with ⟨rfl, rfl, rfl, rfl⟩
        rw [List.append_nil]
        exact ⟨rfl, rfl, rfl, rfl⟩

end Settings

end Holdem
