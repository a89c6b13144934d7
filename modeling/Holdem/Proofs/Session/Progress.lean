import Holdem.Proofs.Session.Conversation

/-!
# Procedures that hold a conversation

How far a job has come in its conversation is told by the calls that it has attempted and by the
signing that is under way. A procedure follows the conversation when each question moves it on as
the conversation allows, whatever the answer is, and when it leaves the token alone and draws a
nonce only where one is due.
-/

namespace Holdem

/-- How far the signing of a call has come. -/
inductive SigningStage where
  | due
  | dated (now : ClockReading)
  | drawn (now : ClockReading) (nonce : Nat)
  | granted (now : ClockReading) (nonce : Nat) (signature : String)

/-- Whether a signing is under way, and of which call. -/
inductive Stage where
  | idle
  | signing (call : CoordinatorCall) (label : String) (stage : SigningStage)

/-- How far a job has come in its conversation. -/
structure Progress where
  /-- The labelled calls that are done with. -/
  attempted : List CoordinatorCall
  stage : Stage

namespace SigningStage

/-- What has been exchanged for a signature so far. -/
def heard (settings : Settings) (call : CoordinatorCall) (label : String) :
    SigningStage → List Exchange
  | due => []
  | dated now | drawn now _ => [⟨.clock, now⟩]
  | granted now nonce signature =>
    [⟨.clock, now⟩,
      ⟨.signMessage (canonicalMessage settings.hero call.tableId label nonce now.seconds),
        .ok signature⟩]

theorem silent_of_heard {settings : Settings} {call : CoordinatorCall} {label : String}
    {stage : SigningStage} {exchange : Exchange}
    (member : exchange ∈ stage.heard settings call label) :
    ∀ credentials other answer, exchange ≠ ⟨.coordinator credentials other, answer⟩ := by
  rintro credentials other answer rfl
  cases stage with
  | due => exact absurd member List.not_mem_nil
  | dated now => exact absurd member (by simp [heard])
  | drawn now nonce => exact absurd member (by simp [heard])
  | granted now nonce signature => exact absurd member (by simp [heard])

/-- The reading of the clock for which a nonce is due. -/
def reading? : SigningStage → Option ClockReading
  | dated now => some now
  | _ => none

/-- The nonce that is drawn and not sent. -/
def nonce? : SigningStage → Option Nat
  | drawn _ nonce | granted _ nonce _ => some nonce
  | _ => none

end SigningStage

namespace Stage

/-- The reading of the clock for which a nonce is due. -/
def reading? : Stage → Option ClockReading
  | idle => none
  | signing _ _ stage => stage.reading?

/-- The nonce that is drawn and not sent. -/
def nonce? : Stage → Option Nat
  | idle => none
  | signing _ _ stage => stage.nonce?

end Stage

namespace Progress

/-- A job that has exchanged `traffic` has come so far. -/
def Has (settings : Settings) (progress : Progress) (traffic : List Exchange) : Prop :=
  match progress.stage with
  | .idle => settings.Conversation progress.attempted traffic
  | .signing call label stage =>
    call.label? = some label ∧ call ∉ progress.attempted ∧ settings.hero ≠ "" ∧
      ∃ done opening, settings.Conversation progress.attempted done ∧
        settings.Opening call opening ∧
        traffic = done ++ (opening ++ stage.heard settings call label)

/-- What may be exchanged next, and how far the job has come then. -/
inductive Reads (settings : Settings) : Progress → Exchange → Progress → Prop
  | plain {calls : List CoordinatorCall} {exchange : Exchange} (plain : exchange.request.isPlain) :
      Reads settings ⟨calls, .idle⟩ exchange ⟨calls, .idle⟩
  | final {calls : List CoordinatorCall} {call : CoordinatorCall} {label : String}
      (labelled : call.label? = some label) (fresh : call ∉ calls)
      (names : settings.unsignedFirst = true) (answer : Except CoordinatorFault call.Reply)
      (final : ∀ fault, answer = .error fault → ¬fault.isUnauthorized) :
      Reads settings ⟨calls, .idle⟩
        ⟨.coordinator (some (.identity settings.hero)) call, answer⟩ ⟨call :: calls, .idle⟩
  | nameless {calls : List CoordinatorCall} {call : CoordinatorCall} {label : String}
      (labelled : call.label? = some label) (fresh : call ∉ calls)
      (names : settings.unsignedFirst = true) (fault : CoordinatorFault)
      (unauthorized : fault.isUnauthorized) (nameless : settings.hero = "") :
      Reads settings ⟨calls, .idle⟩
        ⟨.coordinator (some (.identity settings.hero)) call, .error fault⟩ ⟨call :: calls, .idle⟩
  | refused {calls : List CoordinatorCall} {call : CoordinatorCall} {label : String}
      (labelled : call.label? = some label) (fresh : call ∉ calls)
      (names : settings.unsignedFirst = true) (fault : CoordinatorFault)
      (unauthorized : fault.isUnauthorized) (named : settings.hero ≠ "") :
      Reads settings ⟨calls, .idle⟩
        ⟨.coordinator (some (.identity settings.hero)) call, .error fault⟩
        ⟨calls, .signing call label .due⟩
  | start {calls : List CoordinatorCall} {call : CoordinatorCall} {label : String}
      (labelled : call.label? = some label) (fresh : call ∉ calls)
      (signs : settings.unsignedFirst = false) (named : settings.hero ≠ "") (now : ClockReading) :
      Reads settings ⟨calls, .idle⟩ ⟨.clock, now⟩ ⟨calls, .signing call label (.dated now)⟩
  | date {calls : List CoordinatorCall} {call : CoordinatorCall} {label : String}
      (now : ClockReading) :
      Reads settings ⟨calls, .signing call label .due⟩ ⟨.clock, now⟩
        ⟨calls, .signing call label (.dated now)⟩
  | deny {calls : List CoordinatorCall} {call : CoordinatorCall} {label : String}
      {now : ClockReading} {nonce : Nat} (fault : WalletFault) :
      Reads settings ⟨calls, .signing call label (.drawn now nonce)⟩
        ⟨.signMessage (canonicalMessage settings.hero call.tableId label nonce now.seconds),
          .error fault⟩
        ⟨call :: calls, .idle⟩
  | grant {calls : List CoordinatorCall} {call : CoordinatorCall} {label : String}
      {now : ClockReading} {nonce : Nat} (signature : String) :
      Reads settings ⟨calls, .signing call label (.drawn now nonce)⟩
        ⟨.signMessage (canonicalMessage settings.hero call.tableId label nonce now.seconds),
          .ok signature⟩
        ⟨calls, .signing call label (.granted now nonce signature)⟩
  | send {calls : List CoordinatorCall} {call : CoordinatorCall} {label : String}
      {now : ClockReading} {nonce : Nat} {signature : String}
      (answer : Except CoordinatorFault call.Reply) :
      Reads settings ⟨calls, .signing call label (.granted now nonce signature)⟩
        ⟨.coordinator (some (.signed (settings.envelope call label now nonce signature))) call,
          answer⟩
        ⟨call :: calls, .idle⟩

/-- What a change of the session may do to the nonces: nothing, or draw the one that is due. -/
inductive Draws : Progress → NonceCounter → NonceCounter → Progress → Prop
  | leave (progress : Progress) (counter : NonceCounter) : Draws progress counter counter progress
  | draw {calls : List CoordinatorCall} {call : CoordinatorCall} {label : String}
      {now : ClockReading} (counter : NonceCounter) :
      Draws ⟨calls, .signing call label (.dated now)⟩ counter (counter.advance now.micros)
        ⟨calls, .signing call label (.drawn now (counter.next now.micros))⟩

variable {settings : Settings} {progress next : Progress} {exchange : Exchange}
  {traffic : List Exchange} {before after : NonceCounter}

theorem Has.draws (has : progress.Has settings traffic) (draws : progress.Draws before after next) :
    next.Has settings traffic := by
  cases draws with
  | leave => exact has
  | draw => exact has

/-- A conversation goes on with whatever may be exchanged next. -/
theorem Has.reads (has : progress.Has settings traffic)
    (reads : progress.Reads settings exchange next) : next.Has settings (traffic ++ [exchange]) := by
  cases reads with
  | plain plain => exact .plain has plain
  | final labelled fresh names answer final =>
    exact .attempt has labelled fresh (.final names answer final)
  | nameless labelled fresh names fault unauthorized nameless =>
    exact .attempt has labelled fresh
      (.signing (.refused names fault unauthorized) (.nameless nameless))
  | refused labelled fresh names fault unauthorized named =>
    exact ⟨labelled, fresh, named, traffic, _, has, .refused names fault unauthorized, rfl⟩
  | start labelled fresh signs named now =>
    exact ⟨labelled, fresh, named, traffic, [], has, .signed signs, rfl⟩
  | date now =>
    rcases has with ⟨labelled, fresh, named, done, opening, conversation, opens, eq⟩
    exact ⟨labelled, fresh, named, done, opening, conversation, opens,
      by rw [eq]; simp [SigningStage.heard]⟩
  | @deny _ call label now nonce fault =>
    rcases has with ⟨labelled, fresh, named, done, opening, conversation, opens, eq⟩
    have attempt : settings.Attempt call label _ :=
      .signing opens (.refused named now nonce fault)
    rw [eq]
    simpa [Has, SigningStage.heard] using conversation.attempt labelled fresh attempt
  | grant signature =>
    rcases has with ⟨labelled, fresh, named, done, opening, conversation, opens, eq⟩
    exact ⟨labelled, fresh, named, done, opening, conversation, opens,
      by rw [eq]; simp [SigningStage.heard]⟩
  | @send _ call label now nonce signature answer =>
    rcases has with ⟨labelled, fresh, named, done, opening, conversation, opens, eq⟩
    have attempt : settings.Attempt call label _ :=
      .signing opens (.sent named now nonce signature answer)
    rw [eq]
    simpa [Has, SigningStage.heard] using conversation.attempt labelled fresh attempt

/-- Whatever a job has exchanged so far is vouched for. -/
theorem Has.vouched (has : progress.Has settings traffic) : settings.Vouched traffic := by
  rcases progress with ⟨calls, stage⟩
  cases stage with
  | idle => exact Settings.Conversation.vouched has
  | signing call label stage =>
    rcases has with ⟨labelled, fresh, named, done, opening, conversation, opens, rfl⟩
    have quiet : ∀ exchange ∈ stage.heard settings call label, ∀ other,
        ¬exchange.sends other := by
      rintro ⟨request, answer⟩ member other sends
      cases request with
      | coordinator credentials sent =>
        exact SigningStage.silent_of_heard member credentials sent answer rfl
      | _ => exact absurd sends (by simp [Exchange.sends])
    have heardVouched : settings.Vouched (stage.heard settings call label) := by
      apply Settings.vouched_of_silent
      · intro exchange member other _ _
        exact quiet exchange member other
      · intro envelope other answer member
        exact SigningStage.silent_of_heard member _ other answer rfl
    have partVouched := opens.vouched.append heardVouched fun other _ _ =>
      Or.inr (Settings.filter_sends_eq_nil fun exchange member => quiet exchange member other)
    apply (Settings.Conversation.vouched conversation).append partVouched
    intro other otherLabel otherLabelled
    by_cases same : other = call
    · left
      apply Settings.filter_sends_eq_nil
      intro exchange member sends
      apply fresh
      rw [← same]
      exact conversation.attempted otherLabelled member sends
    · right
      apply Settings.filter_sends_eq_nil
      intro exchange member sends
      rcases List.mem_append.mp member with early | late
      · rcases opens.mem early with ⟨_, fault, _, rfl⟩
        exact same (of_decide_eq_true sends).symm
      · exact quiet exchange late other sends

end Progress

/-! ## Following a conversation -/

namespace Procedure

variable {settings : Settings} {α β : Type}

/-- Every question of a procedure and every nonce that it draws is the next thing in a conversation
that has come to some progress, and it ends with a result and a progress as described. -/
def Follows (settings : Settings) :
    Procedure Session α → Progress → (α → Progress → Prop) → Prop
  | .finish result, progress, ends => ends result progress
  | .stuck, _, _ => True
  | .update change resume, progress, ends =>
    ∀ session, (change session).busy = session.busy ∧
      ∃ next, progress.Draws session.nonces (change session).nonces next ∧
        (resume session).Follows settings next ends
  | .ask request resume, progress, ends =>
    ∀ answer, ∃ next, progress.Reads settings ⟨request, answer⟩ next ∧
      (resume answer).Follows settings next ends

variable {progress : Progress}

/-- A sequence follows a conversation when the second procedure goes on where the first ends. -/
theorem follows_bind {procedure : Procedure Session α} {next : α → Procedure Session β}
    {middle : α → Progress → Prop} {ends : β → Progress → Prop}
    (first : procedure.Follows settings progress middle)
    (later : ∀ result progress, middle result progress →
      (next result).Follows settings progress ends) :
    (procedure.bind next).Follows settings progress ends := by
  induction procedure generalizing progress with
  | finish result => exact later result progress first
  | stuck => trivial
  | update change resume hypothesis =>
    intro session
    rcases first session with ⟨busy, progressed, draws, rest⟩
    exact ⟨busy, progressed, draws, hypothesis session rest⟩
  | ask request resume hypothesis =>
    intro answer
    rcases first answer with ⟨progressed, reads, rest⟩
    exact ⟨progressed, reads, hypothesis answer rest⟩

theorem follows_mono {procedure : Procedure Session α} {ends wider : α → Progress → Prop}
    (follows : procedure.Follows settings progress ends)
    (weaker : ∀ result progress, ends result progress → wider result progress) :
    procedure.Follows settings progress wider := by
  rw [← bind_finish procedure]
  exact follows_bind follows weaker

/-- A procedure that asks plain questions only, and leaves the nonces and the token alone. -/
def Quiet : Procedure Session α → Prop
  | .finish _ => True
  | .stuck => True
  | .update change resume =>
    ∀ session, (change session).busy = session.busy ∧
      (change session).nonces = session.nonces ∧ (resume session).Quiet
  | .ask request resume => request.isPlain ∧ ∀ answer, (resume answer).Quiet

theorem Quiet.bind {procedure : Procedure Session α} {next : α → Procedure Session β}
    (first : procedure.Quiet) (later : ∀ result, (next result).Quiet) :
    (procedure.bind next).Quiet := by
  induction procedure with
  | finish result => exact later result
  | stuck => trivial
  | update change resume hypothesis =>
    intro session
    rcases first session with ⟨busy, nonces, rest⟩
    exact ⟨busy, nonces, hypothesis session rest⟩
  | ask request resume hypothesis =>
    exact ⟨first.1, fun answer => hypothesis answer (first.2 answer)⟩

theorem Quiet.follows {procedure : Procedure Session α} (quiet : procedure.Quiet)
    (calls : List CoordinatorCall) :
    procedure.Follows settings ⟨calls, .idle⟩ fun _ progress => progress = ⟨calls, .idle⟩ := by
  induction procedure with
  | finish => rfl
  | stuck => trivial
  | update change resume hypothesis =>
    intro session
    rcases quiet session with ⟨busy, nonces, rest⟩
    refine ⟨busy, ⟨calls, .idle⟩, ?_, hypothesis session rest⟩
    rw [nonces]
    exact .leave _ _
  | ask request resume hypothesis =>
    intro answer
    exact ⟨⟨calls, .idle⟩, .plain quiet.1, hypothesis answer (quiet.2 answer)⟩

end Procedure

end Holdem
