import Holdem.Proofs.Session.Progress

/-!
# What the intents say

Each intent holds its conversation with the coordinator as it should. The rules for steps say which
labelled calls a step may make, so that steps which make different calls can follow each other; a
step that makes none can stand anywhere.
-/

namespace Holdem

/-- Whether a call has a hand dealt. -/
def CoordinatorCall.isDeal : CoordinatorCall → Bool
  | .deal _ _ => true
  | _ => false

theorem CoordinatorCall.isSome_label?_of_isDeal {call : CoordinatorCall} (deals : call.isDeal) :
    call.label?.isSome := by
  cases call with
  | deal => rfl
  | _ => exact absurd deals Bool.false_ne_true

/-- From any point between two requests a step follows the conversation to another such point, and
in between attempts no labelled calls but new ones. -/
def Step.Speaks (settings : Settings) (new : CoordinatorCall → Prop) (step : Step α) : Prop :=
  ∀ calls : List CoordinatorCall, (∀ call, new call → call ∉ calls) →
    Procedure.Follows settings step.run ⟨calls, .idle⟩ fun _ progress =>
      progress.stage = .idle ∧ ∀ call ∈ progress.attempted, call ∈ calls ∨ new call

namespace Step

variable {settings : Settings} {α β : Type} {new others : CoordinatorCall → Prop}

theorem speaks_of_quiet {step : Step α} (quiet : Procedure.Quiet step.run) :
    Step.Speaks settings new step := by
  intro calls _
  apply Procedure.follows_mono (quiet.follows calls)
  rintro result progress rfl
  exact ⟨rfl, fun call member => Or.inl member⟩

theorem speaks_pure (result : α) : Step.Speaks settings new (pure result) :=
  speaks_of_quiet trivial

theorem speaks_throw (fault : ActionFault) : Step.Speaks settings new (throw fault : Step α) :=
  speaks_of_quiet trivial

theorem speaks_mono {step : Step α} (speaks : Step.Speaks settings new step)
    (wider : ∀ call, new call → others call) : Step.Speaks settings others step := by
  intro calls fresh
  apply Procedure.follows_mono (speaks calls fun call isNew => fresh call (wider call isNew))
  rintro result progress ⟨idle, attempted⟩
  refine ⟨idle, ?_⟩
  intro call member
  exact (attempted call member).imp_right (wider call)

/-- Steps that make different calls follow each other. -/
theorem speaks_bind {step : Step α} {next : α → Step β} (first : Step.Speaks settings new step)
    (later : ∀ result, Step.Speaks settings others (next result))
    (apart : ∀ call, new call → ¬others call) :
    Step.Speaks settings (fun call => new call ∨ others call) (step >>= next) := by
  intro calls fresh
  apply Procedure.follows_bind (first calls fun call isNew => fresh call (Or.inl isNew))
  rintro result ⟨attempted, stage⟩ ⟨rfl, known⟩
  cases result with
  | error fault =>
    refine ⟨rfl, ?_⟩
    intro call member
    exact (known call member).imp_right Or.inl
  | ok value =>
    have continues := later value attempted (by
      intro call isOther member
      rcases known call member with early | isNew
      · exact fresh call (Or.inr isOther) early
      · exact apart call isNew isOther)
    apply Procedure.follows_mono continues
    rintro final progress ⟨idle, knownThen⟩
    refine ⟨idle, ?_⟩
    intro call member
    rcases knownThen call member with early | isOther
    · exact (known call early).imp_right Or.inl
    · exact Or.inr (Or.inr isOther)

/-- A step that makes no labelled call. -/
abbrev Silent (settings : Settings) (step : Step α) : Prop :=
  Step.Speaks settings (fun _ => False) step

/-- Before a step that makes no labelled call the others stay what they are. -/
theorem speaks_bind_silent {step : Step α} {next : α → Step β} (first : Step.Silent settings step)
    (later : ∀ result, Step.Speaks settings new (next result)) :
    Step.Speaks settings new (step >>= next) := by
  apply speaks_mono (speaks_bind first later fun _ none => absurd none id)
  rintro call (none | isNew)
  · exact absurd none id
  · exact isNew

/-- After the calls of a step none need be made. -/
theorem speaks_bind_last {step : Step α} {next : α → Step β} (first : Step.Speaks settings new step)
    (later : ∀ result, Step.Silent settings (next result)) :
    Step.Speaks settings new (step >>= next) := by
  apply speaks_mono (speaks_bind first later fun _ _ => id)
  rintro call (isNew | none)
  · exact isNew
  · exact absurd none id

theorem speaks_table : Step.Speaks settings new Step.table :=
  speaks_of_quiet fun _ => ⟨rfl, rfl, trivial⟩

theorem speaks_change (update : Table → Table) : Step.Speaks settings new (Step.change update) :=
  speaks_of_quiet fun _ => ⟨rfl, rfl, trivial⟩

theorem speaks_changeWith (update : Table → Option (Table × α)) :
    Step.Speaks settings new (Step.changeWith update) := by
  apply speaks_of_quiet
  intro session
  rcases changed : update session.table with _ | ⟨table, result⟩
  · simp [changed, Procedure.Quiet, Procedure.bind]
  · simp [changed, Procedure.Quiet, Procedure.bind]

theorem speaks_ask {request : Request} (plain : request.isPlain) :
    Step.Speaks settings new (Step.ask request) :=
  speaks_of_quiet ⟨plain, fun _ => trivial⟩

theorem speaks_require (answer : Except ε α) (fault : ε → ActionFault) :
    Step.Speaks settings new (Step.require answer fault) := by
  cases answer with
  | ok result => exact speaks_pure result
  | error reason => exact speaks_throw (fault reason)

theorem speaks_attempt {step : Step α} (speaks : Step.Speaks settings new step) :
    Step.Speaks settings new (Step.attempt step) := by
  intro calls fresh
  apply Procedure.follows_bind (speaks calls fresh)
  rintro result progress ends
  exact ends

end Step

namespace LedgerAccess

theorem quiet_confirm (access : LedgerAccess) (hash : String) (left : Nat) :
    Procedure.Quiet (access.confirm hash left) := by
  induction left with
  | zero => trivial
  | succ left hypothesis =>
    refine ⟨rfl, ?_⟩
    intro answer
    have again : Procedure.Quiet (if left = 0 then
        .finish (.error (.timeout hash access.watch.attempts))
        else .ask (.wait access.watch.delay) fun _ => access.confirm hash left) := by
      split
      · trivial
      · exact ⟨rfl, fun _ => hypothesis⟩
    rcases answer with fault | (_ | _ | reason)
    · exact again
    · exact again
    · trivial
    · trivial

theorem quiet_submit (access : LedgerAccess) (source : Address) (invocation : Invocation) :
    Procedure.Quiet (access.submit source invocation) := by
  refine ⟨rfl, ?_⟩
  rintro (fault | envelope)
  · trivial
  refine ⟨rfl, ?_⟩
  rintro (fault | signed)
  · trivial
  refine ⟨rfl, ?_⟩
  rintro (fault | hash)
  · trivial
  exact quiet_confirm access hash access.watch.attempts

end LedgerAccess

namespace Settings

variable {settings : Settings} {new : CoordinatorCall → Prop}

/-! ## Calls -/

/-- From the moment when a signature is due a call is signed and sent, unless the wallet refuses. -/
theorem follows_sendSigned {call : CoordinatorCall} {purpose : Purpose}
    {calls : List CoordinatorCall} {progress : Progress} (named : settings.hero ≠ "")
    (dates : ∀ now, progress.Reads settings ⟨.clock, now⟩
      ⟨calls, .signing call purpose.label (.dated now)⟩) :
    Procedure.Follows settings (settings.sendSigned call purpose).run progress
      fun _ after => after = ⟨call :: calls, .idle⟩ := by
  simp only [sendSigned, credentials]
  simp only [named, ↓reduceIte]
  intro now
  refine ⟨_, dates now, ?_⟩
  intro session
  refine ⟨rfl, _, .draw session.nonces, ?_⟩
  intro answer
  rcases answer with fault | signature
  · exact ⟨_, .deny fault, rfl⟩
  refine ⟨_, .grant signature, ?_⟩
  intro answer
  refine ⟨_, .send answer, ?_⟩
  cases answer <;> rfl

/-- Without a name nothing is signed. -/
theorem run_sendSigned_of_nameless {call : CoordinatorCall} {purpose : Purpose}
    (nameless : settings.hero = "") :
    (settings.sendSigned call purpose).run = .finish (.error (.signing .missingAddress)) := by
  simp only [sendSigned, credentials]
  simp only [nameless, ↓reduceIte]
  rfl

theorem run_call_of_signed {call : CoordinatorCall} {purpose : Purpose}
    (purposed : call.purpose? = some purpose) (signs : settings.unsignedFirst = false) :
    (settings.call call).run = (settings.sendSigned call purpose).run := by
  simp only [Settings.call, purposed, signs, Bool.false_eq_true, ↓reduceIte]

/-- Where the name is sent first, a call is signed only when that is refused. -/
theorem run_call_of_unsigned {call : CoordinatorCall} {purpose : Purpose}
    (purposed : call.purpose? = some purpose) (names : settings.unsignedFirst = true) :
    (settings.call call).run =
      .ask (.coordinator (some (.identity settings.hero)) call) fun
        | .ok reply => .finish (.ok reply)
        | .error fault =>
          if fault.isUnauthorized then (settings.sendSigned call purpose).run
          else .finish (.error (.coordinator fault)) := by
  simp only [Settings.call, purposed, names, ↓reduceIte]
  apply congrArg (Procedure.ask _)
  funext answer
  cases answer with
  | ok reply => rfl
  | error fault => exact apply_ite ExceptT.run _ _ _

/-- A labelled call is attempted once. -/
theorem speaks_call (settings : Settings) {call : CoordinatorCall} {purpose : Purpose}
    (purposed : call.purpose? = some purpose) :
    Step.Speaks settings (· = call) (settings.call call) := by
  have labelled : call.label? = some purpose.label := by
    rw [call.label?_eq, purposed]
    rfl
  intro calls fresh
  have unattempted := fresh call rfl
  have attempted : ∀ result : Except ActionFault call.Reply, ∀ progress : Progress,
      progress = ⟨call :: calls, .idle⟩ → progress.stage = .idle ∧
        ∀ other ∈ progress.attempted, other ∈ calls ∨ other = call := by
    rintro _ progress rfl
    exact ⟨rfl, fun other member => (List.mem_cons.mp member).symm⟩
  cases names : settings.unsignedFirst with
  | false =>
    rw [run_call_of_signed purposed names]
    by_cases nameless : settings.hero = ""
    · rw [run_sendSigned_of_nameless nameless]
      exact ⟨rfl, fun other member => Or.inl member⟩
    · apply Procedure.follows_mono (follows_sendSigned nameless fun now =>
        .start labelled unattempted names nameless now)
      exact attempted
  | true =>
    rw [run_call_of_unsigned purposed names]
    intro answer
    rcases answer with fault | reply
    · by_cases unauthorized : fault.isUnauthorized
      · simp only [unauthorized, ↓reduceIte]
        by_cases nameless : settings.hero = ""
        · rw [run_sendSigned_of_nameless nameless]
          exact ⟨_, .nameless labelled unattempted names fault unauthorized nameless,
            attempted (.error (.coordinator fault)) _ rfl⟩
        · refine ⟨_, .refused labelled unattempted names fault unauthorized nameless, ?_⟩
          exact Procedure.follows_mono (follows_sendSigned nameless fun now => .date now) attempted
      · simp only [unauthorized, Bool.false_eq_true, ↓reduceIte]
        refine ⟨_, .final labelled unattempted names (.error fault) ?_,
          attempted (.error (.coordinator fault)) _ rfl⟩
        rintro other eq
        cases eq
        exact unauthorized
    · refine ⟨_, .final labelled unattempted names (.ok reply) ?_, attempted (.ok reply) _ rfl⟩
      rintro other eq
      cases eq

theorem speaks_call_plain (settings : Settings) {call : CoordinatorCall}
    (plain : call.purpose? = none) : Step.Silent settings (settings.call call) := by
  have unlabelled : call.label? = none := by
    rw [call.label?_eq, plain]
    rfl
  simp only [Settings.call]
  split
  · apply Step.speaks_bind_silent (Step.speaks_ask ?_)
    · intro answer
      exact Step.speaks_require _ _
    · simp [Request.isPlain, unlabelled]
  · rename_i purpose purposed
    rw [plain] at purposed
    exact absurd purposed (by simp)

theorem speaks_submit (settings : Settings) (access : LedgerAccess) (invocation : Invocation) :
    Step.Silent settings (settings.submit access invocation) := by
  apply Step.speaks_bind_silent (Step.speaks_of_quiet _) fun answer => Step.speaks_require _ _
  exact Procedure.Quiet.bind (access.quiet_submit settings.hero invocation) fun _ => trivial

/-! ## Intents -/

theorem speaks_seats (settings : Settings) (tableId : UInt32) (opponents : List Address) :
    Step.Silent settings (settings.seats tableId opponents) := by
  simp only [seats]
  split
  · apply Step.speaks_bind_silent (settings.speaks_call_plain rfl)
    intro lobby
    apply Step.speaks_bind_silent (Step.speaks_require _ _)
    intro others
    apply Step.speaks_bind_silent (Step.speaks_require _ _)
    intro seats
    exact Step.speaks_pure _
  · apply Step.speaks_bind_silent (Step.speaks_require _ _)
    intro seats
    split
    · exact Step.speaks_pure _
    apply Step.speaks_bind_silent Step.speaks_table
    intro table
    split
    · exact Step.speaks_pure _
    apply Step.speaks_bind_silent (settings.speaks_call_plain rfl)
    intro lobby
    split
    · exact Step.speaks_pure _
    · exact Step.speaks_throw _

theorem speaks_fetchHole (settings : Settings) (tableId : UInt32) :
    Step.Speaks settings (· = .cards tableId settings.hero) (settings.fetchHole tableId) := by
  apply Step.speaks_bind_last (Step.speaks_attempt (settings.speaks_call rfl))
  intro answer
  rcases answer with fault | reply
  · exact Step.speaks_pure _
  dsimp only
  split
  · apply Step.speaks_bind_silent (Step.speaks_change _)
    intro _
    exact Step.speaks_pure _
  · exact Step.speaks_pure _

/-- A hand is dealt by one call, after which the private cards are asked for. -/
theorem speaks_start (settings : Settings) (tableId : UInt32) (opponents : List Address) :
    Step.Speaks settings (fun _ => True) (settings.start tableId opponents) := by
  apply Step.speaks_bind_silent (settings.speaks_seats tableId opponents)
  rintro ⟨seats, named⟩
  apply Step.speaks_bind_silent (Step.speaks_changeWith _)
  intro handNumber
  apply Step.speaks_mono _ fun _ _ => trivial
  · exact fun call => call = .deal tableId { players := named } ∨
      call = .cards tableId settings.hero
  refine Step.speaks_bind (settings.speaks_call rfl) ?_ ?_
  · intro reply
    apply Step.speaks_bind_silent (Step.speaks_change _)
    intro _
    apply Step.speaks_bind_last (settings.speaks_fetchHole tableId)
    intro hole
    exact Step.speaks_pure _
  · rintro call rfl
    simp

theorem speaks_join (settings : Settings) (tableId : UInt32) (buyIn : Option Chips) :
    Step.Speaks settings (· = .join tableId) (settings.join tableId buyIn) := by
  have lobby : Step.Speaks settings (· = .join tableId) do
      let reply ← settings.call (.join tableId)
      Step.change fun table =>
        table.takeSeat settings.hero reply.seat.toNat (buyIn.getD settings.buyIn)
      return Outcome.joined reply.seat.toNat reply.joinedWallets.toNat reply.maxPlayers.toNat := by
    apply Step.speaks_bind_last (settings.speaks_call rfl)
    intro reply
    apply Step.speaks_bind_silent (Step.speaks_change _)
    intro _
    exact Step.speaks_pure _
  unfold Settings.join
  dsimp only
  split
  · apply Step.speaks_bind_silent (settings.speaks_submit _ _)
    intro hash
    apply Step.speaks_bind_silent (Step.speaks_change _)
    intro _
    exact lobby
  · exact lobby

theorem speaks_reveal (settings : Settings) (tableId : UInt32) (street : Street) :
    Step.Speaks settings (· = .reveal tableId street) (settings.reveal tableId street) := by
  apply Step.speaks_bind_last (settings.speaks_call rfl)
  intro reply
  apply Step.speaks_bind_silent (Step.speaks_change _)
  intro _
  exact Step.speaks_pure _

theorem speaks_lobbyFor (settings : Settings) (tableId : UInt32) (winner : Address) :
    Step.Silent settings (settings.lobbyFor tableId winner) := by
  apply Step.speaks_bind_silent Step.speaks_table
  intro table
  split
  · exact Step.speaks_pure _
  apply Step.speaks_bind_silent (Step.speaks_attempt (settings.speaks_call_plain rfl))
  intro answer
  rcases answer with fault | lobby
  · exact Step.speaks_pure _
  · exact Step.speaks_pure _

theorem speaks_showdown (settings : Settings) (tableId : UInt32) :
    Step.Speaks settings (· = .showdown tableId) (settings.showdown tableId) := by
  apply Step.speaks_bind_last (settings.speaks_call rfl)
  intro reply
  apply Step.speaks_bind_silent (settings.speaks_lobbyFor tableId _)
  intro lobby
  apply Step.speaks_bind_silent (Step.speaks_changeWith _)
  intro winner
  exact Step.speaks_pure _

/-- A bet is submitted by one call, or past the coordinator. -/
theorem speaks_betOnChain (settings : Settings) (tableId : UInt32) (action : Action) :
    Step.Speaks settings (· = .act tableId action) (settings.betOnChain tableId action) := by
  have applied : ∀ transaction, Step.Silent settings do
      Step.changeWith fun table =>
        (table.applyAccepted? settings.arithmetic settings.hero action transaction).map
          fun table => (table, ())
      return Outcome.acted action transaction := by
    intro transaction
    apply Step.speaks_bind_silent (Step.speaks_changeWith _)
    intro _
    exact Step.speaks_pure _
  unfold Settings.betOnChain
  dsimp only
  split
  · refine Step.speaks_bind_last ?_ applied
    apply Step.speaks_mono (Step.speaks_bind_silent (settings.speaks_submit _ _) _)
      fun _ none => absurd none id
    intro hash
    exact Step.speaks_pure _
  · apply Step.speaks_bind_last (settings.speaks_call rfl)
    intro reply
    exact applied reply.transaction

/-- A solo bet makes no call, unless it closes the round: then it makes the one that follows. -/
theorem speaks_betSolo (settings : Settings) (tableId : UInt32) (action : Action) :
    Step.Speaks settings (fun call => ¬call.isDeal) (settings.betSolo tableId action) := by
  apply Step.speaks_bind_silent (Step.speaks_changeWith _)
  intro stand
  rcases stand with winner | ⟨opponent, table⟩
  · exact Step.speaks_pure _
  apply Step.speaks_bind_silent (Step.speaks_ask rfl)
  intro reply
  apply Step.speaks_bind_silent (Step.speaks_changeWith _)
  intro stand
  rcases stand with _ | _ | street
  · exact Step.speaks_pure _
  · exact Step.speaks_pure _
  rcases street with _ | street
  · apply Step.speaks_mono (Step.speaks_bind_last (settings.speaks_showdown tableId) _)
    · rintro _ rfl
      exact Bool.false_ne_true
    · intro next
      exact Step.speaks_pure _
  · apply Step.speaks_mono (Step.speaks_bind_last (settings.speaks_reveal tableId street) _)
    · rintro _ rfl
      exact Bool.false_ne_true
    · intro next
      exact Step.speaks_pure _

/-- An intent makes each of its calls once, and only a start deals. -/
theorem speaks_perform (settings : Settings) (intent : Intent) :
    Step.Speaks settings (fun call => call.isDeal → (Job.user (.dispatch intent)).deals)
      (settings.perform intent) := by
  apply Step.speaks_bind_silent Step.speaks_table
  intro table
  apply Step.speaks_bind_silent (Step.speaks_require _ _)
  intro _
  cases intent with
  | start opponents => exact Step.speaks_mono (settings.speaks_start _ opponents) fun _ _ _ => rfl
  | join buyIn =>
    apply Step.speaks_mono (settings.speaks_join _ buyIn)
    rintro _ rfl ⟨⟩
  | bet action =>
    simp only [Settings.carryOut]
    split
    · exact Step.speaks_mono (settings.speaks_betSolo _ action) fun _ other deals =>
        absurd deals other
    · apply Step.speaks_mono (settings.speaks_betOnChain _ action)
      rintro _ rfl ⟨⟩
  | reveal street =>
    apply Step.speaks_mono (settings.speaks_reveal _ street)
    rintro _ rfl ⟨⟩
  | showdown =>
    apply Step.speaks_mono (settings.speaks_showdown _)
    rintro _ rfl ⟨⟩

theorem speaks_openTable (settings : Settings) (body : CreateRequest) :
    Step.Speaks settings (· = .create body) (settings.openTable body) := by
  apply Step.speaks_bind_last (settings.speaks_call rfl)
  intro reply
  apply Step.speaks_bind_silent (Step.speaks_change _)
  intro _
  exact Step.speaks_pure _

/-! ## Jobs -/

/-- An action makes each of its calls once, and only a start deals. -/
theorem speaks_body (settings : Settings) (action : UserAction) :
    Step.Speaks settings (fun call => call.isDeal → (Job.user action).deals)
      (settings.body action) := by
  cases action with
  | dispatch intent => exact settings.speaks_perform intent
  | create body =>
    apply Step.speaks_mono (settings.speaks_openTable body)
    rintro _ rfl ⟨⟩
  | select tableId => exact Step.speaks_change _

/-- What an action does while it has the token is a whole conversation. -/
theorem follows_body (settings : Settings) (action : UserAction) :
    Procedure.Follows settings (settings.body action).run ⟨[], .idle⟩
      fun _ progress => progress.stage = .idle := by
  apply Procedure.follows_mono (settings.speaks_body action [] fun _ _ => List.not_mem_nil)
  intro result progress ends
  exact ends.1

theorem quiet_poll (settings : Settings) : Procedure.Quiet settings.poll := by
  intro session
  refine ⟨rfl, rfl, rfl, ?_⟩
  intro answer
  rcases answer with fault | reply
  · trivial
  cases parsed : Poll.ofText? reply.state with
  | none => simp [parsed, Procedure.Quiet]
  | some poll =>
    simp only [parsed]
    intro later
    dsimp only
    split
    · exact ⟨rfl, rfl, trivial⟩
    · exact ⟨rfl, rfl, trivial⟩

end Settings

end Holdem
