import Holdem.Proofs.Session.Course
import Holdem.Proofs.Session.Turns

/-!
# Actions that fail

An action can fail at many points: it is turned away or refused, the wallet does not sign, a call or
a submission does not get through. There is no rollback. What keeps a failed action from leaving a
trace is the order of its changes: once it has changed the snapshot, no failure of that kind can
come any more.

That order is a property of the procedure and holds whatever is answered, so it carries over to a
session in which polls are merged at any moment. Deals, joins and solo bets change the snapshot
before their last question; of their failures only those on the spot are without a trace.
-/

namespace Holdem

namespace Procedure

variable {α β : Type} {unwanted : α → Prop}

/-! ## Polls at any moment -/

/-- A procedure takes turns, and polls are merged before, between and after them. -/
inductive Passage (mode : PlayMode) (first : Procedure Session α) (start : Session) :
    List Poll → Procedure Session α → Session → Prop
  | refl : Passage mode first start [] first start
  | turn {polls : List Poll} {before after : Procedure Session α} {session next : Session}
      {exchange : Option Exchange} (passage : Passage mode first start polls before session)
      (turn : before.Turn session exchange after next) : Passage mode first start polls after next
  | poll {polls : List Poll} {rest : Procedure Session α} {session : Session}
      (passage : Passage mode first start polls rest session) (poll : Poll) :
      Passage mode first start (polls ++ [poll]) rest
        (session.onTable fun table => (table.merge mode poll).1)

theorem Passage.turns {mode : PlayMode} {first before after : Procedure Session α}
    {start session next : Session} {polls : List Poll} {exchanges : List (Option Exchange)}
    (passage : Passage mode first start polls before session)
    (turns : before.Turns session exchanges after next) :
    Passage mode first start polls after next := by
  induction turns with
  | refl => exact passage
  | cons turn _ hypothesis => exact hypothesis (passage.turn turn)

/-! ## Changes and results -/

/-- A procedure that has changed the snapshot cannot come to an unwanted result any more. -/
def Spotless (unwanted : α → Prop) : Procedure Session α → Prop
  | .finish _ | .stuck => True
  | .update change resume => ∀ session,
    ((change session).table = session.table ∧ (resume session).Spotless unwanted) ∨
      (resume session).Gives (fun _ _ => True) fun result => ¬unwanted result
  | .ask _ resume => ∀ answer, (resume answer).Spotless unwanted

theorem spotless_of_gives {procedure : Procedure Session α}
    (gives : procedure.Gives (fun _ _ => True) fun result => ¬unwanted result) :
    procedure.Spotless unwanted := by
  induction procedure with
  | finish | stuck => trivial
  | update change resume => exact fun session => .inr (gives session)
  | ask request resume hypothesis => exact fun answer => hypothesis answer (gives answer trivial)

theorem spotless_of_untouched {procedure : Procedure Session α}
    (kept : procedure.Keeps Course.untouched.onTable) : procedure.Spotless unwanted := by
  induction procedure with
  | finish | stuck => trivial
  | update change resume hypothesis =>
    intro session
    rcases kept session trivial with ⟨⟨_, same⟩, keptRest⟩
    exact .inl ⟨same, hypothesis session keptRest⟩
  | ask request resume hypothesis => exact fun answer => hypothesis answer (kept answer trivial)

/-- A sequence is spotless when both parts are, and when the first has changed nothing before a
result from which the second can come to an unwanted one. -/
theorem spotless_bind {procedure : Procedure Session α} {next : α → Procedure Session β}
    {unwantedLater : β → Prop} (first : procedure.Spotless unwanted)
    (later : ∀ result, (next result).Spotless unwantedLater)
    (safe : ∀ result, ¬unwanted result →
      (next result).Gives (fun _ _ => True) fun last => ¬unwantedLater last) :
    (procedure.bind next).Spotless unwantedLater := by
  induction procedure with
  | finish result => exact later result
  | stuck => trivial
  | update change resume hypothesis =>
    intro session
    rcases first session with ⟨same, rest⟩ | gives
    · exact .inl ⟨same, hypothesis session rest⟩
    · exact .inr (gives_bind gives safe)
  | ask request resume hypothesis => exact fun answer => hypothesis answer (first answer)

theorem Gives.turn {property : α → Prop} {procedure rest : Procedure Session α}
    {session after : Session} {exchange : Option Exchange}
    (gives : procedure.Gives (fun _ _ => True) property)
    (turn : procedure.Turn session exchange rest after) :
    rest.Gives (fun _ _ => True) property := by
  cases turn with
  | update => exact gives session
  | ask request resume answer => exact gives answer trivial

theorem Spotless.turn {procedure rest : Procedure Session α} {session after : Session}
    {exchange : Option Exchange} (spotless : procedure.Spotless unwanted)
    (turn : procedure.Turn session exchange rest after) :
    (after.table = session.table ∧ rest.Spotless unwanted) ∨
      rest.Gives (fun _ _ => True) fun result => ¬unwanted result := by
  cases turn with
  | update => exact spotless session
  | ask request resume answer => exact .inl ⟨rfl, spotless answer⟩

/-- At any point of its passage a spotless procedure has left everything to the polls, or its result
will not be an unwanted one. -/
theorem Passage.table_of_spotless {mode : PlayMode} {first rest : Procedure Session α}
    {start session : Session} {polls : List Poll}
    (passage : Passage mode first start polls rest session) (spotless : first.Spotless unwanted) :
    (session.table = start.table.mergeAll mode polls ∧ rest.Spotless unwanted) ∨
      rest.Gives (fun _ _ => True) fun result => ¬unwanted result := by
  induction passage with
  | refl => exact .inl ⟨rfl, spotless⟩
  | turn _ turn hypothesis =>
    rcases hypothesis with ⟨same, spotlessRest⟩ | gives
    · rcases spotlessRest.turn turn with ⟨unchanged, spotlessAfter⟩ | gives
      · exact .inl ⟨unchanged.trans same, spotlessAfter⟩
      · exact .inr gives
    · exact .inr (gives.turn turn)
  | poll _ poll hypothesis =>
    rcases hypothesis with ⟨same, spotlessRest⟩ | gives
    · refine .inl ⟨?_, spotlessRest⟩
      rw [Table.mergeAll_append, ← same]
      rfl
    · exact .inr gives

end Procedure

/-! ## Failures of steps -/

namespace Step

variable {α β : Type} {allowed unwanted : ActionFault → Prop}

/-- The faults with which a step can fail. -/
def Faults (allowed : ActionFault → Prop) (step : Step α) : Prop :=
  Procedure.Gives (fun _ _ => True) (fun result => ∀ fault, result = .error fault → allowed fault)
    step.run

/-- A step that has changed the snapshot cannot fail in an unwanted way any more. -/
def Spotless (unwanted : ActionFault → Prop) (step : Step α) : Prop :=
  Procedure.Spotless (fun result => ∃ fault, result = .error fault ∧ unwanted fault) step.run

theorem faults_pure (result : α) : Step.Faults allowed (pure result) := by
  rintro _ ⟨⟩

theorem faults_throw {fault : ActionFault} (holds : allowed fault) :
    Step.Faults allowed (throw fault : Step α) := by
  rintro _ ⟨⟩
  exact holds

theorem faults_bind {step : Step α} {next : α → Step β} (first : Step.Faults allowed step)
    (later : ∀ result, Step.Faults allowed (next result)) :
    Step.Faults allowed (step >>= next) := by
  apply Procedure.gives_bind first
  intro result given
  cases result with
  | ok value => exact later value
  | error fault => exact faults_throw (given fault rfl)

theorem faults_bind_pure {step : Step α} (faults : Step.Faults allowed step) (result : α → β) :
    Step.Faults allowed (step >>= fun value => pure (result value)) := by
  apply faults_bind faults
  intro value
  exact faults_pure (result value)

theorem faults_mono {step : Step α} {wider : ActionFault → Prop}
    (faults : Step.Faults allowed step) (weaker : ∀ fault, allowed fault → wider fault) :
    Step.Faults wider step := by
  apply Procedure.gives_mono faults
  intro result given fault failed
  exact weaker fault (given fault failed)

theorem faults_table : Step.Faults allowed Step.table := by
  rintro _ _ ⟨⟩

theorem faults_ask (request : Request) : Step.Faults allowed (Step.ask request) := by
  rintro _ _ _ ⟨⟩

theorem faults_change (update : Table → Table) : Step.Faults allowed (Step.change update) := by
  rintro _ _ ⟨⟩

theorem faults_changeWith (update : Table → Option (Table × α)) :
    Step.Faults allowed (Step.changeWith update) := by
  intro session
  rcases changed : update session.table with _ | ⟨table, result⟩
  · simp only [changed, Option.map_none]
    trivial
  · simp only [changed, Option.map_some]
    rintro _ ⟨⟩

theorem faults_require {ε : Type} {answer : Except ε α} {fault : ε → ActionFault}
    (holds : ∀ reason, answer = .error reason → allowed (fault reason)) :
    Step.Faults allowed (Step.require answer fault) := by
  cases answer with
  | ok result => exact faults_pure result
  | error reason => exact faults_throw (holds reason rfl)

theorem faults_attempt (step : Step α) : Step.Faults allowed (Step.attempt step) := by
  apply Procedure.gives_bind (Procedure.gives_true step.run)
  rintro result _ _ ⟨⟩

theorem spotless_of_faults {step : Step α}
    (faults : Step.Faults (fun fault => ¬unwanted fault) step) : Step.Spotless unwanted step := by
  apply Procedure.spotless_of_gives
  apply Procedure.gives_mono faults
  rintro result given ⟨fault, failed, bad⟩
  exact given fault failed bad

/-- What follows a step that leaves the snapshot alone has to be spotless by itself. -/
theorem spotless_bind {step : Step α} {next : α → Step β}
    (untouched : Step.Keeps Procedure.Course.untouched step)
    (later : ∀ result, Step.Spotless unwanted (next result)) :
    Step.Spotless unwanted (step >>= next) := by
  have first : step.run.Spotless fun _ => True := Procedure.spotless_of_untouched untouched
  apply Procedure.spotless_bind first
  · intro result
    cases result with
    | ok value => exact later value
    | error fault => trivial
  · exact fun _ possible => absurd trivial possible

/-- Taking the token and giving it back does not count as a change of the snapshot. -/
theorem spotless_exclusively {step : Step α} (spotless : Step.Spotless unwanted step) :
    Step.Spotless unwanted (Step.exclusively step) := by
  intro session
  refine .inl ⟨rfl, ?_⟩
  by_cases free : session.take.2
  · simp only [free, ↓reduceIte]
    apply Procedure.spotless_bind spotless
    · exact fun result _ => .inl ⟨rfl, trivial⟩
    · exact fun result wanted _ => wanted
  · simp only [free, Bool.false_eq_true, ↓reduceIte]
    trivial

end Step

/-! ## Failures of actions -/

namespace Settings

variable {allowed unwanted : ActionFault → Prop}

/-- A call fails with what the wallet or the coordinator answers, never on the spot. -/
theorem faults_call (settings : Settings) (call : CoordinatorCall) :
    Step.Faults (fun fault => ¬fault.isPrecondition) (settings.call call) := by
  have sent : ∀ credentials, Step.Faults (fun fault => ¬fault.isPrecondition)
      (Settings.send credentials call) := by
    intro credentials
    apply Step.faults_bind (Step.faults_ask _)
    intro answer
    exact Step.faults_require fun _ _ => by simp [ActionFault.isPrecondition]
  have signed : ∀ purpose, Step.Faults (fun fault => ¬fault.isPrecondition)
      (settings.sendSigned call purpose) := by
    intro purpose
    refine Step.faults_bind ?_ fun credentials => sent (some credentials)
    simp only [Settings.credentials]
    by_cases nameless : settings.hero = ""
    · simp only [nameless, ↓reduceIte]
      exact Step.faults_throw (by simp [ActionFault.isPrecondition])
    simp only [nameless, ↓reduceIte]
    apply Step.faults_bind (Step.faults_ask _)
    intro now
    refine Step.faults_bind ?_ ?_
    · rintro _ _ ⟨⟩
    intro before
    apply Step.faults_bind (Step.faults_ask _)
    intro answer
    refine Step.faults_bind_pure (Step.faults_require ?_) _
    exact fun _ _ => by simp [ActionFault.isPrecondition]
  simp only [Settings.call]
  split
  · exact sent none
  · rename_i purpose _
    split
    · apply Step.faults_bind (Step.faults_ask _)
      intro answer
      rcases answer with fault | reply
      · dsimp only
        split
        · exact signed purpose
        · exact Step.faults_throw (by simp [ActionFault.isPrecondition])
      · exact Step.faults_pure reply
    · exact signed purpose

theorem faults_submit (settings : Settings) (access : LedgerAccess) (invocation : Invocation) :
    Step.Faults (fun fault => ¬fault.isPrecondition) (settings.submit access invocation) := by
  refine Step.faults_bind ?_ ?_
  · apply Procedure.gives_bind (Procedure.gives_true _)
    rintro result _ _ ⟨⟩
  · intro result
    exact Step.faults_require fun _ _ => by simp [ActionFault.isPrecondition]

/-- Cards that cannot be had are done without. -/
theorem faults_fetchHole (settings : Settings) (tableId : UInt32) :
    Step.Faults allowed (settings.fetchHole tableId) := by
  apply Step.faults_bind (Step.faults_attempt _)
  intro answer
  rcases answer with fault | reply
  · exact Step.faults_pure _
  dsimp only
  split
  · exact Step.faults_bind_pure (Step.faults_change _) _
  · exact Step.faults_pure _

theorem faults_lobbyFor (settings : Settings) (tableId : UInt32) (winner : Address) :
    Step.Faults allowed (settings.lobbyFor tableId winner) := by
  apply Step.faults_bind Step.faults_table
  intro table
  split
  · exact Step.faults_pure _
  apply Step.faults_bind (Step.faults_attempt _)
  intro answer
  rcases answer with fault | lobby
  · exact Step.faults_pure _
  · exact Step.faults_pure _

/-! ## Streets, showdowns and submitted bets -/

theorem spotless_reveal (settings : Settings) (tableId : UInt32) (street : Street) :
    Step.Spotless unwanted (settings.reveal tableId street) := by
  apply Step.spotless_bind (settings.keeps_call _)
  intro reply
  apply Step.spotless_of_faults
  exact Step.faults_bind_pure (Step.faults_change _) _

theorem spotless_showdown (settings : Settings) (tableId : UInt32) :
    Step.Spotless unwanted (settings.showdown tableId) := by
  apply Step.spotless_bind (settings.keeps_call _)
  intro reply
  apply Step.spotless_bind (settings.keeps_lobbyFor tableId _)
  intro lobby
  apply Step.spotless_of_faults
  exact Step.faults_bind_pure (Step.faults_changeWith _) _

/-- A submitted bet is applied when nothing can fail any more. -/
theorem faults_accepted (settings : Settings) (action : Action) (transaction : Option String) :
    Step.Faults allowed do
      Step.changeWith fun table =>
        (table.applyAccepted? settings.arithmetic settings.hero action transaction).map
          fun table => (table, ())
      return Outcome.acted action transaction :=
  Step.faults_bind_pure (Step.faults_changeWith _) _

theorem spotless_betOnChain (settings : Settings) (tableId : UInt32) (action : Action) :
    Step.Spotless unwanted (settings.betOnChain tableId action) := by
  have applied : ∀ transaction, Step.Spotless unwanted do
      Step.changeWith fun table =>
        (table.applyAccepted? settings.arithmetic settings.hero action transaction).map
          fun table => (table, ())
      return Outcome.acted action transaction :=
    fun transaction => Step.spotless_of_faults (settings.faults_accepted action transaction)
  unfold Settings.betOnChain
  dsimp only
  split
  · refine Step.spotless_bind ?_ applied
    apply Step.keeps_bind (settings.keeps_submit _ _)
    intro hash
    exact Step.keeps_pure _
  · apply Step.spotless_bind (settings.keeps_call _)
    intro reply
    exact applied reply.transaction

theorem faults_betOnChain (settings : Settings) (tableId : UInt32) (action : Action) :
    Step.Faults (fun fault => ¬fault.isPrecondition) (settings.betOnChain tableId action) := by
  unfold Settings.betOnChain
  dsimp only
  split
  · apply Step.faults_bind (Step.faults_bind_pure (settings.faults_submit _ _) some)
    exact settings.faults_accepted action
  · apply Step.faults_bind (settings.faults_call _)
    intro reply
    exact settings.faults_accepted action reply.transaction

/-! ## Deals, joins and solo bets -/

/-- Once the seats are known nothing is refused any more. -/
theorem faults_deal (settings : Settings) (tableId : UInt32) (seats named : List Address) :
    Step.Faults (fun fault => ¬fault.isPrecondition) do
      let handNumber ← Step.changeWith fun table =>
        let begun :=
          table.beginHand settings.mode settings.hero seats settings.buyIn settings.soloStack
        some (begun, begun.handNumber)
      let reply ← settings.call (.deal tableId { players := named })
      Step.change fun table => table.noteProof reply.proofSize.toNat reply.transaction
      let hole ← settings.fetchHole tableId
      return Outcome.dealt handNumber reply.proofSize.toNat reply.transaction hole := by
  apply Step.faults_bind (Step.faults_changeWith _)
  intro handNumber
  apply Step.faults_bind (settings.faults_call _)
  intro reply
  apply Step.faults_bind (Step.faults_change _)
  intro _
  exact Step.faults_bind_pure (settings.faults_fetchHole tableId) _

/-- Whatever fails on the spot in a start fails before the hand is begun. -/
theorem spotless_start (settings : Settings) (tableId : UInt32) (opponents : List Address) :
    Step.Spotless (fun fault => fault.isPrecondition) (settings.start tableId opponents) := by
  apply Step.spotless_bind (settings.keeps_seats tableId opponents)
  rintro ⟨seats, named⟩
  exact Step.spotless_of_faults (settings.faults_deal tableId seats named)

theorem faults_join (settings : Settings) (tableId : UInt32) (buyIn : Option Chips) :
    Step.Faults (fun fault => ¬fault.isPrecondition) (settings.join tableId buyIn) := by
  have lobby : Step.Faults (fun fault => ¬fault.isPrecondition) do
      let reply ← settings.call (.join tableId)
      Step.change fun table =>
        table.takeSeat settings.hero reply.seat.toNat (buyIn.getD settings.buyIn)
      return Outcome.joined reply.seat.toNat reply.joinedWallets.toNat reply.maxPlayers.toNat := by
    apply Step.faults_bind (settings.faults_call _)
    intro reply
    exact Step.faults_bind_pure (Step.faults_change _) _
  unfold Settings.join
  dsimp only
  split
  · apply Step.faults_bind (settings.faults_submit _ _)
    intro hash
    apply Step.faults_bind (Step.faults_change _)
    intro _
    exact lobby
  · exact lobby

theorem faults_reveal (settings : Settings) (tableId : UInt32) (street : Street) :
    Step.Faults (fun fault => ¬fault.isPrecondition) (settings.reveal tableId street) := by
  apply Step.faults_bind (settings.faults_call _)
  intro reply
  exact Step.faults_bind_pure (Step.faults_change _) _

theorem faults_showdown (settings : Settings) (tableId : UInt32) :
    Step.Faults (fun fault => ¬fault.isPrecondition) (settings.showdown tableId) := by
  apply Step.faults_bind (settings.faults_call _)
  intro reply
  apply Step.faults_bind (settings.faults_lobbyFor tableId _)
  intro lobby
  exact Step.faults_bind_pure (Step.faults_changeWith _) _

theorem faults_betSolo (settings : Settings) (tableId : UInt32) (action : Action) :
    Step.Faults (fun fault => ¬fault.isPrecondition) (settings.betSolo tableId action) := by
  apply Step.faults_bind (Step.faults_changeWith _)
  intro stand
  rcases stand with winner | ⟨opponent, table⟩
  · exact Step.faults_pure _
  apply Step.faults_bind (Step.faults_ask _)
  intro reply
  apply Step.faults_bind (Step.faults_changeWith _)
  intro stand
  rcases stand with _ | _ | street
  · exact Step.faults_pure _
  · exact Step.faults_pure _
  rcases street with _ | street
  · exact Step.faults_bind_pure (settings.faults_showdown tableId) _
  · exact Step.faults_bind_pure (settings.faults_reveal tableId street) _

end Settings

/-! ## Failed actions -/

/-- The faults that leave no trace of an intent: any at all for what is entered only once it is
accepted, and otherwise those on the spot. -/
def Intent.FailsCleanly (intent : Intent) (mode : PlayMode) (fault : ActionFault) : Prop :=
  match intent with
  | .reveal _ | .showdown => True
  | .bet _ => mode.isSolo = false ∨ fault.isPrecondition
  | .start _ | .join _ => fault.isPrecondition

theorem Settings.spotless_dispatch (settings : Settings) (intent : Intent) :
    Step.Spotless (intent.FailsCleanly settings.mode) (settings.dispatch intent) := by
  apply Step.spotless_exclusively
  apply Step.spotless_bind Step.keeps_table
  intro table
  apply Step.spotless_bind (Step.keeps_require _ _)
  intro _
  cases intent with
  | start opponents => exact settings.spotless_start _ opponents
  | join buyIn => exact Step.spotless_of_faults (settings.faults_join _ buyIn)
  | bet action =>
    simp only [Settings.carryOut]
    split
    · rename_i solo
      apply Step.spotless_of_faults
      apply Step.faults_mono (settings.faults_betSolo _ action)
      intro fault late
      simp [Intent.FailsCleanly, solo, late]
    · exact settings.spotless_betOnChain _ action
  | reveal street => exact settings.spotless_reveal _ street
  | showdown => exact settings.spotless_showdown _

/-- A reveal, a showdown or a submitted bet that fails leaves no trace in the snapshot, however it
fails; and a start, a join or a solo bet leaves none when it is turned away or refused on the spot.
What is left is the snapshot that the polls alone would have made, at whatever moments they were
merged. -/
theorem failed_dispatch_leaves_polls {settings : Settings} {session last : Session}
    {intent : Intent} {polls : List Poll} {fault : ActionFault}
    (passage : Procedure.Passage settings.mode (settings.dispatch intent).run session polls
      (.finish (.error fault)) last)
    (clean : intent.FailsCleanly settings.mode fault) :
    last.table = session.table.mergeAll settings.mode polls := by
  rcases passage.table_of_spotless (settings.spotless_dispatch intent) with ⟨same, _⟩ | gives
  · exact same
  · exact absurd ⟨fault, rfl, clean⟩ gives

/-- A call that the ledger rejects, after a poll has told of the pot. -/
theorem failed_dispatch_leaves_polls_of_rejection :
    let settings : Settings :=
      { mode := .headsup
        hero := "hero"
        ledger := some { networkPassphrase := "test", watch := .ofAttempts 1 0 } }
    let table : Table :=
      { tableId := 7
        phase := .preflop
        players := [{ address := "hero", seat := 0, stack := 1000 }] }
    let poll : Poll := { pot := some 40 }
    ∃ last, Procedure.Passage .headsup (settings.dispatch (.bet .call)).run { table } [poll]
        (.finish (.error (.ledger (.rejected "hash" "late")))) last ∧
      (Intent.bet .call).FailsCleanly .headsup (.ledger (.rejected "hash" "late")) ∧
      last.table.pot = 40 ∧ last.table = table.mergeAll .headsup [poll] := by
  intro settings table poll
  have asked : (settings.dispatch (.bet .call)).run.Turns { table } _ _ _ :=
    .cons (.update _ _ _) <| .cons (.update _ _ _) <|
    .cons (.ask (.ledger (.build "hero" (.act 7 "hero" .call))) _ (.ok "built") _) <|
    .cons (.ask (.signTransaction "built" "test") _ (.ok "signed") _) <|
    .cons (.ask (.ledger (.submit "signed")) _ (.ok "hash") _) <| .refl _ _
  have polled : Procedure.Passage settings.mode (settings.dispatch (.bet .call)).run { table }
      [poll] _ _ := (Procedure.Passage.refl.turns asked).poll poll
  have rejected := polled.turns <|
    .cons (.ask (.ledger (.status "hash")) _ (.ok (.failed "late")) _) <|
    .cons (.update _ _ _) <| .refl _ _
  have clean : (Intent.bet .call).FailsCleanly .headsup (.ledger (.rejected "hash" "late")) :=
    .inl rfl
  exact ⟨_, rejected, clean, rfl, failed_dispatch_leaves_polls rejected clean⟩

end Holdem
