import Holdem.Proofs.Session.Discipline
import Holdem.Proofs.Session.Turns
import Holdem.Proofs.Table.Hand

/-!
# Local changes

An action marks the snapshot as unconfirmed with whatever it changes, and nothing but a poll takes
the mark back. So an action during which no poll is merged leaves the snapshot as it was, or
unconfirmed, also when it fails between two of its changes.

There is one exception. A join that goes to the ledger first notes the transaction without the mark,
which comes with the seat; when the lobby does not answer, the note stays and the mark never comes.
-/

namespace Holdem

namespace Procedure

variable {σ α β : Type} {required : α → σ → Prop} {state : σ}

/-- Left alone, whatever it is answered, a procedure finishes only with a result and a state that
are as required. -/
def Ensures (required : α → σ → Prop) : Procedure σ α → σ → Prop
  | .finish result, state => required result state
  | .stuck, _ => True
  | .update change resume, state => (resume state).Ensures required (change state)
  | .ask _ resume, state => ∀ answer, (resume answer).Ensures required state

theorem ensures_bind {procedure : Procedure σ α} {next : α → Procedure σ β}
    {last : β → σ → Prop} (first : procedure.Ensures required state)
    (later : ∀ result after, required result after → (next result).Ensures last after) :
    (procedure.bind next).Ensures last state := by
  induction procedure generalizing state with
  | finish result => exact later result state first
  | stuck => trivial
  | update change resume hypothesis => exact hypothesis state first
  | ask request resume hypothesis => exact fun answer => hypothesis answer (first answer)

theorem ensures_mono {procedure : Procedure σ α} {wider : α → σ → Prop}
    (ensures : procedure.Ensures required state)
    (weaker : ∀ result after, required result after → wider result after) :
    procedure.Ensures wider state := by
  rw [← bind_finish procedure]
  exact ensures_bind ensures weaker

/-- A procedure that keeps a discipline ensures its invariant. -/
theorem ensures_of_keeps {discipline : Discipline σ} {procedure : Procedure σ α}
    (any : ∀ request answer, discipline.expects request answer)
    (kept : procedure.Keeps discipline) (holds : discipline.invariant state) :
    procedure.Ensures (fun _ => discipline.invariant) state := by
  induction procedure generalizing state with
  | finish => exact holds
  | stuck => trivial
  | update change resume hypothesis =>
    rcases kept state holds with ⟨⟨after, _⟩, keptRest⟩
    exact hypothesis state keptRest after
  | ask request resume hypothesis =>
    exact fun answer => hypothesis answer (kept answer (any request answer)) holds

/-- What a procedure ensures holds once its turns have come to an end. -/
theorem Turns.ensured {procedure : Procedure σ α} {result : α} {last : σ}
    {exchanges : List (Option Exchange)}
    (turns : procedure.Turns state exchanges (.finish result) last)
    (ensures : procedure.Ensures required state) : required result last := by
  generalize finished : Procedure.finish result = rest at turns
  induction turns with
  | refl =>
    rw [← finished] at ensures
    exact ensures
  | cons turn _ hypothesis =>
    apply hypothesis _ finished
    cases turn with
    | update => exact ensures
    | ask _ _ answer => exact ensures answer

end Procedure

/-! ## Steps -/

/-- The snapshot is as it was before, or it is unconfirmed. -/
def Table.LeftOrFlagged (before after : Table) : Prop :=
  after = before ∨ after.confirmed = false

/-- The discipline of leaving the snapshot as it is. -/
def still (table : Table) : Discipline Table where
  invariant seen := seen = table
  permits _ _ := True
  permits_refl _ := trivial

/-- The discipline of leaving an unconfirmed snapshot unconfirmed. -/
def flagged : Discipline Table where
  invariant table := table.confirmed = false
  permits _ _ := True
  permits_refl _ := trivial
  mayBreak := True

namespace Step

variable {α β : Type} {session : Session} {required : Except ActionFault α → Table → Prop}
  {last : Except ActionFault β → Table → Prop}

/-- Left alone, a step ends only with a result and a snapshot that are as required. -/
def Ensures (required : Except ActionFault α → Table → Prop) (step : Step α) (session : Session) :
    Prop :=
  Procedure.Ensures (fun result last => required result last.table) step.run session

theorem ensures_pure {value : α} (holds : required (.ok value) session.table) :
    Step.Ensures required (pure value) session := holds

/-- After a step that leaves the snapshot as it is. -/
theorem ensures_bind {step : Step α} {next : α → Step β}
    (unchanged : ∀ table, Step.Keeps (still table) step)
    (fails : ∀ fault, last (.error fault) session.table)
    (later : ∀ value after, after.table = session.table → Step.Ensures last (next value) after) :
    Step.Ensures last (step >>= next) session := by
  apply Procedure.ensures_bind
    (Procedure.ensures_of_keeps (fun _ _ => trivial) (unchanged session.table) rfl)
  intro result after same
  have sameTable : after.table = session.table := same
  rcases result with fault | value
  · change last (.error fault) after.table
    rw [sameTable]
    exact fails fault
  · exact later value after sameTable

theorem ensures_change_bind {update : Table → Table} {next : Unit → Step β}
    (later : Step.Ensures last (next ()) { session with table := update session.table }) :
    Step.Ensures last (Step.change update >>= next) session := later

theorem ensures_changeWith_bind {update : Table → Option (Table × α)} {next : α → Step β}
    (later : ∀ table value, update session.table = some (table, value) →
      Step.Ensures last (next value) { session with table }) :
    Step.Ensures last (Step.changeWith update >>= next) session := by
  simp only [Step.Ensures, run_changeWith_bind, Procedure.Ensures]
  rcases changed : update session.table with _ | ⟨table, value⟩
  · trivial
  · exact later table value changed

/-- An unconfirmed snapshot stays so. -/
theorem ensures_of_flagged {before : Table} {step : Step α}
    (unconfirmed : session.table.confirmed = false) (kept : Step.Keeps flagged step) :
    Step.Ensures (fun _ => before.LeftOrFlagged) step session := by
  apply Procedure.ensures_mono
    (Procedure.ensures_of_keeps (fun _ _ => trivial) kept unconfirmed)
  exact fun _ _ stays => .inr stays

/-- Taking the token and giving it back leave the snapshot alone. -/
theorem ensures_exclusively {step : Step α}
    (ensures : ∀ free : Session, free.table = session.table → Step.Ensures required step free)
    (turnedAway : required (.error .busy) session.table) :
    Step.Ensures required (Step.exclusively step) session := by
  change Procedure.Ensures _ (if session.take.2 then step.run.bind release else _) session.take.1
  split
  · exact Procedure.ensures_bind (ensures session.take.1 rfl) fun result last holds => holds
  · exact turnedAway

end Step

/-! ## Intents -/

namespace Settings

variable {settings : Settings} {session : Session}

theorem openSoloBet_confirmed {action : Action} {table after : Table}
    {stand : Address ⊕ (Address × Table)}
    (opened : settings.openSoloBet action table = some (after, stand)) :
    after.confirmed = false := by
  rcases openSoloBet_cases opened with ⟨acted, moved, acts, rfl | ⟨winner, rfl⟩⟩
  · rfl
  · exact acted.markUnconfirmed.settle_confirmed winner

theorem closeSoloBet_confirmed {opponent : Address} {reply : Action} {table after : Table}
    {stand : SoloStand}
    (closed : settings.closeSoloBet opponent reply table = some (after, stand)) :
    after.confirmed = table.confirmed := by
  rcases closeSoloBet_cases closed with ⟨acted, moved, acts, rfl | ⟨winner, rfl⟩⟩
  · exact Table.act?_confirmed acts
  · exact (acted.settle_confirmed winner).trans (Table.act?_confirmed acts)

theorem ensures_reveal (tableId : UInt32) (street : Street) :
    Step.Ensures (fun _ => session.table.LeftOrFlagged) (settings.reveal tableId street)
      session := by
  apply Step.ensures_bind (fun table => settings.keeps_call _) (fun _ => .inl rfl)
  intro reply after _
  apply Step.ensures_change_bind
  exact Step.ensures_pure (.inr rfl)

theorem ensures_showdown (tableId : UInt32) :
    Step.Ensures (fun _ => session.table.LeftOrFlagged) (settings.showdown tableId) session := by
  apply Step.ensures_bind (fun table => settings.keeps_call _) (fun _ => .inl rfl)
  intro reply after same
  apply Step.ensures_bind (fun table => settings.keeps_lobbyFor tableId _) (fun _ => .inl same)
  intro lobby last _
  apply Step.ensures_changeWith_bind
  rintro table winner ⟨⟩
  exact Step.ensures_pure (.inr rfl)

theorem ensures_start (tableId : UInt32) (opponents : List Address) :
    Step.Ensures (fun _ => session.table.LeftOrFlagged) (settings.start tableId opponents)
      session := by
  apply Step.ensures_bind (fun table => settings.keeps_seats tableId opponents) (fun _ => .inl rfl)
  rintro ⟨seats, named⟩ after _
  apply Step.ensures_changeWith_bind
  rintro table handNumber ⟨⟩
  apply Step.ensures_of_flagged rfl
  apply Step.keeps_bind (settings.keeps_call _)
  intro reply
  apply Step.keeps_bind (Step.keeps_change fun _ unconfirmed => ⟨unconfirmed, trivial⟩)
  intro _
  refine Step.keeps_bind (settings.keeps_fetchHole tableId ?_) fun hole => Step.keeps_pure _
  exact fun _ _ _ _ unconfirmed => ⟨unconfirmed, trivial⟩

theorem ensures_betOnChain (tableId : UInt32) (action : Action) :
    Step.Ensures (fun _ => session.table.LeftOrFlagged) (settings.betOnChain tableId action)
      session := by
  have applied : ∀ (transaction : Option String) (after : Session),
      Step.Ensures (fun _ => session.table.LeftOrFlagged) (do
        Step.changeWith fun table =>
          (table.applyAccepted? settings.arithmetic settings.hero action transaction).map
            fun table => (table, ())
        return Outcome.acted action transaction) after := by
    intro transaction after
    apply Step.ensures_changeWith_bind
    intro table _ applied
    rcases Table.applyAccepted?_cases (Table.applyAccepted?_of_map applied) with
      ⟨_, _, _, rfl⟩
    exact Step.ensures_pure (.inr rfl)
  unfold Settings.betOnChain
  dsimp only
  split
  · refine Step.ensures_bind ?_ (fun _ => .inl rfl) fun transaction after _ => applied _ after
    intro table
    apply Step.keeps_bind (settings.keeps_submit _ _)
    exact fun hash => Step.keeps_pure _
  · apply Step.ensures_bind (fun table => settings.keeps_call _) (fun _ => .inl rfl)
    exact fun reply after _ => applied reply.transaction after

theorem flagged_closeSoloBet (opponent : Address) (reply : Action) :
    flagged.AdmitsPartial (settings.closeSoloBet opponent reply) := by
  intro table unconfirmed
  rcases closed : settings.closeSoloBet opponent reply table with _ | ⟨after, stand⟩
  · trivial
  · exact ⟨(closeSoloBet_confirmed closed).trans unconfirmed, trivial⟩

theorem ensures_betSolo (tableId : UInt32) (action : Action) :
    Step.Ensures (fun _ => session.table.LeftOrFlagged) (settings.betSolo tableId action)
      session := by
  apply Step.ensures_changeWith_bind
  intro table stand opened
  apply Step.ensures_of_flagged (openSoloBet_confirmed opened)
  rcases stand with winner | ⟨opponent, seen⟩
  · exact Step.keeps_pure _
  apply Step.keeps_bind (Step.keeps_ask _)
  intro reply
  apply Step.keeps_bind (Step.keeps_changeWith (flagged_closeSoloBet opponent reply))
  intro stand
  rcases stand with _ | _ | street
  · exact Step.keeps_pure _
  · exact Step.keeps_pure _
  rcases street with _ | street
  · refine Step.keeps_bind (settings.keeps_showdown tableId ?_) fun next => Step.keeps_pure _
    exact fun _ _ _ _ _ => ⟨rfl, trivial⟩
  · refine Step.keeps_bind (settings.keeps_reveal tableId street ?_) fun next => Step.keeps_pure _
    exact fun _ _ _ _ _ _ => ⟨rfl, trivial⟩

end Settings

/-- What a dispatch that is left alone can leave: the snapshot as it was, an unconfirmed one, or,
after a join that failed, the note of a transaction. -/
def Settings.Leaves (settings : Settings) (intent : Intent) (before : Table)
    (result : Except ActionFault Outcome) (after : Table) : Prop :=
  before.LeftOrFlagged after ∨
    (settings.ledger.isSome ∧ ∃ buyIn fault hash, intent = .join buyIn ∧ result = .error fault ∧
      after = { before with lastTransaction := some hash })

namespace Settings

variable {settings : Settings} {session : Session}

theorem ensures_join (tableId : UInt32) (buyIn : Option Chips) :
    Step.Ensures (settings.Leaves (.join buyIn) session.table) (settings.join tableId buyIn)
      session := by
  unfold Settings.join
  dsimp only
  split
  · rename_i access accessed
    apply Step.ensures_bind (fun table => settings.keeps_submit _ _) (fun _ => .inl (.inl rfl))
    intro hash after same
    apply Step.ensures_change_bind
    apply Step.ensures_bind (fun table => settings.keeps_call _)
    · intro fault
      refine .inr ⟨by rw [accessed]; rfl, buyIn, fault, hash, rfl, rfl, ?_⟩
      rw [← same]
    · intro reply last _
      apply Step.ensures_change_bind
      exact Step.ensures_pure (.inl (.inr rfl))
  · apply Step.ensures_bind (fun table => settings.keeps_call _) (fun _ => .inl (.inl rfl))
    intro reply last _
    apply Step.ensures_change_bind
    exact Step.ensures_pure (.inl (.inr rfl))

theorem ensures_dispatch (intent : Intent) :
    Step.Ensures (settings.Leaves intent session.table) (settings.dispatch intent) session := by
  apply Step.ensures_exclusively _ (.inl (.inl rfl))
  intro free same
  apply Step.ensures_bind (fun table => Step.keeps_table) (fun _ => .inl (.inl same))
  intro table seen sameSeen
  apply Step.ensures_bind (fun table => Step.keeps_require _ _)
    (fun _ => .inl (.inl (sameSeen.trans same)))
  intro _ passed samePassed
  rw [← same, ← sameSeen, ← samePassed]
  cases intent with
  | start opponents => exact Procedure.ensures_mono (ensures_start _ opponents) fun _ _ => .inl
  | join buyIn => exact ensures_join _ buyIn
  | bet action =>
    simp only [Settings.carryOut]
    split
    · exact Procedure.ensures_mono (ensures_betSolo _ action) fun _ _ => .inl
    · exact Procedure.ensures_mono (ensures_betOnChain _ action) fun _ _ => .inl
  | reveal street => exact Procedure.ensures_mono (ensures_reveal _ street) fun _ _ => .inl
  | showdown => exact Procedure.ensures_mono (ensures_showdown _) fun _ _ => .inl

end Settings

/-- An intent that is dispatched while nothing else happens, and that changes the snapshot, leaves
it unconfirmed, also when it fails. Only a join that fails after the ledger has accepted it leaves a
confirmed snapshot confirmed, with nothing changed but the note of the transaction. -/
theorem confirmed_after_dispatch_iff {settings : Settings} {session last : Session}
    {intent : Intent} {result : Except ActionFault Outcome} {exchanges : List (Option Exchange)}
    (alone : (settings.dispatch intent).run.Turns session exchanges (.finish result) last)
    (changed : last.table ≠ session.table) :
    last.table.confirmed = true ↔
      session.table.confirmed = true ∧ settings.ledger.isSome ∧
        ∃ buyIn fault hash, intent = .join buyIn ∧ result = .error fault ∧
          last.table = { session.table with lastTransaction := some hash } := by
  rcases alone.ensured (Settings.ensures_dispatch intent) with
    (same | unconfirmed) | ⟨accessed, buyIn, fault, hash, joins, fails, noted⟩
  · exact absurd same changed
  · constructor
    · intro confirmed
      rw [unconfirmed] at confirmed
      exact absurd confirmed (by decide)
    · rintro ⟨confirmed, _, _, _, _, _, _, noted⟩
      rw [noted]
      exact confirmed
  · rw [noted]
    exact ⟨fun confirmed => ⟨confirmed, accessed, buyIn, fault, hash, joins, fails, rfl⟩, And.left⟩

/-- A deal that cannot be asked for has begun the hand and is flagged. -/
theorem confirmed_after_dispatch_of_failed_deal :
    let settings : Settings := { hero := "hero" }
    ∃ exchanges last, (settings.dispatch (.start [])).run.Turns (.opened 7) exchanges
        (.finish (.error (.coordinator (.request "offline" [])))) last ∧
      last.table.phase = .preflop ∧ last.table.confirmed = false := by
  intro settings
  -- the token, the check, the deal, the clock, the nonce, the signature, the call and the token
  have alone : (settings.dispatch (.start [])).run.Turns (.opened 7) _ _ _ :=
    .cons (.update _ _ _) <| .cons (.update _ _ _) <| .cons (.update _ _ _) <|
    .cons (.ask .clock _ ⟨0, 0⟩ _) <| .cons (.update _ _ _) <|
    .cons (.ask (.signMessage _) _ (.ok "signature") _) <|
    .cons (.ask (.coordinator _ (.deal 7 ⟨[]⟩)) _ (.error (.request "offline" [])) _) <|
    .cons (.update _ _ _) <| .refl _ _
  refine ⟨_, _, alone, rfl, ?_⟩
  rw [← Bool.not_eq_true, confirmed_after_dispatch_iff alone (by decide +kernel)]
  rintro ⟨_, _, buyIn, _, _, joins, _⟩
  exact absurd joins (by simp)

/-! ## A join that stops halfway -/

/-- The hero plays heads-up, with access to the ledger. -/
def Settings.onLedger : Settings where
  mode := .headsup
  hero := "hero"
  ledger := some { networkPassphrase := "test", watch := .ofAttempts 1 0 }

/-- The ledger accepts the hero's join, and then the lobby cannot be reached. -/
theorem turns_join_onLedger :
    ∃ exchanges last, (Settings.onLedger.dispatch (.join none)).run.Turns (.opened 7) exchanges
        (.finish (.error (.coordinator (.request "offline" [])))) last ∧
      last.table = { Table.opened 7 with lastTransaction := some "hash" } := by
  let join := Invocation.join 7 "hero" Settings.onLedger.buyIn
  -- the token and the check, then the ledger and the note
  have accepted : (Settings.onLedger.dispatch (.join none)).run.Turns (.opened 7) _ _ _ :=
    .cons (.update _ _ _) <| .cons (.update _ _ _) <|
    .cons (.ask (.ledger (.build "hero" join)) _ (.ok "built") _) <|
    .cons (.ask (.signTransaction "built" "test") _ (.ok "signed") _) <|
    .cons (.ask (.ledger (.submit "signed")) _ (.ok "hash") _) <|
    .cons (.ask (.ledger (.status "hash")) _ (.ok .success) _) <|
    .cons (.update _ _ _) <| .refl _ _
  -- the clock, the nonce and the signature, and then the call and the token
  have failed := accepted.append <|
    .cons (.ask .clock _ ⟨0, 0⟩ _) <| .cons (.update _ _ _) <|
    .cons (.ask (.signMessage _) _ (.ok "signature") _) <|
    .cons (.ask (.coordinator _ (.join 7)) _ (.error (.request "offline" [])) _) <|
    .cons (.update _ _ _) <| .refl _ _
  exact ⟨_, _, failed, rfl⟩

/-- So not every local change is flagged. -/
theorem noted_join_not_flagged :
    ¬∀ (settings : Settings) (session last : Session) (intent : Intent)
      (result : Except ActionFault Outcome) (exchanges : List (Option Exchange)),
      (settings.dispatch intent).run.Turns session exchanges (.finish result) last →
      last.table ≠ session.table → last.table.confirmed = false := by
  intro flagged
  rcases turns_join_onLedger with ⟨exchanges, last, turns, noted⟩
  have unconfirmed := flagged .onLedger (.opened 7) last _ _ exchanges turns (by rw [noted]; decide)
  rw [noted] at unconfirmed
  exact absurd unconfirmed (by decide)

end Holdem
