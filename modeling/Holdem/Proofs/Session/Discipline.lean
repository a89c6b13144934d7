import Holdem.Proofs.Procedure.Discipline
import Holdem.Session.Dispatch
import Holdem.Session.Polling

/-!
# Disciplines of the snapshot

This file follows the intents of a session through every change that they make. Each of them keeps
a discipline of the snapshot as soon as the discipline admits the changes of the snapshot that the
intent is made of; what an intent asks, signs and sends does not matter for that.

The theorems take the changes one by one, so that a discipline is checked against the operations of
`Table` and never against a procedure. What a reveal shows and what a poll merges comes from an
answer, and only the answers that the discipline counts on matter there.
-/

namespace Holdem

/-- A discipline of the snapshot, seen as one of the session. -/
def Discipline.onTable (law : Discipline Table) : Discipline Session where
  invariant session := law.invariant session.table
  permits before after := law.permits before.table after.table
  permits_refl session := law.permits_refl session.table
  mayBreak := law.mayBreak
  expects := law.expects

/-- A step keeps a discipline of the snapshot. -/
def Step.Keeps (law : Discipline Table) (step : Step α) : Prop :=
  Procedure.Keeps law.onTable step.run

/-- Whatever a step completes with has a property, as long as the answers are the expected ones. -/
def Step.Gives (expects : (request : Request) → request.Answer → Prop) (property : α → Prop)
    (step : Step α) : Prop :=
  Procedure.Gives expects (fun result => ∀ value, result = .ok value → property value) step.run

namespace Step

variable {law : Discipline Table} {α β : Type}

theorem keeps_pure (result : α) : Step.Keeps law (pure result) := trivial

theorem keeps_throw (fault : ActionFault) : Step.Keeps law (throw fault : Step α) := trivial

/-- A step after another keeps what both of them keep. -/
theorem keeps_bind {step : Step α} {next : α → Step β} (first : Step.Keeps law step)
    (later : ∀ result, Step.Keeps law (next result)) : Step.Keeps law (step >>= next) := by
  apply Procedure.keeps_bind first
  intro result
  cases result with
  | ok value => exact later value
  | error fault => trivial

/-- What follows a step has to keep the discipline only after what the step can give. -/
theorem keeps_bind_of_gives {step : Step α} {next : α → Step β} {property : α → Prop}
    (first : Step.Keeps law step) (gives : Step.Gives law.expects property step)
    (later : ∀ result, property result → Step.Keeps law (next result)) :
    Step.Keeps law (step >>= next) := by
  apply Procedure.keeps_bind_of_gives first gives
  intro result given
  cases result with
  | ok value => exact later value (given value rfl)
  | error fault => trivial

theorem keeps_table : Step.Keeps law Step.table :=
  fun _ holds => ⟨⟨holds, law.permits_refl _⟩, trivial⟩

theorem keeps_change {update : Table → Table} (admitted : law.Admits update) :
    Step.Keeps law (Step.change update) :=
  fun session holds => ⟨admitted session.table holds, trivial⟩

/-- A change with a result, seen as a turn of what it is part of. -/
theorem run_changeWith_bind (update : Table → Option (Table × α)) (next : α → Step β) :
    (Step.changeWith update >>= next).run =
      .update (fun session => (update session.table).elim session fun (table, _) =>
        { session with table }) fun session =>
          match update session.table with
          | none => .stuck
          | some (_, value) => (next value).run := by
  let changes (session : Session) : Option (Session × α) :=
    (update session.table).map fun (table, result) => ({ session with table }, result)
  change Procedure.bind (Procedure.bind (Procedure.step changes) _) _ = _
  simp only [Procedure.step, Procedure.bind, changes]
  congr 1
  · funext session
    cases update session.table with
    | none => rfl
    | some result => rfl
  · funext session
    cases update session.table with
    | none => rfl
    | some result => rfl

theorem keeps_changeWith {update : Table → Option (Table × α)}
    (admitted : law.AdmitsPartial update) : Step.Keeps law (Step.changeWith update) := by
  simp only [Step.Keeps, Step.changeWith]
  apply Procedure.keeps_bind
  · apply Procedure.keeps_step
    intro session holds
    have outcome := admitted session.table holds
    rcases changed : update session.table with _ | ⟨after, result⟩
    · simpa [changed, Discipline.onTable] using outcome
    · simpa [changed, Discipline.onTable] using outcome
  · intro result
    trivial

theorem keeps_ask (request : Request) : Step.Keeps law (Step.ask request) :=
  fun _ _ => trivial

/-- What follows a requirement has to keep the discipline only where the requirement is met. -/
theorem keeps_require_bind {answer : Except ε α} {fault : ε → ActionFault} {next : α → Step β}
    (later : ∀ result, answer = .ok result → Step.Keeps law (next result)) :
    Step.Keeps law (Step.require answer fault >>= next) := by
  cases answer with
  | ok result => exact later result rfl
  | error reason => exact keeps_throw (fault reason)

theorem keeps_require (answer : Except ε α) (fault : ε → ActionFault) :
    Step.Keeps law (Step.require answer fault) := by
  cases answer with
  | ok result => exact keeps_pure result
  | error reason => exact keeps_throw (fault reason)

theorem keeps_attempt {step : Step α} (kept : Step.Keeps law step) :
    Step.Keeps law (Step.attempt step) := by
  apply Procedure.keeps_bind kept
  intro result
  trivial

/-- Taking the token and giving it back leaves the snapshot alone. -/
theorem keeps_exclusively {step : Step α} (kept : Step.Keeps law step) :
    Step.Keeps law (Step.exclusively step) := by
  intro session holds
  refine ⟨⟨holds, law.permits_refl session.table⟩, ?_⟩
  by_cases free : session.take.2
  · simp only [free, ↓reduceIte]
    apply Procedure.keeps_bind kept
    intro result after afterHolds
    exact ⟨⟨afterHolds, law.permits_refl after.table⟩, trivial⟩
  · simp only [free, Bool.false_eq_true, ↓reduceIte]
    trivial

/-! ## Results of steps -/

variable {expects : (request : Request) → request.Answer → Prop} {property : β → Prop}

theorem gives_pure {result : β} (holds : property result) :
    Step.Gives expects property (pure result) := by
  rintro _ ⟨⟩
  exact holds

theorem gives_throw (fault : ActionFault) :
    Step.Gives expects property (throw fault : Step β) := by
  rintro _ ⟨⟩

/-- What a step gives after another, which has given something first. -/
theorem gives_bind {step : Step α} {next : α → Step β} {between : α → Prop}
    (first : Step.Gives expects between step)
    (later : ∀ result, between result → Step.Gives expects property (next result)) :
    Step.Gives expects property (step >>= next) := by
  apply Procedure.gives_bind first
  intro result given
  cases result with
  | ok value => exact later value (given value rfl)
  | error fault => exact gives_throw fault

/-- What a step gives after another, whatever that has given. -/
theorem gives_bind_last {step : Step α} {next : α → Step β}
    (later : ∀ result, Step.Gives expects property (next result)) :
    Step.Gives expects property (step >>= next) := by
  apply Procedure.gives_bind (Procedure.gives_true step.run)
  intro result _
  cases result with
  | ok value => exact later value
  | error fault => exact gives_throw fault

theorem gives_mono {step : Step β} {other : β → Prop} (gives : Step.Gives expects property step)
    (weaker : ∀ result, property result → other result) : Step.Gives expects other step := by
  apply Procedure.gives_mono gives
  intro result given value completed
  exact weaker value (given value completed)

theorem gives_true (step : Step β) : Step.Gives expects (fun _ => True) step :=
  Procedure.gives_mono (Procedure.gives_true step.run) fun _ _ _ _ => trivial

theorem gives_ask (request : Request) :
    Step.Gives expects (expects request) (Step.ask request) := by
  rintro answer expected _ ⟨⟩
  exact expected

theorem gives_attempt {step : Step β} (gives : Step.Gives expects property step) :
    Step.Gives expects (fun result => ∀ value, result = .ok value → property value)
      (Step.attempt step) := by
  apply Procedure.gives_bind gives
  rintro result given _ ⟨⟩
  exact given

theorem gives_require (answer : Except ε β) (fault : ε → ActionFault) :
    Step.Gives expects (fun result => answer = .ok result) (Step.require answer fault) := by
  cases answer with
  | ok result => exact gives_pure rfl
  | error reason => exact gives_throw (fault reason)

end Step

namespace LedgerAccess

variable {law : Discipline Table}

theorem keeps_confirm (access : LedgerAccess) (hash : String) (left : Nat) :
    (access.confirm hash left).Keeps law.onTable := by
  induction left with
  | zero => trivial
  | succ left hypothesis =>
    intro answer _
    rcases answer with fault | status
    · by_cases last : left = 0
      · simp [last, Procedure.Keeps]
      · simp only [last, ↓reduceIte]
        exact fun _ _ => hypothesis
    · cases status with
      | success => trivial
      | failed reason => trivial
      | pending =>
        by_cases last : left = 0
        · simp [last, Procedure.Keeps]
        · simp only [last, ↓reduceIte]
          exact fun _ _ => hypothesis

theorem keeps_submit (access : LedgerAccess) (source : Address) (invocation : Invocation) :
    (access.submit source invocation).Keeps law.onTable := by
  intro built _
  rcases built with fault | envelope
  · trivial
  intro signed _
  rcases signed with fault | signed
  · trivial
  intro submitted _
  rcases submitted with fault | hash
  · trivial
  exact access.keeps_confirm hash access.watch.attempts

end LedgerAccess

namespace Settings

variable {law : Discipline Table}

/-! ## Calls -/

theorem keeps_credentials (settings : Settings) (call : CoordinatorCall) (purpose : Purpose) :
    Step.Keeps law (settings.credentials call purpose) := by
  simp only [Settings.credentials]
  by_cases nameless : settings.hero = ""
  · simp only [nameless, ↓reduceIte]
    exact Step.keeps_throw _
  simp only [nameless, ↓reduceIte]
  apply Step.keeps_bind (Step.keeps_ask _)
  intro now
  refine Step.keeps_bind ?_ ?_
  · intro session holds
    exact ⟨⟨holds, law.permits_refl session.table⟩, trivial⟩
  intro before
  apply Step.keeps_bind (Step.keeps_ask _)
  intro answer
  apply Step.keeps_bind (Step.keeps_require _ _)
  intro signature
  exact Step.keeps_pure _

theorem keeps_send (credentials : Option Credentials) (call : CoordinatorCall) :
    Step.Keeps law (Settings.send credentials call) := by
  apply Step.keeps_bind (Step.keeps_ask _)
  intro answer
  exact Step.keeps_require _ _

theorem keeps_sendSigned (settings : Settings) (call : CoordinatorCall) (purpose : Purpose) :
    Step.Keeps law (settings.sendSigned call purpose) := by
  apply Step.keeps_bind (settings.keeps_credentials call purpose)
  intro credentials
  exact keeps_send (some credentials) call

/-- A call of the coordinator leaves the snapshot alone, however it is signed and answered. -/
theorem keeps_call (settings : Settings) (call : CoordinatorCall) :
    Step.Keeps law (settings.call call) := by
  simp only [Settings.call]
  split
  · exact keeps_send none call
  · rename_i purpose _
    split
    · apply Step.keeps_bind (Step.keeps_ask _)
      intro answer
      rcases answer with fault | reply
      · dsimp only
        split
        · exact settings.keeps_sendSigned call purpose
        · exact Step.keeps_throw _
      · exact Step.keeps_pure reply
    · exact settings.keeps_sendSigned call purpose

theorem gives_send {expects : (request : Request) → request.Answer → Prop}
    (credentials : Option Credentials) (call : CoordinatorCall) :
    Step.Gives expects (fun reply => expects (.coordinator credentials call) (.ok reply))
      (Settings.send credentials call) := by
  apply Step.gives_bind (Step.gives_ask _)
  intro answer expected
  apply Step.gives_mono (Step.gives_require answer _)
  rintro reply rfl
  exact expected

theorem gives_sendSigned {expects : (request : Request) → request.Answer → Prop}
    (settings : Settings) (call : CoordinatorCall) (purpose : Purpose) :
    Step.Gives expects (fun reply => ∃ credentials, expects (.coordinator credentials call)
      (.ok reply)) (settings.sendSigned call purpose) := by
  apply Step.gives_bind_last
  intro credentials
  apply Step.gives_mono (gives_send (some credentials) call)
  intro reply expected
  exact ⟨_, expected⟩

/-- A call completes with a reply that was given to it, however it is signed. -/
theorem gives_call {expects : (request : Request) → request.Answer → Prop} (settings : Settings)
    (call : CoordinatorCall) :
    Step.Gives expects (fun reply => ∃ credentials, expects (.coordinator credentials call)
      (.ok reply)) (settings.call call) := by
  simp only [Settings.call]
  split
  · apply Step.gives_mono (gives_send none call)
    intro reply expected
    exact ⟨_, expected⟩
  · rename_i purpose _
    split
    · apply Step.gives_bind (Step.gives_ask _)
      intro answer expected
      rcases answer with fault | reply
      · dsimp only
        split
        · exact settings.gives_sendSigned call purpose
        · exact Step.gives_throw _
      · exact Step.gives_pure ⟨_, expected⟩
    · exact settings.gives_sendSigned call purpose

theorem keeps_submit (settings : Settings) (access : LedgerAccess) (invocation : Invocation) :
    Step.Keeps law (settings.submit access invocation) := by
  refine Step.keeps_bind ?_ ?_
  · apply Procedure.keeps_bind (access.keeps_submit settings.hero invocation)
    intro result
    trivial
  · intro result
    exact Step.keeps_require _ _

/-! ## Intents -/

theorem keeps_seats (settings : Settings) (tableId : UInt32) (opponents : List Address) :
    Step.Keeps law (settings.seats tableId opponents) := by
  simp only [Settings.seats]
  split
  · apply Step.keeps_bind (settings.keeps_call _)
    intro lobby
    apply Step.keeps_bind (Step.keeps_require _ _)
    intro others
    apply Step.keeps_bind (Step.keeps_require _ _)
    intro seats
    exact Step.keeps_pure _
  · apply Step.keeps_bind (Step.keeps_require _ _)
    intro seats
    split
    · exact Step.keeps_pure _
    apply Step.keeps_bind Step.keeps_table
    intro table
    split
    · exact Step.keeps_pure _
    apply Step.keeps_bind (settings.keeps_call _)
    intro lobby
    split
    · exact Step.keeps_pure _
    · exact Step.keeps_throw _

/-- The seats that a start can come to: those of the opponents who were named, or those of a lobby
that was told and whose other wallets were checked. -/
inductive Seats (settings : Settings) (expects : (request : Request) → request.Answer → Prop)
    (tableId : UInt32) (opponents : List Address) : List Address → Prop
  | named {seats : List Address} (given : settings.mode.isSolo ∨ opponents ≠ [])
    (checked : seatsFor settings.mode settings.hero opponents = .ok seats) :
    Seats settings expects tableId opponents seats
  | lobby {lobby : Lobby} {others checked : List Address} (credentials : Option Credentials)
    (shared : settings.mode.isSolo = false) (unnamed : opponents = [])
    (told : expects (.coordinator credentials (.lobby tableId)) (.ok lobby))
    (joined : lobby.opponentsOf settings.hero = .ok others)
    (passed : seatsFor settings.mode settings.hero others = .ok checked) :
    Seats settings expects tableId opponents lobby.wallets

theorem gives_seats {expects : (request : Request) → request.Answer → Prop} (settings : Settings)
    (tableId : UInt32) (opponents : List Address) :
    Step.Gives expects (fun seats => settings.Seats expects tableId opponents seats.1)
      (settings.seats tableId opponents) := by
  simp only [Settings.seats]
  split
  · rename_i unnamed
    simp only [Bool.and_eq_true, Bool.not_eq_true', List.isEmpty_iff] at unnamed
    apply Step.gives_bind (settings.gives_call _)
    rintro lobby ⟨credentials, told⟩
    apply Step.gives_bind (Step.gives_require _ _)
    intro others joined
    apply Step.gives_bind (Step.gives_require _ _)
    intro checked passed
    exact Step.gives_pure (.lobby credentials unnamed.1 unnamed.2 told joined passed)
  · rename_i given
    have named : settings.mode.isSolo ∨ opponents ≠ [] := by
      by_cases solo : settings.mode.isSolo
      · exact .inl solo
      · refine .inr ?_
        rintro rfl
        simp [solo] at given
    apply Step.gives_bind (Step.gives_require _ _)
    intro seats checked
    have seated : settings.Seats expects tableId opponents seats := .named named checked
    split
    · exact Step.gives_pure seated
    apply Step.gives_bind_last
    intro table
    split
    · exact Step.gives_pure seated
    apply Step.gives_bind_last
    intro lobby
    split
    · exact Step.gives_pure seated
    · exact Step.gives_throw _

/-- Fetching the private cards keeps a discipline that lets the hero hold the valid cards of every
expected reply. -/
theorem keeps_fetchHole_of_reply (settings : Settings) (tableId : UInt32)
    (stores : ∀ credentials reply,
      law.expects (.coordinator credentials (.cards tableId settings.hero)) (.ok reply) →
        Card.isValid ⟨reply.first⟩ → Card.isValid ⟨reply.second⟩ →
          law.Admits fun table => table.storeHole settings.hero (⟨reply.first⟩, ⟨reply.second⟩)) :
    Step.Keeps law (settings.fetchHole tableId) := by
  apply Step.keeps_bind_of_gives (Step.keeps_attempt (settings.keeps_call _))
    (Step.gives_attempt (settings.gives_call _))
  rintro (fault | reply) given
  · exact Step.keeps_pure _
  rcases given reply rfl with ⟨credentials, expected⟩
  dsimp only
  split
  · rename_i valid
    rw [Bool.and_eq_true] at valid
    apply Step.keeps_bind
      (Step.keeps_change (stores credentials reply expected valid.1 valid.2))
    intro _
    exact Step.keeps_pure _
  · exact Step.keeps_pure _

theorem keeps_fetchHole (settings : Settings) (tableId : UInt32)
    (stores : ∀ cards : Card × Card, cards.1.isValid → cards.2.isValid →
      law.Admits fun table => table.storeHole settings.hero cards) :
    Step.Keeps law (settings.fetchHole tableId) :=
  settings.keeps_fetchHole_of_reply tableId fun _ reply _ =>
    stores (⟨reply.first⟩, ⟨reply.second⟩)

/-- A start keeps a discipline that lets a hand be dealt to the seats that it can come to and the
hero hold the cards of every expected reply. -/
theorem keeps_start_of_replies (settings : Settings) (tableId : UInt32) (opponents : List Address)
    (begins : ∀ seats, settings.Seats law.expects tableId opponents seats → law.Admits fun table =>
      table.beginHand settings.mode settings.hero seats settings.buyIn settings.soloStack)
    (notes : ∀ size transaction, law.Admits fun table => table.noteProof size transaction)
    (stores : ∀ credentials reply,
      law.expects (.coordinator credentials (.cards tableId settings.hero)) (.ok reply) →
        Card.isValid ⟨reply.first⟩ → Card.isValid ⟨reply.second⟩ →
          law.Admits fun table => table.storeHole settings.hero (⟨reply.first⟩, ⟨reply.second⟩)) :
    Step.Keeps law (settings.start tableId opponents) := by
  apply Step.keeps_bind_of_gives (settings.keeps_seats tableId opponents)
    (settings.gives_seats tableId opponents)
  rintro ⟨seats, named⟩ given
  refine Step.keeps_bind (Step.keeps_changeWith ?_) ?_
  · intro table holds
    exact begins seats given table holds
  intro handNumber
  apply Step.keeps_bind (settings.keeps_call _)
  intro reply
  apply Step.keeps_bind (Step.keeps_change (notes _ _))
  intro _
  apply Step.keeps_bind (settings.keeps_fetchHole_of_reply tableId stores)
  intro hole
  exact Step.keeps_pure _

theorem keeps_start_of_seats (settings : Settings) (tableId : UInt32) (opponents : List Address)
    (begins : ∀ seats, settings.Seats law.expects tableId opponents seats → law.Admits fun table =>
      table.beginHand settings.mode settings.hero seats settings.buyIn settings.soloStack)
    (notes : ∀ size transaction, law.Admits fun table => table.noteProof size transaction)
    (stores : ∀ cards : Card × Card, cards.1.isValid → cards.2.isValid →
      law.Admits fun table => table.storeHole settings.hero cards) :
    Step.Keeps law (settings.start tableId opponents) :=
  settings.keeps_start_of_replies tableId opponents begins notes fun _ reply _ =>
    stores (⟨reply.first⟩, ⟨reply.second⟩)

theorem keeps_start (settings : Settings) (tableId : UInt32) (opponents : List Address)
    (begins : ∀ seats, law.Admits fun table =>
      table.beginHand settings.mode settings.hero seats settings.buyIn settings.soloStack)
    (notes : ∀ size transaction, law.Admits fun table => table.noteProof size transaction)
    (stores : ∀ cards : Card × Card, cards.1.isValid → cards.2.isValid →
      law.Admits fun table => table.storeHole settings.hero cards) :
    Step.Keeps law (settings.start tableId opponents) :=
  settings.keeps_start_of_seats tableId opponents (fun seats _ => begins seats) notes stores

/-- A join keeps a discipline that lets the hero take the seat of every expected reply. -/
theorem keeps_join_of_reply (settings : Settings) (tableId : UInt32) (buyIn : Option Chips)
    (notes : ∀ hash, law.Admits fun table => { table with lastTransaction := some hash })
    (seats : ∀ credentials reply,
      law.expects (.coordinator credentials (.join tableId)) (.ok reply) →
        law.Admits fun table =>
          table.takeSeat settings.hero reply.seat.toNat (buyIn.getD settings.buyIn)) :
    Step.Keeps law (settings.join tableId buyIn) := by
  have lobby : Step.Keeps law do
      let reply ← settings.call (.join tableId)
      Step.change fun table =>
        table.takeSeat settings.hero reply.seat.toNat (buyIn.getD settings.buyIn)
      return Outcome.joined reply.seat.toNat reply.joinedWallets.toNat reply.maxPlayers.toNat := by
    apply Step.keeps_bind_of_gives (settings.keeps_call _) (settings.gives_call _)
    rintro reply ⟨credentials, expected⟩
    apply Step.keeps_bind (Step.keeps_change (seats credentials reply expected))
    intro _
    exact Step.keeps_pure _
  unfold Settings.join
  dsimp only
  split
  · apply Step.keeps_bind (settings.keeps_submit _ _)
    intro hash
    apply Step.keeps_bind (Step.keeps_change (notes hash))
    intro _
    exact lobby
  · exact lobby

theorem keeps_join (settings : Settings) (tableId : UInt32) (buyIn : Option Chips)
    (notes : ∀ hash, law.Admits fun table => { table with lastTransaction := some hash })
    (seats : ∀ seat, law.Admits fun table =>
      table.takeSeat settings.hero seat (buyIn.getD settings.buyIn)) :
    Step.Keeps law (settings.join tableId buyIn) :=
  settings.keeps_join_of_reply tableId buyIn notes fun _ _ _ => seats _

/-- A reveal keeps a discipline that lets the cards of every expected reply be shown. -/
theorem keeps_reveal_of_reply (settings : Settings) (tableId : UInt32) (street : Street)
    (shows : ∀ credentials reply,
      law.expects (.coordinator credentials (.reveal tableId street)) (.ok reply) →
        law.Admits fun table => table.showStreet street
          ((reply.cards.map Card.mk).filter Card.isValid) reply.proofSize.toNat
          reply.transaction) :
    Step.Keeps law (settings.reveal tableId street) := by
  apply Step.keeps_bind_of_gives (settings.keeps_call _) (settings.gives_call _)
  rintro reply ⟨credentials, expected⟩
  apply Step.keeps_bind (Step.keeps_change (shows credentials reply expected))
  intro _
  exact Step.keeps_pure _

theorem keeps_reveal (settings : Settings) (tableId : UInt32) (street : Street)
    (shows : ∀ cards size transaction, (∀ card ∈ cards, Card.isValid card) →
      law.Admits fun table => table.showStreet street cards size transaction) :
    Step.Keeps law (settings.reveal tableId street) := by
  apply settings.keeps_reveal_of_reply
  intro credentials reply _
  apply shows
  intro card member
  exact (List.mem_filter.mp member).2

theorem keeps_lobbyFor (settings : Settings) (tableId : UInt32) (winner : Address) :
    Step.Keeps law (settings.lobbyFor tableId winner) := by
  apply Step.keeps_bind Step.keeps_table
  intro table
  split
  · exact Step.keeps_pure _
  apply Step.keeps_bind (Step.keeps_attempt (settings.keeps_call _))
  intro answer
  rcases answer with fault | lobby
  · exact Step.keeps_pure _
  · exact Step.keeps_pure _

theorem keeps_showdown (settings : Settings) (tableId : UInt32)
    (decides : ∀ winner size transaction, law.Admits fun table =>
      table.decide settings.mode settings.arithmetic winner size transaction) :
    Step.Keeps law (settings.showdown tableId) := by
  apply Step.keeps_bind (settings.keeps_call _)
  intro reply
  apply Step.keeps_bind (settings.keeps_lobbyFor tableId _)
  intro lobby
  refine Step.keeps_bind (Step.keeps_changeWith ?_) ?_
  · intro table holds
    exact decides _ _ _ table holds
  · intro winner
    exact Step.keeps_pure _

/-- A submitted bet keeps a discipline that lets the accepted action be applied. -/
theorem keeps_betOnChain (settings : Settings) (tableId : UInt32) (action : Action)
    (applies : ∀ transaction, law.AdmitsPartial fun table =>
      (table.applyAccepted? settings.arithmetic settings.hero action transaction).map
        fun table => (table, ())) :
    Step.Keeps law (settings.betOnChain tableId action) := by
  have applied : ∀ transaction, Step.Keeps law do
      Step.changeWith fun table =>
        (table.applyAccepted? settings.arithmetic settings.hero action transaction).map
          fun table => (table, ())
      return Outcome.acted action transaction := by
    intro transaction
    apply Step.keeps_bind (Step.keeps_changeWith (applies transaction))
    intro _
    exact Step.keeps_pure _
  unfold Settings.betOnChain
  dsimp only
  split
  · refine Step.keeps_bind ?_ applied
    apply Step.keeps_bind (settings.keeps_submit _ _)
    intro hash
    exact Step.keeps_pure _
  · apply Step.keeps_bind (settings.keeps_call _)
    intro reply
    exact applied reply.transaction

/-- A solo bet keeps a discipline that admits the hero's action, any reply, and what may follow when
the round closes. -/
theorem keeps_betSolo (settings : Settings) (tableId : UInt32) (action : Action)
    (opens : law.AdmitsPartial (settings.openSoloBet action))
    (closes : ∀ opponent reply, law.AdmitsPartial (settings.closeSoloBet opponent reply))
    (shows : ∀ street cards size transaction, (∀ card ∈ cards, Card.isValid card) →
      law.Admits fun table => table.showStreet street cards size transaction)
    (decides : ∀ winner size transaction, law.Admits fun table =>
      table.decide settings.mode settings.arithmetic winner size transaction) :
    Step.Keeps law (settings.betSolo tableId action) := by
  apply Step.keeps_bind (Step.keeps_changeWith opens)
  intro stand
  rcases stand with winner | ⟨opponent, table⟩
  · exact Step.keeps_pure _
  apply Step.keeps_bind (Step.keeps_ask _)
  intro reply
  apply Step.keeps_bind (Step.keeps_changeWith (closes opponent reply))
  intro stand
  rcases stand with _ | _ | street
  · exact Step.keeps_pure _
  · exact Step.keeps_pure _
  rcases street with _ | street
  · apply Step.keeps_bind (settings.keeps_showdown tableId decides)
    intro next
    exact Step.keeps_pure _
  · apply Step.keeps_bind (settings.keeps_reveal tableId street (shows street))
    intro next
    exact Step.keeps_pure _

/-- An intent keeps what carrying it out keeps on any table where it passes its check. -/
theorem keeps_perform (settings : Settings) (intent : Intent)
    (carries : ∀ table, intent.check table settings.mode settings.hero = .ok () →
      Step.Keeps law (settings.carryOut table.tableId intent)) :
    Step.Keeps law (settings.perform intent) := by
  apply Step.keeps_bind Step.keeps_table
  intro table
  apply Step.keeps_require_bind
  intro _ passed
  exact carries table passed

theorem keeps_openTable (settings : Settings) (body : CreateRequest)
    (turns : ∀ tableId, law.Admits fun _ => .opened tableId) :
    Step.Keeps law (settings.openTable body) := by
  apply Step.keeps_bind (settings.keeps_call _)
  intro reply
  apply Step.keeps_bind (Step.keeps_change (turns reply.tableId))
  intro _
  exact Step.keeps_pure _

/-! ## Polls -/

/-- A poll keeps a discipline that admits the merge of whatever can be read from an expected
payload. -/
theorem keeps_poll (settings : Settings)
    (merges : ∀ tableId (reply : StateReply) poll,
      law.expects (.coordinator none (.state tableId)) (.ok reply) →
      Poll.ofText? reply.state = some poll →
        law.Admits fun table => (table.merge settings.mode poll).1) :
    settings.poll.Keeps law.onTable := by
  intro session holds
  refine ⟨⟨holds, law.permits_refl session.table⟩, ?_⟩
  intro answer expected
  rcases answer with fault | reply
  · trivial
  cases parsed : Poll.ofText? reply.state with
  | none => simp [parsed, Procedure.Keeps]
  | some poll =>
    simp only [parsed]
    intro later laterHolds
    dsimp only
    split
    · exact ⟨merges _ reply poll expected parsed later.table laterHolds, trivial⟩
    · exact ⟨⟨laterHolds, law.permits_refl later.table⟩, trivial⟩

end Settings

/-! ## Solo bets -/

namespace Settings

variable {settings : Settings} {table acted : Table} {address : Address} {action : Action}
  {moved : Chips}

/-- A solo bet is the hero's action, after which the hand may be settled. -/
theorem exists_openSoloBet
    (acts : table.act? settings.arithmetic settings.hero action = some (acted, moved)) :
    ∃ after stand, settings.openSoloBet action table = some (after, stand) ∧
      (after = acted.markUnconfirmed ∨
        ∃ winner, after = acted.markUnconfirmed.settle settings.arithmetic winner) := by
  simp only [openSoloBet]
  rw [acts, Option.map_some]
  dsimp only
  split
  · exact ⟨_, _, rfl, Or.inr ⟨settings.hero, rfl⟩⟩
  · rename_i opponent _
    split
    · exact ⟨_, _, rfl, Or.inr ⟨opponent, rfl⟩⟩
    · exact ⟨_, _, rfl, Or.inl rfl⟩

/-- The reply to a solo bet is the opponent's action, after which the hand may be settled. -/
theorem exists_closeSoloBet
    (acts : table.act? settings.arithmetic address action = some (acted, moved)) :
    ∃ after stand, settings.closeSoloBet address action table = some (after, stand) ∧
      (after = acted ∨ ∃ winner, after = acted.settle settings.arithmetic winner) := by
  simp only [closeSoloBet]
  rw [acts, Option.map_some]
  dsimp only
  split
  · exact ⟨_, _, rfl, Or.inr ⟨settings.hero, rfl⟩⟩
  · split
    · exact ⟨_, _, rfl, Or.inl rfl⟩
    · exact ⟨_, _, rfl, Or.inl rfl⟩

/-- What a solo bet came to was the hero's action, after which the hand may have been settled. -/
theorem openSoloBet_cases {after : Table} {stand : Address ⊕ (Address × Table)}
    (opened : settings.openSoloBet action table = some (after, stand)) :
    ∃ acted moved, table.act? settings.arithmetic settings.hero action = some (acted, moved) ∧
      (after = acted.markUnconfirmed ∨
        ∃ winner, after = acted.markUnconfirmed.settle settings.arithmetic winner) := by
  rcases acts : table.act? settings.arithmetic settings.hero action with _ | ⟨acted, moved⟩
  · simp [openSoloBet, acts] at opened
  rcases exists_openSoloBet acts with ⟨shapeAfter, shapeStand, shapeOpened, shape⟩
  rw [opened, Option.some.injEq, Prod.mk.injEq] at shapeOpened
  rw [← shapeOpened.1] at shape
  exact ⟨acted, moved, rfl, shape⟩

theorem closeSoloBet_cases {after : Table} {stand : SoloStand}
    (closed : settings.closeSoloBet address action table = some (after, stand)) :
    ∃ acted moved, table.act? settings.arithmetic address action = some (acted, moved) ∧
      (after = acted ∨ ∃ winner, after = acted.settle settings.arithmetic winner) := by
  rcases acts : table.act? settings.arithmetic address action with _ | ⟨acted, moved⟩
  · simp [closeSoloBet, acts] at closed
  rcases exists_closeSoloBet acts with ⟨shapeAfter, shapeStand, shapeClosed, shape⟩
  rw [closed, Option.some.injEq, Prod.mk.injEq] at shapeClosed
  rw [← shapeClosed.1] at shape
  exact ⟨acted, moved, rfl, shape⟩

end Settings

/-! ## All operations at once -/

/-- A discipline admits every change of the snapshot that an action of the player makes, apart from
dealing a hand and turning to a table. -/
structure Discipline.Admission (law : Discipline Table) (settings : Settings) : Prop where
  hash : ∀ hash, law.Admits fun table => { table with lastTransaction := some hash }
  proof : ∀ size transaction, law.Admits fun table => table.noteProof size transaction
  hole : ∀ cards : Card × Card, cards.1.isValid → cards.2.isValid →
    law.Admits fun table => table.storeHole settings.hero cards
  seat : ∀ buyIn table, (Intent.join buyIn).check table settings.mode settings.hero = .ok () →
    ∀ seat, law.Admits fun table =>
      table.takeSeat settings.hero seat (buyIn.getD settings.buyIn)
  street : ∀ street cards size transaction, (∀ card ∈ cards, Card.isValid card) →
    law.Admits fun table => table.showStreet street cards size transaction
  decision : ∀ winner size transaction,
    law.Admits fun table => table.decide settings.mode settings.arithmetic winner size transaction
  accepted : ∀ action transaction, law.AdmitsPartial fun table =>
    (table.applyAccepted? settings.arithmetic settings.hero action transaction).map
      fun table => (table, ())
  opening : ∀ action, law.AdmitsPartial (settings.openSoloBet action)
  closing : ∀ opponent reply, law.AdmitsPartial (settings.closeSoloBet opponent reply)

namespace Settings

variable {law : Discipline Table}

/-- An intent keeps a discipline that admits all operations of the player; dealing counts only for a
start. -/
theorem keeps_dispatch (settings : Settings) (intent : Intent)
    (admission : law.Admission settings)
    (begins : ∀ opponents, intent = .start opponents → ∀ seats, law.Admits fun table =>
      table.beginHand settings.mode settings.hero seats settings.buyIn settings.soloStack) :
    Step.Keeps law (settings.dispatch intent) := by
  apply Step.keeps_exclusively
  apply settings.keeps_perform
  intro table passed
  cases intent with
  | start opponents =>
    exact settings.keeps_start _ opponents (begins opponents rfl) admission.proof admission.hole
  | join buyIn =>
    exact settings.keeps_join _ buyIn admission.hash (admission.seat buyIn table passed)
  | bet action =>
    simp only [Settings.carryOut]
    split
    · exact settings.keeps_betSolo _ action (admission.opening action) admission.closing
        admission.street admission.decision
    · exact settings.keeps_betOnChain _ action (admission.accepted action)
  | reveal street => exact settings.keeps_reveal _ street (admission.street street)
  | showdown => exact settings.keeps_showdown _ admission.decision

end Settings

end Holdem
