import Holdem.Proofs.Session.Failure
import Holdem.Proofs.Session.GrantedJoin
import Holdem.Proofs.Session.Start
import Holdem.Proofs.Session.Token

/-!
# What a refusal costs

An action that is refused on the spot was meant to cost nothing outside: no call, no submission, no
signature and no nonce. That is so but for a start. To find out whether the hero has joined, and who
the others are when none are named, a start reads the lobby; and what it finds there it refuses with
the same faults as opponents that it can check by itself.

A procedure is thrifty when it has asked just what is due for a refusal by the time it comes to it,
and has drawn no nonce. Once no refusal can come any more it is free to do both. So an action that
can be refused only before its first signed call is thrifty, whatever it asks for after that.
-/

namespace Holdem

namespace Procedure

variable {α β : Type} {refusal : α → Prop} {refusalLater : β → Prop}
  {due : List Exchange → α → Prop} {dueLater : List Exchange → β → Prop}

/-- A procedure draws no nonce as long as it can come to a refusal, and comes to one only after
exchanges that are due for it. -/
def Thrifty (refusal : α → Prop) (due : List Exchange → α → Prop) : Procedure Session α → Prop
  | .finish result => refusal result → due [] result
  | .stuck => True
  | .update change resume => ∀ session,
    ((change session).nonces = session.nonces ∧ (resume session).Thrifty refusal due) ∨
      (resume session).Gives (fun _ _ => True) fun result => ¬refusal result
  | .ask request resume => ∀ answer : request.Answer,
    (resume answer).Thrifty refusal fun heard result => due (⟨request, answer⟩ :: heard) result

theorem thrifty_of_gives {procedure : Procedure Session α}
    (gives : procedure.Gives (fun _ _ => True) fun result => ¬refusal result) :
    procedure.Thrifty refusal due := by
  induction procedure generalizing due with
  | finish result => exact fun refused => absurd refused gives
  | stuck => trivial
  | update change resume => exact fun session => .inr (gives session)
  | ask request resume hypothesis => exact fun answer => hypothesis answer (gives answer trivial)

/-- A sequence is thrifty when what follows a refusal of the first part is, and when no refusal can
follow anything else. -/
theorem thrifty_bind {procedure : Procedure Session α} {next : α → Procedure Session β}
    (first : procedure.Thrifty refusal due)
    (later : ∀ heard result, refusal result → due heard result →
      (next result).Thrifty refusalLater fun after last => dueLater (heard ++ after) last)
    (free : ∀ result, ¬refusal result →
      (next result).Gives (fun _ _ => True) fun last => ¬refusalLater last) :
    (procedure.bind next).Thrifty refusalLater dueLater := by
  induction procedure generalizing due dueLater with
  | finish result =>
    by_cases refused : refusal result
    · exact later [] result refused (first refused)
    · exact thrifty_of_gives (free result refused)
  | stuck => trivial
  | update change resume hypothesis =>
    intro session
    rcases first session with ⟨kept, rest⟩ | gives
    · exact .inl ⟨kept, hypothesis session rest later⟩
    · exact .inr (gives_bind gives free)
  | ask request resume hypothesis =>
    intro answer
    exact hypothesis answer (first answer) fun heard => later (⟨request, answer⟩ :: heard)

theorem Thrifty.turn {procedure rest : Procedure Session α} {session after : Session}
    {exchange : Option Exchange} (thrifty : procedure.Thrifty refusal due)
    (turn : procedure.Turn session exchange rest after) :
    (after.nonces = session.nonces ∧
        rest.Thrifty refusal fun heard result => due (exchange.toList ++ heard) result) ∨
      rest.Gives (fun _ _ => True) fun result => ¬refusal result := by
  cases turn with
  | update => exact thrifty session
  | ask request resume answer => exact .inl ⟨rfl, thrifty answer⟩

end Procedure

/-! ## Thrifty steps -/

namespace Step

variable {α β : Type} {due : List Exchange → ActionFault → Prop}

/-- Whether a result is a failure on the spot. -/
def Refusal (result : Except ActionFault α) : Prop :=
  ∃ fault, result = .error fault ∧ fault.isPrecondition

/-- A step refuses only after exchanges that are due for the fault. -/
def Thrifty (due : List Exchange → ActionFault → Prop) (step : Step α) : Prop :=
  Procedure.Thrifty Refusal (fun heard result => ∀ fault, result = .error fault → due heard fault)
    step.run

theorem thrifty_of_faults {step : Step α}
    (faults : Step.Faults (fun fault => ¬fault.isPrecondition) step) : Step.Thrifty due step := by
  apply Procedure.thrifty_of_gives
  apply Procedure.gives_mono faults
  rintro result given ⟨fault, failed, spot⟩
  exact given fault failed spot

theorem thrifty_pure (value : α) : Step.Thrifty due (pure value) := by
  rintro ⟨_, none, _⟩
  exact absurd none (by simp)

theorem thrifty_throw {fault : ActionFault} (nothing : due [] fault) :
    Step.Thrifty due (throw fault : Step α) := by
  rintro _ _ ⟨⟩
  exact nothing

theorem thrifty_bind_of_faults {step : Step α} {next : α → Step β} (first : Step.Thrifty due step)
    (later : ∀ value, Step.Faults (fun fault => ¬fault.isPrecondition) (next value)) :
    Step.Thrifty due (step >>= next) := by
  apply Procedure.thrifty_bind first
  · rintro heard _ ⟨fault, rfl, _⟩ asked _ other ⟨⟩
    rw [List.append_nil]
    exact asked fault rfl
  · intro result passed
    cases result with
    | ok value =>
      apply Procedure.gives_mono (later value)
      rintro last given ⟨fault, failed, spot⟩
      exact given fault failed spot
    | error fault =>
      rintro ⟨_, same, spot⟩
      cases same
      exact passed ⟨fault, rfl, spot⟩

theorem thrifty_table_bind {next : Table → Step β}
    (later : ∀ table, Step.Thrifty due (next table)) :
    Step.Thrifty due (Step.table >>= next) :=
  fun session => .inl ⟨rfl, later session.table⟩

theorem thrifty_require_bind {ε : Type} {answer : Except ε α} {fault : ε → ActionFault}
    {next : α → Step β} (refused : ∀ reason, answer = .error reason → due [] (fault reason))
    (later : ∀ value, answer = .ok value → Step.Thrifty due (next value)) :
    Step.Thrifty due (Step.require answer fault >>= next) := by
  cases answer with
  | ok value => exact later value rfl
  | error reason => exact thrifty_throw (refused reason rfl)

/-- Whoever finds the token taken has asked nothing. -/
theorem thrifty_exclusively {step : Step α} (busy : due [] .busy)
    (thrifty : Step.Thrifty due step) : Step.Thrifty due (Step.exclusively step) := by
  intro session
  refine .inl ⟨rfl, ?_⟩
  by_cases free : session.take.2
  · simp only [free, ↓reduceIte]
    apply Procedure.thrifty_bind thrifty
    · intro heard result _ asked _
      refine .inl ⟨rfl, ?_⟩
      intro _ fault failed
      rw [List.append_nil]
      exact asked fault failed
    · exact fun _ passed _ => passed
  · simp only [free, Bool.false_eq_true, ↓reduceIte]
    exact thrifty_throw busy

/-- A call that needs no signature is one exchange. -/
theorem thrifty_call_bind {settings : Settings} {call : CoordinatorCall}
    {next : call.Reply → Step β} (openCall : call.purpose? = none)
    (later : ∀ reply, Step.Thrifty
      (fun heard => due (⟨.coordinator none call, Except.ok reply⟩ :: heard)) (next reply)) :
    Step.Thrifty due (settings.call call >>= next) := by
  simp only [Settings.call]
  split
  · rintro (fault | reply)
    · rintro ⟨_, failed, spot⟩
      cases failed
      exact absurd spot (by simp [ActionFault.isPrecondition])
    · exact later reply
  · rename_i purpose labelled
    exact absurd (openCall.symm.trans labelled) (by simp)

end Step

/-! ## Refused intents -/

theorem checkOpponents_ne_notJoined (hero : Address) (seen opponents : List Address) :
    checkOpponents hero seen opponents ≠ .error .notJoined := by
  induction opponents generalizing seen with
  | nil => simp [checkOpponents]
  | cons opponent rest hypothesis =>
    simp only [checkOpponents]
    split
    · simp
    · split
      · simp
      · split
        · simp
        · exact hypothesis _

/-- The check of the seats does not look at who has joined. -/
theorem seatsFor_ne_notJoined (mode : PlayMode) (hero : Address) (opponents : List Address) :
    seatsFor mode hero opponents ≠ .error .notJoined := by
  simp only [seatsFor]
  split
  · simp
  · intro missing
    rcases checked : checkOpponents hero [hero] (opponents.map Text.trim) with fault | _
    · rw [checked, Except.map, Except.error.injEq] at missing
      exact checkOpponents_ne_notJoined hero _ _ (missing ▸ checked)
    · simp [checked, Except.map] at missing

/-- Whether a fault is one that a start finds in a lobby: outside a solo session, any that has to do
with seats when no opponents are named, and otherwise that the hero has not joined. -/
def Intent.LooksUp (intent : Intent) (mode : PlayMode) (fault : ActionFault) : Prop :=
  mode.isSolo = false ∧ ∃ opponents reason, intent = .start opponents ∧ fault = .seating reason ∧
    (opponents = [] ∨ reason = .notJoined)

/-- What an intent has asked when it is refused: nothing, or a lobby where the fault is found in
one. -/
def Intent.Asks (intent : Intent) (mode : PlayMode) (heard : List Exchange) (fault : ActionFault) :
    Prop :=
  (¬intent.LooksUp mode fault → heard = []) ∧
    (intent.LooksUp mode fault → ∃ tableId lobby,
      heard = [⟨.coordinator none (.lobby tableId), .ok lobby⟩])

namespace Intent

variable {intent : Intent} {mode : PlayMode} {fault : ActionFault}

theorem asks_nothing (alone : ¬intent.LooksUp mode fault) : intent.Asks mode [] fault :=
  ⟨fun _ => rfl, fun looks => absurd looks alone⟩

theorem asks_lobby (looks : intent.LooksUp mode fault) (tableId : UInt32) (lobby : Lobby) :
    intent.Asks mode [⟨.coordinator none (.lobby tableId), .ok lobby⟩] fault :=
  ⟨fun alone => absurd looks alone, fun _ => ⟨tableId, lobby, rfl⟩⟩

theorem not_looksUp_of_kind (other : ∀ reason, fault ≠ .seating reason) :
    ¬intent.LooksUp mode fault := by
  rintro ⟨_, _, reason, _, seating, _⟩
  exact other reason seating

end Intent

namespace Settings

theorem thrifty_seats (settings : Settings) (tableId : UInt32) (opponents : List Address) :
    Step.Thrifty ((Intent.start opponents).Asks settings.mode)
      (settings.seats tableId opponents) := by
  simp only [seats]
  split
  · rename_i unnamed
    simp only [Bool.and_eq_true, Bool.not_eq_true', List.isEmpty_iff] at unnamed
    have looks : ∀ reason,
        (Intent.start opponents).LooksUp settings.mode (.seating reason) :=
      fun reason => ⟨unnamed.1, opponents, reason, rfl, rfl, .inl unnamed.2⟩
    apply Step.thrifty_call_bind rfl
    intro lobby
    apply Step.thrifty_require_bind fun reason _ => Intent.asks_lobby (looks reason) tableId lobby
    intro others _
    apply Step.thrifty_require_bind fun reason _ => Intent.asks_lobby (looks reason) tableId lobby
    intro _ _
    exact Step.thrifty_pure _
  · rename_i given
    apply Step.thrifty_require_bind
    · intro reason failed
      apply Intent.asks_nothing
      rintro ⟨shared, _, _, ⟨⟩, ⟨⟩, rfl | rfl⟩
      · simp [shared] at given
      · exact seatsFor_ne_notJoined _ _ _ failed
    intro seats _
    by_cases solo : settings.mode.isSolo
    · simp only [solo, ↓reduceIte]
      exact Step.thrifty_pure _
    have shared : settings.mode.isSolo = false := by simpa using solo
    simp only [solo, Bool.false_eq_true, ↓reduceIte]
    apply Step.thrifty_table_bind
    intro table
    split
    · exact Step.thrifty_pure _
    apply Step.thrifty_call_bind rfl
    intro lobby
    split
    · exact Step.thrifty_pure _
    · exact Step.thrifty_throw
        (Intent.asks_lobby ⟨shared, opponents, .notJoined, rfl, rfl, .inr rfl⟩ tableId lobby)

theorem thrifty_start (settings : Settings) (tableId : UInt32) (opponents : List Address) :
    Step.Thrifty ((Intent.start opponents).Asks settings.mode)
      (settings.start tableId opponents) := by
  apply Step.thrifty_bind_of_faults (settings.thrifty_seats tableId opponents)
  rintro ⟨seats, named⟩
  exact settings.faults_deal tableId seats named

theorem thrifty_dispatch (settings : Settings) (intent : Intent) :
    Step.Thrifty (intent.Asks settings.mode) (settings.dispatch intent) := by
  apply Step.thrifty_exclusively
  · exact Intent.asks_nothing (Intent.not_looksUp_of_kind nofun)
  apply Step.thrifty_table_bind
  intro table
  apply Step.thrifty_require_bind
  · exact fun _ _ => Intent.asks_nothing (Intent.not_looksUp_of_kind nofun)
  intro _ _
  cases intent with
  | start opponents => exact settings.thrifty_start _ opponents
  | join buyIn => exact Step.thrifty_of_faults (settings.faults_join _ buyIn)
  | bet action =>
    simp only [carryOut]
    split
    · exact Step.thrifty_of_faults (settings.faults_betSolo _ action)
    · exact Step.thrifty_of_faults (settings.faults_betOnChain _ action)
  | reveal street => exact Step.thrifty_of_faults (settings.faults_reveal _ street)
  | showdown => exact Step.thrifty_of_faults (settings.faults_showdown _)

end Settings

namespace World

variable {settings : Settings} {session : Session} {first world : World} {log : List Event}
  {event : Event} {index : Nat} {job : Job} {intent : Intent} {fault : ActionFault}

/-! ## Refusals in a run -/

theorem traffic_elsewhere (elsewhere : ∀ job exchange, event ≠ .moved index job exchange) :
    traffic (log ++ [event]) index = traffic log index := by
  cases event with
  | begun job => exact traffic_begun log index job
  | moved other job exchange =>
    apply traffic_moved_of_ne
    rintro rfl
    exact elsewhere job exchange rfl

theorem traffic_of_absent (run : Run settings first log world)
    (absent : world.running[index]? = none) : traffic log index = [] := by
  induction run with
  | refl => rfl
  | @snoc middle last log event run step hypothesis =>
    have before : middle.running[index]? = none := by
      rcases present : middle.running[index]? with _ | ⟨job, rest⟩
      · rfl
      · rcases step.rest_cases present with ⟨_, ready, _⟩
        simp [absent] at ready
    rw [traffic_elsewhere, hypothesis before]
    rintro job exchange rfl
    rcases step.turn with ⟨_, _, underWay, _, _⟩
    simp [before] at underWay

/-- What is left of an intent is thrifty, counting what has been asked in the run, or it cannot refuse
any more. -/
theorem thrifty_of_run (run : Run settings { session } log world)
    {rest : Procedure Session (Except ActionFault Outcome)}
    (underWay : world.running[index]? = some ⟨.user (.dispatch intent), rest⟩) :
    (rest.Thrifty Step.Refusal fun heard result => ∀ fault, result = .error fault →
        intent.Asks settings.mode (traffic log index ++ heard) fault) ∨
      rest.Gives (fun _ _ => True) fun result => ¬Step.Refusal result := by
  generalize start : ({ session } : World) = first at run
  induction run generalizing rest with
  | refl =>
    subst start
    exact absurd underWay (by simp)
  | @snoc middle last log event run step hypothesis =>
    -- Nothing but its own turns changes what is left of the intent and what it has asked.
    by_cases here : ∃ job exchange, event = .moved index job exchange
    · rcases here with ⟨_, exchange, rfl⟩
      rcases step.turn with ⟨earlier, later, before, turn, ready⟩
      cases underWay.symm.trans ready
      rw [traffic_moved]
      rcases hypothesis before with thriftyBefore | gives
      · rcases thriftyBefore.turn turn with ⟨_, thriftyAfter⟩ | gives
        · left
          simpa only [List.append_assoc] using thriftyAfter
        · exact .inr gives
      · exact .inr (gives.turn turn)
    · have elsewhere : ∀ job exchange, event ≠ .moved index job exchange :=
        fun job exchange same => here ⟨job, exchange, same⟩
      rw [traffic_elsewhere elsewhere]
      rcases before : middle.running[index]? with _ | ⟨other, earlier⟩
      · rcases step.origin underWay with ⟨rfl, rfl⟩ | ⟨_, present, _⟩
        · rw [traffic_of_absent run before]
          exact .inl (settings.thrifty_dispatch intent)
        · simp [before] at present
      · have same := Elsewhere.running ⟨step, elsewhere⟩ before
        cases underWay.symm.trans same
        exact hypothesis before

/-- In every run, whatever the session and the answers, an intent that is refused on the spot has
drawn no nonce in any of its turns. It has asked nothing at all, not the coordinator, the ledger or
the wallet, except for a start that finds the fault in a lobby: that has asked for the lobby and
nothing else. -/
theorem refused_on_the_spot (run : Run settings { session } log world)
    (refused : world.running[index]? =
      some ⟨.user (.dispatch intent), .finish (.error fault)⟩)
    (spot : fault.isPrecondition) :
    (∀ early late job exchange before after, log = early ++ .moved index job exchange :: late →
        Run settings { session } early before →
        Step settings before (.moved index job exchange) after → Run settings after late world →
          after.session.nonces = before.session.nonces) ∧
      (¬intent.LooksUp settings.mode fault → traffic log index = []) ∧
      (intent.LooksUp settings.mode fault → ∃ tableId lobby,
        traffic log index = [⟨.coordinator none (.lobby tableId), .ok lobby⟩]) := by
  constructor
  · intro early late job exchange before after _ toBefore step onwards
    rcases step.turn with ⟨rest, later, underWay, turn, ready⟩
    rcases gives_of_path onwards ready (Procedure.gives_true later) with ⟨_, ends, _⟩
    cases refused.symm.trans ends
    -- The refusal that ends it was still to come after this turn.
    have possible : ¬later.Gives (fun _ _ => True) fun result => ¬Step.Refusal result := by
      intro gives
      rcases gives_of_path onwards ready gives with ⟨_, ends, never⟩
      cases refused.symm.trans ends
      exact never ⟨fault, rfl, spot⟩
    rcases thrifty_of_run toBefore underWay with thrifty | gives
    · rcases thrifty.turn turn with ⟨same, _⟩ | gives
      · exact same
      · exact absurd gives possible
    · exact absurd (gives.turn turn) possible
  · rcases thrifty_of_run run refused with asked | never
    · have asks := asked ⟨fault, rfl, spot⟩ fault rfl
      rw [List.append_nil] at asks
      exact asks
    · exact absurd ⟨fault, rfl, spot⟩ never

end World

/-! ## Refused starts -/

namespace Settings

variable {settings : Settings} {tableId : UInt32} {opponents : List Address} {lobby : Lobby}
  {exchanges : List (Option Exchange)} {fault : ActionFault} {reason : SeatingFault}
  {after : Session}

theorem turns_seats_of_unfit (named : opponents ≠ [])
    (unfit : seatsFor settings.mode settings.hero opponents = .error reason) (state : Session) :
    (settings.seats tableId opponents).run.Turns state [] (.finish (.error (.seating reason)))
      state := by
  have given : opponents.isEmpty = false := by simpa using named
  simp only [seats, given, Bool.and_false, Bool.false_eq_true, ↓reduceIte, unfit]
  exact .refl _ state

theorem turns_seats_of_lobby (shared : settings.mode.isSolo = false)
    (unfit : lobby.opponentsOf settings.hero = .error reason) (state : Session) :
    (settings.seats tableId []).run.Turns state
      [some ⟨.coordinator none (.lobby tableId), Except.ok lobby⟩]
      (.finish (.error (.seating reason))) state := by
  simp only [seats, shared, Bool.not_false, List.isEmpty_nil, Bool.and_self, ↓reduceIte]
  apply (settings.completes_lobby tableId lobby state).bind
  rw [unfit]
  exact .refl _ state

/-- In a session that has just been opened, a start comes to the fault that its seats come to. -/
theorem turns_start_of_refusal
    (turns : (settings.seats tableId opponents).run.Turns (Session.opened tableId).take.1 exchanges
      (.finish (.error fault)) after) :
    (settings.dispatch (.start opponents)).run.Turns (.opened tableId)
      (none :: (none :: exchanges ++ [none])) (.finish (.error fault)) after.giveBack.1 := by
  let state := (Session.opened tableId).take.1
  have check : (Intent.start opponents).check state.table settings.mode settings.hero = .ok () := rfl
  have started : (settings.start tableId opponents).run.Turns state exchanges
      (.finish (.error fault)) after := Procedure.Turns.bind turns _
  have performed : (settings.perform (.start opponents)).run.Turns state (none :: exchanges)
      (.finish (.error fault)) after :=
    (Step.completes_table state).bind
      ((Step.completes_require check .intent state).bind started)
  exact (Step.turns_exclusively rfl performed).append (.cons (.update _ _ after) (.refl _ _))

end Settings

namespace World

/-- The hero as an opponent is refused before anything is asked. -/
theorem refused_on_the_spot_of_own_address :
    ∃ log world, Run .headsUp { session := .opened 7 } log world ∧
      world.running[0]? =
        some ⟨.user (.dispatch (.start ["hero"])), .finish (.error (.seating .selfAsOpponent))⟩ ∧
      (ActionFault.seating .selfAsOpponent).isPrecondition ∧ traffic log 0 = [] := by
  have trimmed : Text.trim "hero" = "hero" := by decide +kernel
  have unfit : seatsFor .headsup "hero" ["hero"] = .error .selfAsOpponent := by
    simp [seatsFor, checkOpponents, trimmed, PlayMode.seatBounds, Except.map]
  have seats := @Settings.turns_seats_of_unfit .headsUp 7 _ _ (by simp) unfit
    (Session.opened 7).take.1
  rcases exists_run_of_dispatch (Settings.turns_start_of_refusal seats) with
    ⟨world, run, refused, _⟩
  have alone : ¬(Intent.start ["hero"]).LooksUp .headsup (.seating .selfAsOpponent) := by
    rintro ⟨_, _, _, ⟨⟩, ⟨⟩, none | none⟩
    · exact absurd none (by simp)
    · exact absurd none (by simp)
  exact ⟨_, world, run, refused, rfl, (refused_on_the_spot run refused rfl).2.1 alone⟩

/-- A start that finds the hero missing in the lobby is refused on the spot after a call. -/
theorem refused_after_lobby :
    ¬∀ (settings : Settings) (session : Session) (log : List Event) (world : World) (index : Nat)
      (intent : Intent) (fault : ActionFault), Run settings { session } log world →
      world.running[index]? = some ⟨.user (.dispatch intent), .finish (.error fault)⟩ →
      fault.isPrecondition → ∀ credentials call answer,
        ⟨.coordinator credentials call, answer⟩ ∉ traffic log index := by
  intro free
  let lobby := gathered []
  have missing : lobby.opponentsOf "hero" = .error .notJoined := by
    have wallets : lobby.wallets = [villain] := Lobby.wallets_of_sorted (by decide)
    rw [Lobby.opponentsOf, wallets, if_neg (by decide +kernel)]
  have seats := @Settings.turns_seats_of_lobby .headsUp 7 _ _ rfl missing (Session.opened 7).take.1
  rcases exists_run_of_dispatch (Settings.turns_start_of_refusal seats) with
    ⟨world, run, refused, _⟩
  have asked := free .headsUp (.opened 7) _ world 0 _ _ run refused rfl none (.lobby 7) (.ok lobby)
  exact asked (by simp [traffic, Event.exchangeOf?])

end World

end Holdem
