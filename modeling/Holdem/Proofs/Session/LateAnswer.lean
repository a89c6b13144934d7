import Holdem.Proofs.Session.Operation
import Holdem.Proofs.Session.Schedule
import Holdem.Proofs.Table.Completion

/-!
# Answers that come late

Requests may take minutes, and the table is polled meanwhile. Outside a solo session other players
can finish the hand and begin the next one before a bet, a reveal or a showdown is answered. The
answer then completes on a snapshot of the new hand.

Here is what such a completion does, whatever polls have made of the snapshot: it leaves the hand as
it finds it exactly when it is idle there. The number of the hand makes no difference to it.
-/

namespace Holdem

def Completion.Of : Completion → Intent → Prop
  | .bet action _, .bet wanted => action = wanted
  | .reveal street _ _ _, .reveal wanted => street = wanted
  | .showdown _ _ _, .showdown => True
  | _, _ => False

def Procedure.isWaiting {σ α : Type} : Procedure σ α → Bool
  | .ask _ _ => true
  | _ => false

/-- The intents that are submitted first and completed when the answer arrives. -/
def Intent.isSubmitted : Intent → Bool
  | .bet _ | .reveal _ | .showdown => true
  | .start _ | .join _ => false

/-- A submitted intent changes the snapshot only by its completion. -/
def completing (settings : Settings) (dispatched : Option Intent) : Discipline Table where
  invariant _ := True
  permits before after := ∀ intent, dispatched = some intent → intent.isSubmitted →
    after = before ∨
      ∃ completion : Completion, completion.Of intent ∧
        completion.enter? settings.mode settings.arithmetic settings.hero before = some after
  permits_refl _ _ _ _ := .inl rfl
  mayBreak := True

theorem completing_admits {settings : Settings} {intent : Intent} {change : Table → Table}
    (completes : ∀ table, ∃ completion : Completion, completion.Of intent ∧
      completion.enter? settings.mode settings.arithmetic settings.hero table =
        some (change table)) :
    (completing settings (some intent)).Admits change := by
  intro table _
  refine ⟨trivial, ?_⟩
  rintro _ ⟨⟩ _
  exact .inr (completes table)

theorem completing_admitsPartial {settings : Settings} {intent : Intent}
    {change : Table → Option (Table × α)}
    (completes : ∀ {table after : Table} {result : α}, change table = some (after, result) →
      ∃ completion : Completion, completion.Of intent ∧
        completion.enter? settings.mode settings.arithmetic settings.hero table = some after) :
    (completing settings (some intent)).AdmitsPartial change := by
  intro table _
  rcases changed : change table with _ | ⟨after, result⟩
  · trivial
  · refine ⟨trivial, ?_⟩
    rintro _ ⟨⟩ _
    exact .inr (completes changed)

namespace Settings

theorem keeps_completing (settings : Settings) (shared : settings.mode.isSolo = false) (job : Job) :
    (settings.procedure job).Keeps
      (completing settings job.intent?).onTable := by
  by_cases submits : ∃ intent, job.intent? = some intent ∧ intent.isSubmitted
  · rcases submits with ⟨intent, dispatched, submitted⟩
    rw [Job.eq_of_intent? dispatched]
    apply Step.keeps_exclusively
    apply settings.keeps_perform
    intro asked _
    cases intent with
    | start | join => exact absurd submitted (by simp [Intent.isSubmitted])
    | bet action =>
      simp only [carryOut, shared, Bool.false_eq_true, ↓reduceIte]
      apply settings.keeps_betOnChain
      intro transaction
      apply completing_admitsPartial
      intro table after _ applied
      exact ⟨.bet action transaction, rfl, Table.applyAccepted?_of_map applied⟩
    | reveal street =>
      apply settings.keeps_reveal
      intro cards size transaction _
      apply completing_admits
      intro table
      exact ⟨.reveal street cards size transaction, rfl, rfl⟩
    | showdown =>
      apply settings.keeps_showdown
      intro winner size transaction
      apply completing_admits
      intro table
      exact ⟨.showdown winner size transaction, trivial, rfl⟩
  · apply Procedure.keeps_of_permissive
    · exact fun _ => trivial
    · intro before after intent dispatched submitted
      exact absurd ⟨intent, dispatched, submitted⟩ submits
    · trivial

end Settings

/-- No operation brings an amount that is lost when it is kept again. -/
theorem Operation.kept {settings : Settings} {job : Job} {before after : Table}
    (operation : Operation settings job before after) (kept : before.Kept settings.arithmetic) :
    after.Kept settings.arithmetic := by
  cases operation with
  | leave | hash | proof => exact ⟨kept.pot, kept.bets⟩
  | begin _ seats => exact Table.kept_beginHand ..
  | store => exact kept.updatePlayer kept.pot fun _ fits => fits
  | seat _ _ seat buyIn => exact kept.takeSeat settings.hero seat buyIn
  | street street cards size transaction => exact kept.showStreet street cards size transaction
  | decision winner size transaction => exact kept.decide settings.mode winner size transaction
  | accepted applied =>
    rcases Table.applyAccepted?_cases applied with ⟨acted, moved, acts, rfl⟩
    have actedKept := kept.act? acts
    exact ⟨actedKept.pot, actedKept.bets⟩
  | opening opened =>
    rcases Settings.openSoloBet_cases opened with ⟨acted, moved, acts, shape⟩
    have actedKept : acted.markUnconfirmed.Kept settings.arithmetic :=
      ⟨(kept.act? acts).pot, (kept.act? acts).bets⟩
    rcases shape with rfl | ⟨winner, rfl⟩
    · exact actedKept
    · exact actedKept.settle winner
  | closing closed =>
    rcases Settings.closeSoloBet_cases closed with ⟨acted, moved, acts, rfl | ⟨winner, rfl⟩⟩
    · exact kept.act? acts
    · exact (kept.act? acts).settle winner
  | turn => exact Table.kept_opened ..
  | merge _ raw poll read =>
    exact kept.merge settings.mode (Poll.kept_of_ofText? settings.arithmetic read)

namespace World

variable {settings : Settings} {tableId : UInt32} {log : List Event} {world next : World}

theorem Run.kept_table (run : Run settings (opened tableId) log world) :
    world.session.table.Kept settings.arithmetic := by
  induction run with
  | refl => exact Table.kept_opened ..
  | snoc path step hypothesis =>
    rcases operation_of_step path step with same | ⟨_, _, _, _, operation⟩
    · rw [same]
      exact hypothesis
    · exact operation.kept hypothesis

/-- Outside a solo session, in every run, each turn of a submitted bet, reveal or showdown leaves the
snapshot alone or completes the intent, whatever hand the snapshot is of by then. A completion
leaves phase, board, pot, players and winner as it finds them exactly when it is idle. -/
theorem turn_of_submitted (shared : settings.mode.isSolo = false)
    (run : Run settings (opened tableId) log world) {index : Nat} {intent : Intent}
    {exchange : Option Exchange}
    (turn : Step settings world (.moved index (.user (.dispatch intent)) exchange) next)
    (submitted : intent.isSubmitted) :
    next.session.table = world.session.table ∨
      ∃ completion : Completion, completion.Of intent ∧
        completion.enter? settings.mode settings.arithmetic settings.hero world.session.table =
          some next.session.table ∧
        (world.session.table.SameHand next.session.table ↔
          completion.Idle settings.arithmetic settings.hero world.session.table) := by
  have same : ∀ job : Job, (completing settings job.intent?).onTable.invariant =
      fun _ => True := fun _ => rfl
  have jobs := settings.keeps_completing shared
  rcases run.keeps same jobs trivial (keeps_opened tableId) with ⟨_, kept⟩
  rcases turn.keeps same trivial kept with ⟨⟨_, permitted⟩, _⟩
  rcases permitted intent rfl submitted with unchanged | ⟨completion, completes, entered⟩
  · exact .inl unchanged
  · exact .inr ⟨completion, completes, entered,
      completion.sameHand_iff shared run.kept_table entered⟩

/-! ## Between two hands -/

/-- Everything goes well for the hero, and the table is published with this phase and hand. -/
def publishing (phase hand : String) : Answers :=
  .granting ("\x7b\"phase\":\"" ++ phase ++ "\",\"hand_number\":" ++ hand ++ "\x7d")

/-- A hand is polled, an intent is submitted in it, and before the answer the next hand is polled. -/
def overtaking (phase : String) (intent : Intent) (next : String) : List Move :=
  Move.alone .poll 0 3 (publishing phase "1") ++
    Move.alone (.user (.dispatch intent)) 1 5 (publishing next "2") ++
    Move.alone .poll 2 3 (publishing next "2")

/-- A flop of the hand before is not laid while the next hand waits for its cards. -/
theorem late_flop_is_idle :
    ∃ log world exchange next, Run .headsUp (opened 7) log world ∧
      Step .headsUp world (.moved 1 (.user (.dispatch (.reveal .flop))) exchange) next ∧
      world.session.table.handNumber = 2 ∧ next.session.table.confirmed = false ∧
      world.session.table.SameHand next.session.table := by
  let moves := overtaking "Preflop" (.reveal .flop) "Waiting" ++ [.turn 1 (publishing "Waiting" "2")]
  have run := run_scheduled .headsUp 7 moves
  have taken : (play .headsUp (fun _ _ _ => true) (scheduled .headsUp 7 moves).2
      [.turn 1 .offline]).1.any (Event.isOf fun job => job.intent? = some (.reveal .flop)) := by
    decide +kernel
  rcases exists_step_of_intent taken with ⟨exchange, turn⟩
  refine ⟨_, _, _, _, run, turn, by decide +kernel, by decide +kernel, ?_⟩
  have waiting : (scheduled .headsUp 7 moves).2.session.table.phase = .waiting := by
    decide +kernel
  rcases turn_of_submitted rfl run turn rfl with unchanged | ⟨completion, completes, _, same⟩
  · rw [unchanged]
    exact .refl _
  · apply same.mpr
    cases completion with
    | bet | showdown => exact completes.elim
    | reveal street =>
      rw [show street = .flop from completes]
      simp [Completion.Idle, waiting, Street.requestedFrom, Street.phase]

def onRiver : World :=
  (scheduled .headsUp 7 (Move.alone .poll 0 3 (publishing "River" "1"))).2

/-- The showdown of the hand is asked for, and a poll has been answered. -/
def showdownAsked : World :=
  (play .headsUp (fun _ _ _ => true)
    { onRiver with
      running := onRiver.running ++
        [⟨.user (.dispatch .showdown), Settings.headsUp.procedure (.user (.dispatch .showdown))⟩] }
    (List.replicate 5 (.turn 1 .offline) ++ Move.alone .poll 2 2 (publishing "Preflop" "2"))).2

/-- The poll is merged, and it tells of the next hand. -/
def nextHandPolled : World :=
  (play .headsUp (fun _ _ _ => true) showdownAsked [.turn 2 .offline]).2

def showdownAnswered : World :=
  (play .headsUp (fun _ _ _ => true) nextHandPolled
    (List.replicate 3 (.turn 1 (publishing "Preflop" "2")))).2

/-- A showdown settles the hand after its own, when that is polled before the answer. -/
theorem late_showdown_settles_next_hand :
    ¬∀ (settings : Settings) (tableId : UInt32) (log later last : List Event)
      (before begun asking raised world next : World) (intent : Intent) (polling : Job)
      (place index : Nat) (polled exchange : Option Exchange), settings.mode.isSolo = false →
      Run settings (opened tableId) log before → before.running.length = place →
      Step settings before (.begun (.user (.dispatch intent))) begun → intent.isSubmitted →
      Run settings begun later asking →
      (asking.running[place]?.any fun running => running.rest.isWaiting) →
      polling.polls → Step settings asking (.moved index polling polled) raised →
      before.session.table.handNumber < raised.session.table.handNumber →
      Run settings raised last world →
      Step settings world (.moved place (.user (.dispatch intent)) exchange) next →
      world.session.table.SameHand next.session.table := by
  intro separate
  have polls : (play .headsUp (fun _ _ _ => true) showdownAsked [.turn 2 .offline]).1.any
      (Event.isOf Job.polls) := by
    decide +kernel
  have completes : (play .headsUp (fun _ _ _ => true) showdownAnswered [.turn 1 .offline]).1.any
      (Event.isOf fun job => job.intent? = some .showdown) := by
    decide +kernel
  rcases exists_step_of_turn polls with ⟨polling, polled, isPoll, raise⟩
  rcases exists_step_of_intent completes with ⟨exchange, turn⟩
  have same := separate .headsUp 7 _ _ _ onRiver _ showdownAsked nextHandPolled showdownAnswered _
    .showdown polling 1 2 polled exchange rfl
    (run_scheduled .headsUp 7 _) (by decide +kernel) (.begin onRiver _) rfl (run_play .headsUp _ _)
    (by decide +kernel) isPoll raise (by decide +kernel) (run_play .headsUp _ _) turn
  have preflop : showdownAnswered.session.table.phase = .preflop := by
    decide +kernel
  have settlement : (play .headsUp (fun _ _ _ => true) showdownAnswered
      [.turn 1 .offline]).2.session.table.phase = .settlement := by
    decide +kernel
  have phase := same.phase
  rw [settlement, preflop] at phase
  exact absurd phase (by decide)

end World

end Holdem
