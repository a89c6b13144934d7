import Holdem.Proofs.Session.AcceptedBet
import Holdem.Proofs.Session.StaleCards
import Holdem.Proofs.Table.Turn

/-!
# The turn that was shown

Outside a solo session the player bets on the turn that the last poll has shown. A bet that is
accepted does not move the turn on, so the hero may bet again, and is only kept from it by folding,
by the end of the betting rounds, or by a snapshot in which it was no longer the hero's turn when the
bet was applied. Until the next poll or the next hand nothing else changes who may bet.

An intent that no snapshot of a stretch lets pass does nothing in that stretch: it takes the token,
looks, and gives the token back. That is how bets are kept from being submitted, and it also keeps
the hero from taking a seat anew while a round is played.
-/

namespace Holdem

/-! ## Intents that are refused -/

/-- A snapshot refuses intents of some kind when none of them passes its check. -/
def Table.Refuses (settings : Settings) (kind : Intent → Prop) (table : Table) : Prop :=
  ∀ intent, kind intent → intent.check table settings.mode settings.hero ≠ .ok ()

namespace Procedure

variable {closed : Table → Prop} {α β : Type}

/-- A procedure asks nothing and leaves the snapshot alone, as long as it finds it closed. -/
def Declines (closed : Table → Prop) : Procedure Session α → Prop
  | .finish _ | .stuck => True
  | .update change resume => ∀ session, closed session.table →
      (change session).table = session.table ∧ (resume session).Declines closed
  | .ask _ _ => False

theorem declines_bind {procedure : Procedure Session α} {next : α → Procedure Session β}
    (first : procedure.Declines closed) (later : ∀ result, (next result).Declines closed) :
    (procedure.bind next).Declines closed := by
  induction procedure with
  | finish result => exact later result
  | stuck => trivial
  | update change resume hypothesis =>
    intro session here
    rcases first session here with ⟨same, rest⟩
    exact ⟨same, hypothesis session rest⟩
  | ask => exact first.elim

theorem declines_release (result : Except ActionFault α) :
    (Step.release result).Declines closed :=
  fun _ _ => ⟨rfl, trivial⟩

theorem Declines.turn {procedure rest : Procedure Session α} {session after : Session}
    {exchange : Option Exchange} (declines : procedure.Declines closed)
    (turn : procedure.Turn session exchange rest after) (here : closed session.table) :
    exchange = none ∧ after.table = session.table ∧ rest.Declines closed := by
  cases turn with
  | update =>
    rcases declines session here with ⟨same, declinesThen⟩
    exact ⟨rfl, same, declinesThen⟩
  | ask => exact declines.elim

end Procedure

theorem Settings.declines_dispatch (settings : Settings) {kind : Intent → Prop} {intent : Intent}
    (ofKind : kind intent) :
    (settings.dispatch intent).run.Declines (Table.Refuses settings kind) := by
  have performs : (settings.perform intent).run.Declines (Table.Refuses settings kind) := by
    intro session refuses
    refine ⟨rfl, ?_⟩
    change Procedure.Declines _ (ExceptT.run (Step.require
      (intent.check session.table settings.mode settings.hero) .intent >>=
        fun _ => settings.carryOut session.table.tableId intent))
    rcases checked : intent.check session.table settings.mode settings.hero with fault | _
    · trivial
    · exact absurd checked (refuses intent ofKind)
  intro session _
  refine ⟨rfl, ?_⟩
  by_cases free : session.take.2
  · simp only [free, ↓reduceIte]
    exact Procedure.declines_bind performs Procedure.declines_release
  · simp only [free, Bool.false_eq_true, ↓reduceIte]
    trivial

namespace World

variable {settings : Settings} {session : Session} {kind : Intent → Prop} {log since : List Event}
  {first world next last : World} {event : Event} {index : Nat} {action : Action}
  {transaction : Option String}

/-- What is left of each intent of some kind does nothing at a snapshot that refuses them. -/
def Declines (settings : Settings) (kind : Intent → Prop) (world : World) : Prop :=
  ∀ intent (rest : Procedure Session (Except ActionFault Outcome)), kind intent →
    ⟨.user (.dispatch intent), rest⟩ ∈ world.running → rest.Declines (Table.Refuses settings kind)

theorem Declines.step (declines : world.Declines settings kind)
    (refuses : world.session.table.Refuses settings kind) (step : Step settings world event next) :
    next.Declines settings kind ∧ ∀ index intent exchange, kind intent →
      event = .moved index (.user (.dispatch intent)) exchange →
        exchange = none ∧ next.session.table = world.session.table := by
  cases step with
  | begin job =>
    refine ⟨?_, fun _ _ _ _ moved => absurd moved (by simp)⟩
    intro intent rest ofKind member
    rcases List.mem_append.mp member with old | new
    · exact declines intent rest ofKind old
    · cases List.mem_singleton.mp new
      exact settings.declines_dispatch ofKind
  | @move index job before after exchange session underWay _ turn =>
    refine ⟨?_, ?_⟩
    · intro intent rest ofKind member
      rcases List.mem_or_eq_of_mem_set member with old | new
      · exact declines intent rest ofKind old
      · cases new
        have declinesBefore := declines intent before ofKind (List.mem_of_getElem? underWay)
        exact (declinesBefore.turn turn refuses).2.2
    · rintro _ intent _ ofKind ⟨⟩
      have declinesBefore := declines intent before ofKind (List.mem_of_getElem? underWay)
      rcases declinesBefore.turn turn refuses with ⟨silent, same, _⟩
      exact ⟨silent, same⟩

/-- Where a bet has just been applied nothing else has passed its check. -/
theorem Applied.declines (applied : Applied settings index action transaction world next)
    (run : Run settings { session } log world) (free : session.busy = false) :
    next.Declines settings kind := by
  have runThen : Run settings { session } _ next := run.snoc applied.step
  rcases runThen.exclusive free with ⟨holder, exclusive⟩
  have turned : Turned (log ++ [.moved index (.user (.dispatch (.bet action))) none]) index :=
    turned_moved.mpr (.inr rfl)
  have holds : holder = some index :=
    exclusive.acts_iff.mp ⟨turned, _, _, applied.released, by simp [Step.release]⟩
  intro intent rest ofKind member
  rcases List.getElem?_of_mem member with ⟨place, underWay⟩
  -- the bet has only the token to give back, and nobody else has had it
  by_cases here : place = index
  · subst here
    cases underWay.symm.trans applied.released
    exact Procedure.declines_release _
  · have apart : holder ≠ some place := by
      rw [holds]
      exact fun same => here (Option.some.inj same).symm
    cases exclusive.outside place _ apart underWay with
    | fresh => exact settings.declines_dispatch ofKind
    | ended => trivial

end World

/-! ## What becomes of a turn -/

/-- Whoever has a seat taken where no round is played, and has no poll merged and no hand begun, keeps
what there is of the hero's turn. -/
theorem Operation.keepsTurn {settings : Settings} {job : Job} {before after : Table}
    (operation : Operation settings job before after) (unpolled : ¬job.polls)
    (uncounted : job.deals → after.handNumber = before.handNumber)
    (unseated : job.joins → before.phase.isBettingRound = false) :
    Table.KeepsTurn settings.hero before after := by
  have acted : ∀ {address : Address} {action : Action} {acted : Table} {moved : Chips},
      before.act? settings.arithmetic address action = some (acted, moved) →
        Table.KeepsTurn settings.hero before acted := Table.keepsTurn_act?
  cases operation with
  | leave | hash | proof => exact .of_same id rfl rfl
  | begin deals seats =>
    rcases before.beginHand_frame settings.mode settings.hero seats settings.buyIn
      settings.soloStack with ⟨players, eq⟩
    have same := uncounted deals
    rw [eq] at same
    exact absurd same before.clearedForHand_handNumber_ne
  | store _ cards => exact before.keepsTurn_storeHole cards
  | seat joins _ seat buyIn =>
    rcases before.takeSeat_frame settings.hero seat buyIn with ⟨players, eq⟩
    rw [eq]
    exact .of_ended (unseated joins)
  | street street cards size transaction =>
    exact before.keepsTurn_showStreet street cards size transaction
  | decision winner size transaction =>
    apply Table.KeepsTurn.of_ended
    simp only [Table.decide]
    split
    · rfl
    · rfl
  | accepted applied =>
    rcases Table.applyAccepted?_cases applied with ⟨table, moved, acts, rfl⟩
    exact (acted acts).trans (.of_same id rfl rfl)
  | opening opened =>
    rcases Settings.openSoloBet_cases opened with ⟨table, moved, acts, rfl | ⟨winner, rfl⟩⟩
    · exact (acted acts).trans (.of_same id rfl rfl)
    · exact .of_ended rfl
  | closing closed =>
    rcases Settings.closeSoloBet_cases closed with ⟨table, moved, acts, rfl | ⟨winner, rfl⟩⟩
    · exact acted acts
    · exact .of_ended rfl
  | turn => exact .of_ended rfl
  | merge polls => exact absurd polls unpolled

def Intent.Joins (intent : Intent) : Prop :=
  ∃ buyIn, intent = .join buyIn

def Intent.Bets (intent : Intent) : Prop :=
  ∃ action, intent = .bet action

namespace Table

variable {settings : Settings} {table : Table}

theorem refuses_joins (betting : table.phase.isBettingRound) :
    table.Refuses settings Intent.Joins := by
  rintro _ ⟨buyIn, rfl⟩ passed
  have playing : table.phase.isHandBoundary = false := by
    cases phase : table.phase <;> simp_all [Phase.isBettingRound, Phase.isHandBoundary]
  simp only [Intent.check, playing] at passed
  split at passed
  · exact absurd passed (by simp)
  · split at passed
    · exact absurd passed (by simp)
    · exact absurd passed (by simp)

theorem refuses_bets (shared : settings.mode.isSolo = false)
    (closed : ¬table.LetsBet settings.hero) : table.Refuses settings Intent.Bets := by
  rintro _ ⟨action, rfl⟩ passed
  exact closed ((check_bet_eq_ok_iff shared).mp passed).2

end Table

namespace World

variable {settings : Settings} {session : Session} {log since : List Event}
  {first before after last : World} {event : Event}

/-- A step that brings no news of the table: no poll is merged and no hand begun. -/
def WithoutNews (settings : Settings) (before : World) (event : Event) (after : World) : Prop :=
  Step settings before event after ∧ ∀ index job exchange, event = .moved index job exchange →
    (job.polls → after.session.table = before.session.table) ∧
      (job.deals → after.session.table.handNumber = before.session.table.handNumber)

theorem WithoutNews.keepsTurn (step : WithoutNews settings before event after)
    (run : Run settings { session } log before)
    (unseated : ∀ index job exchange, event = .moved index job exchange → job.joins →
      after.session.table = before.session.table ∨
        before.session.table.phase.isBettingRound = false) :
    Table.KeepsTurn settings.hero before.session.table after.session.table := by
  have same : after.session.table = before.session.table →
      Table.KeepsTurn settings.hero before.session.table after.session.table := by
    intro same
    rw [same]
    exact .refl _
  rcases operation_of_step run step.1 with unchanged | ⟨index, job, exchange, rfl, operation⟩
  · exact same unchanged
  rcases step.2 index job exchange rfl with ⟨polled, counted⟩
  by_cases polls : job.polls
  · exact same (polled polls)
  by_cases joins : job.joins
  · rcases unseated index job exchange rfl joins with unchanged | ended
    · exact same unchanged
    · exact operation.keepsTurn polls counted fun _ => ended
  · exact operation.keepsTurn polls counted fun here => absurd here joins

/-- Along a stretch without news the hero keeps what there was of a turn, and as long as a round is
played no join gets past its check. -/
theorem keepsTurn_of_path (run : Run settings { session } log first)
    (declines : first.Declines settings Intent.Joins)
    (path : Path (WithoutNews settings) first since last) :
    Table.KeepsTurn settings.hero first.session.table last.session.table ∧
      (last.session.table.phase.isBettingRound → last.Declines settings Intent.Joins) := by
  induction path with
  | refl => exact ⟨.refl _, fun _ => declines⟩
  | @snoc middle last since event path step hypothesis =>
    rcases hypothesis with ⟨kept, declinesBefore⟩
    have runThen : Run settings { session } _ middle := run.append (path.mono And.left)
    -- a join is refused while a round is played, and takes a seat only where none will be any more
    by_cases betting : middle.session.table.phase.isBettingRound
    · rcases (declinesBefore betting).step (Table.refuses_joins betting) step.1 with
        ⟨declinesThen, still⟩
      refine ⟨kept.trans (step.keepsTurn runThen ?_), fun _ => declinesThen⟩
      rintro index job exchange rfl joins
      rcases Job.exists_join_of_joins joins with ⟨buyIn, rfl⟩
      exact .inl (still index _ exchange ⟨buyIn, rfl⟩ rfl).2
    · have ended : middle.session.table.phase.isBettingRound = false := by simpa using betting
      have keptThen := step.keepsTurn runThen fun _ _ _ _ _ => .inr ended
      exact ⟨kept.trans keptThen, fun now => absurd (keptThen now).betting betting⟩

/-- Along a stretch without news no bet is submitted, unless its first snapshot lets the hero bet. -/
theorem not_submitted_of_path (shared : settings.mode.isSolo = false)
    (run : Run settings { session } log first) (declines : ∀ kind, first.Declines settings kind)
    (closed : ¬first.session.table.LetsBet settings.hero)
    (path : Path (WithoutNews settings) first since last) :
    last.Declines settings Intent.Bets ∧ ∀ index action heard,
      Event.moved index (.user (.dispatch (.bet action))) (some heard) ∉ since := by
  induction path with
  | refl => exact ⟨declines _, fun _ _ _ => List.not_mem_nil⟩
  | @snoc middle last since event path step hypothesis =>
    rcases hypothesis with ⟨declinesBefore, silent⟩
    have kept := (keepsTurn_of_path run (declines _) path).1
    have still : ¬middle.session.table.LetsBet settings.hero :=
      fun lets => closed (kept.letsBet_iff.mp lets).1
    rcases declinesBefore.step (Table.refuses_bets shared still) step.1 with ⟨declinesThen, mute⟩
    refine ⟨declinesThen, ?_⟩
    intro index action heard member
    rcases List.mem_append.mp member with early | now
    · exact silent index action heard early
    · have asked := (mute index (.bet action) (some heard) ⟨action, rfl⟩
        (List.mem_singleton.mp now).symm).1
      exact absurd asked (by simp)

/-- Until a poll is merged or a hand begun, the player goes by the turn that a snapshot shows: a bet
passes its check exactly when it names no bad amount, that snapshot lets the hero bet, a round is
still played and the hero has not folded since. Where it does not let the hero bet, bets ask nothing
of anyone, and so none is submitted. -/
def GoesByTurn (settings : Settings) (shown : World) : Prop :=
  ∀ since world, Path (WithoutNews settings) shown since world →
    (∀ action : Action,
      (Intent.bet action).check world.session.table settings.mode settings.hero = .ok () ↔
        Intent.isBadAmount action.amount? = false ∧ shown.session.table.LetsBet settings.hero ∧
          world.session.table.phase.isBettingRound ∧
          ∃ player, world.session.table.player? settings.hero = some player ∧
            player.folded = false) ∧
    (¬shown.session.table.LetsBet settings.hero → ∀ index action heard,
      Event.moved index (.user (.dispatch (.bet action))) (some heard) ∉ since)

/-- A bet that has returned was applied to the snapshot of some moment in the run. The hero may still
bet there exactly when that was so before and the bet was no fold, and from then on the player goes
by that turn. -/
theorem bet_after_acted (shared : settings.mode.isSolo = false) (free : session.busy = false)
    (run : Run settings { session } log last) {index : Nat} {action : Action} {outcome : Outcome}
    (returned : last.running[index]? =
      some ⟨.user (.dispatch (.bet action)), .finish (.ok outcome)⟩) :
    ∃ transaction early late before after, outcome = .acted action transaction ∧
      log = early ++ .moved index (.user (.dispatch (.bet action))) none :: late ∧
      Run settings { session } early before ∧
      Applied settings index action transaction before after ∧ Run settings after late last ∧
      (after.session.table.LetsBet settings.hero ↔
        action ≠ .fold ∧ before.session.table.LetsBet settings.hero) ∧
      GoesByTurn settings after := by
  rcases exists_applied shared run returned with
    ⟨transaction, early, late, before, after, same, split, toBefore, applied, onwards⟩
  refine ⟨transaction, early, late, before, after, same, split, toBefore, applied, onwards,
    Table.letsBet_applyAccepted?_iff applied.applied, ?_⟩
  intro since world path
  have declines : ∀ kind, after.Declines settings kind := fun _ => applied.declines toBefore free
  have toAfter : Run settings { session } _ after := toBefore.snoc applied.step
  refine ⟨?_, fun closed => (not_submitted_of_path shared toAfter declines closed path).2⟩
  intro action
  rw [Table.check_bet_eq_ok_iff shared, (keepsTurn_of_path toAfter (declines _) path).1.letsBet_iff]

end World

/-! ## Two bets on one turn -/

/-- The coordinator accepts bets as well as deals and joins. -/
def Answers.accepting : Answers
  | .coordinator _ (.act _ action) =>
    .ok { status := "ok", action := action.label, player := "hero" }
  | request => Answers.hosting "" request

def Event.submitsBet : Event → Bool
  | .moved _ (.user (.dispatch (.bet action))) (some ⟨.coordinator _ (.act _ sent), _⟩) =>
    sent = action
  | _ => false

namespace World

def returnedBet? (world : World) (index : Nat) : Option Action :=
  match world.running[index]? with
  | some ⟨.user (.dispatch (.bet action)), .finish (.ok _)⟩ => some action
  | _ => none

theorem returned_of_returnedBet? {world : World} {index : Nat} {action : Action}
    (returned : world.returnedBet? index = some action) :
    ∃ outcome, world.running[index]? =
      some ⟨.user (.dispatch (.bet action)), .finish (.ok outcome)⟩ := by
  simp only [returnedBet?] at returned
  split at returned
  · rename_i other outcome underWay
    cases returned
    exact ⟨outcome, underWay⟩
  · cases returned

/-- The hero, whose turn is shown, bets in the hand that has been dealt. -/
def onTurn (action : Action) : World :=
  (play .headsUp (fun _ _ _ => true) (dealt false)
    (Move.alone (.user (.dispatch (.bet action))) 2 7 .accepting)).2

def acted (action : Action) : World :=
  (play .headsUp (fun _ _ _ => true) (onTurn action) [.turn 2 .offline]).2

theorem exists_run_onTurn (action : Action) :
    ∃ log, Run .headsUp (opened 7) log (onTurn action) := by
  rcases exists_run_dealt false with ⟨_, run⟩
  exact ⟨_, run.append (run_play .headsUp (dealt false) _)⟩

theorem returned_acted {action : Action} (returned : (acted action).returnedBet? 2 = some action) :
    ∃ log outcome, Run .headsUp (opened 7) log (acted action) ∧ (acted action).running[2]? =
      some ⟨.user (.dispatch (.bet action)), .finish (.ok outcome)⟩ := by
  rcases exists_run_onTurn action with ⟨_, run⟩
  rcases returned_of_returnedBet? returned with ⟨outcome, underWay⟩
  exact ⟨_, outcome, run.append (run_play .headsUp (onTurn action) _), underWay⟩

/-- After a fold no bet passes its check and none is submitted. -/
theorem bet_after_acted_of_fold :
    ∃ log outcome transaction before after, Run .headsUp (opened 7) log (acted .fold) ∧
      (acted .fold).running[2]? =
        some ⟨.user (.dispatch (.bet .fold)), .finish (.ok outcome)⟩ ∧
      Applied .headsUp 2 .fold transaction before after ∧
      ∀ since world, Path (WithoutNews .headsUp) after since world →
        (∀ action : Action,
          (Intent.bet action).check world.session.table .headsup "hero" ≠ .ok ()) ∧
        ∀ index action heard,
          Event.moved index (.user (.dispatch (.bet action))) (some heard) ∉ since := by
  have bet : (acted .fold).returnedBet? 2 = some .fold := by decide +kernel
  rcases returned_acted bet with ⟨_, outcome, run, returned⟩
  rcases bet_after_acted rfl rfl run returned with
    ⟨transaction, _, _, before, after, _, _, _, applied, _, lets, turn⟩
  have closed : ¬after.session.table.LetsBet Settings.headsUp.hero := fun still =>
    (lets.mp still).1 rfl
  refine ⟨_, outcome, transaction, before, after, run, returned, applied, ?_⟩
  intro since world path
  rcases turn since world path with ⟨passes, silent⟩
  exact ⟨fun action passed => closed ((passes action).mp passed).2.1, silent closed⟩

def bringsNoNews (event : Event) : Bool :=
  match event with
  | .begun _ => true
  | .moved _ job _ => !job.polls && !job.deals

theorem path_play_withoutNews (settings : Settings) (world : World) (moves : List Move) :
    Path (WithoutNews settings) world
      (play settings (fun _ event _ => bringsNoNews event) world moves).1
      (play settings (fun _ event _ => bringsNoNews event) world moves).2 := by
  apply (path_play settings _ world moves).mono
  rintro before event after ⟨step, quiet⟩
  refine ⟨step, ?_⟩
  rintro index job exchange rfl
  simp only [bringsNoNews, Bool.and_eq_true, Bool.not_eq_true'] at quiet
  exact ⟨fun polls => absurd polls (by simp [quiet.1]), fun deals => absurd deals (by simp [quiet.2])⟩

def bettingAgain : List Move :=
  Move.alone (.user (.dispatch (.bet (.bet 100)))) 3 8 .accepting

/-- The hero bets again on the turn that was shown. -/
theorem bets_again_on_shown_turn :
    ¬∀ (settings : Settings) (tableId : UInt32) (log since : List Event)
      (before after last : World) (index : Nat) (action : Action) (exchange : Option Exchange)
      (outcome : Outcome), settings.mode.isSolo = false → Run settings (opened tableId) log before →
      Step settings before (.moved index (.user (.dispatch (.bet action))) exchange) after →
      after.running[index]? =
        some ⟨.user (.dispatch (.bet action)), .finish (.ok outcome)⟩ →
      Path (WithoutNews settings) after since last → ∀ event ∈ since, ¬event.submitsBet := by
  intro once
  have submits : (play .headsUp (fun _ event _ => bringsNoNews event) (acted (.bet 100))
      bettingAgain).1.any Event.submitsBet := by
    decide +kernel
  have path := path_play_withoutNews .headsUp (acted (.bet 100)) bettingAgain
  rcases exists_run_onTurn (.bet 100) with ⟨_, run⟩
  have returns : ∃ exchange, Step .headsUp (onTurn (.bet 100))
      (.moved 2 (.user (.dispatch (.bet (.bet 100)))) exchange) (acted (.bet 100)) :=
    exists_step_of_intent (by decide +kernel)
  rcases returns with ⟨exchange, step⟩
  have bet : (acted (.bet 100)).returnedBet? 2 = some (.bet 100) := by decide +kernel
  rcases returned_of_returnedBet? bet with ⟨outcome, returned⟩
  rcases List.any_eq_true.mp submits with ⟨event, member, submitted⟩
  exact once .headsUp 7 _ _ _ _ _ 2 (.bet 100) exchange outcome rfl run step returned path event
    member submitted

end World

end Holdem
