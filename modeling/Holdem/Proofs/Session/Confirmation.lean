import Holdem.Proofs.Session.LocalChange
import Holdem.Proofs.Session.Merging
import Holdem.Proofs.Session.Operation
import Holdem.Proofs.Session.Schedule

/-!
# Confirmation

A local change leaves the snapshot unconfirmed until a poll is merged. A poll asks for the state of
the table and merges the answer in two turns, and actions can come in between: what is merged then
was told before the change. Only the table is compared with the session's at the merge.

Here is exactly what confirms a snapshot: the merge of whatever was told of its table, at whichever
earlier moment, and turning to a table.
-/

namespace Holdem

/-! ## The turns of a poll -/

namespace Settings

variable {settings : Settings} {tableId : UInt32} {poll : Poll} {session after : Session}
  {exchange : Option Exchange} {rest : Procedure Session PollOutcome}

theorem turn_looking (turn : settings.poll.Turn session exchange rest after) :
    exchange = none ∧ rest = settings.asking session.table.tableId ∧ after = session := by
  rw [poll_eq] at turn
  cases turn
  exact ⟨rfl, rfl, rfl⟩

theorem turn_asking (turn : (settings.asking tableId).Turn session exchange rest after) :
    ∃ answer, exchange = some ⟨.coordinator none (.state tableId), answer⟩ ∧
      rest = settings.answered tableId answer ∧ after = session := by
  cases turn
  exact ⟨_, rfl, rfl, rfl⟩

theorem turn_merging (turn : (settings.merging tableId poll).Turn session exchange rest after) :
    exchange = none ∧ (∃ outcome, rest = .finish outcome) ∧
      after = if session.table.tableId = tableId then (session.merge settings.mode poll).1
        else session := by
  cases turn
  refine ⟨rfl, ?_, rfl⟩
  dsimp only
  split
  · exact ⟨_, rfl⟩
  · exact ⟨_, rfl⟩

/-- An answer ends a poll or is merged next. -/
theorem answered_cases (settings : Settings) (tableId : UInt32)
    (answer : Except CoordinatorFault StateReply) :
    (∃ outcome, settings.answered tableId answer = .finish outcome) ∨
      ∃ raw poll, answer = .ok { state := raw } ∧ Poll.ofText? raw = some poll ∧
        settings.answered tableId answer = settings.merging tableId poll := by
  rcases answer with fault | reply
  · exact .inl ⟨_, rfl⟩
  rcases read : Poll.ofText? reply.state with _ | poll
  · exact .inl ⟨.unparsed, by simp only [answered, read]⟩
  · exact .inr ⟨reply.state, poll, rfl, read, by simp only [answered, read]⟩

end Settings

/-- How far a poll has come, given what it can have been told of a table. -/
inductive PollStage (settings : Settings) (told : UInt32 → Poll → Prop) :
    Procedure Session PollOutcome → Prop
  | looking : PollStage settings told settings.poll
  | asking (tableId : UInt32) : PollStage settings told (settings.asking tableId)
  | merging {tableId : UInt32} {poll : Poll} (known : told tableId poll) :
    PollStage settings told (settings.merging tableId poll)
  | finished (outcome : PollOutcome) : PollStage settings told (.finish outcome)

theorem PollStage.mono {settings : Settings} {told other : UInt32 → Poll → Prop}
    {rest : Procedure Session PollOutcome} (stage : PollStage settings told rest)
    (wider : ∀ tableId poll, told tableId poll → other tableId poll) :
    PollStage settings other rest := by
  cases stage with
  | looking => exact .looking
  | asking tableId => exact .asking tableId
  | merging known => exact .merging (wider _ _ known)
  | finished outcome => exact .finished outcome

/-- A turn of a poll comes to a stage that was told nothing new, or has just been told. -/
theorem PollStage.turn {settings : Settings} {told other : UInt32 → Poll → Prop}
    {rest next : Procedure Session PollOutcome} {session after : Session}
    {exchange : Option Exchange} (stage : PollStage settings told rest)
    (turn : rest.Turn session exchange next after)
    (hears : ∀ tableId raw poll, exchange = some (Settings.stateAnswered tableId raw) →
      Poll.ofText? raw = some poll → other tableId poll) :
    PollStage settings other next := by
  cases stage with
  | looking =>
    rw [(Settings.turn_looking turn).2.1]
    exact .asking _
  | asking tableId =>
    rcases Settings.turn_asking turn with ⟨answer, asked, rfl, _⟩
    rcases settings.answered_cases tableId answer with
      ⟨outcome, ends⟩ | ⟨raw, poll, rfl, read, merges⟩
    · rw [ends]
      exact .finished outcome
    · rw [merges]
      exact .merging (hears tableId raw poll asked read)
  | merging =>
    rcases (Settings.turn_merging turn).2.1 with ⟨outcome, rfl⟩
    exact .finished outcome
  | finished => cases turn

/-- A poll changes the session only when it goes on with what it was told of the table there. -/
theorem PollStage.told_of_changed {settings : Settings} {told : UInt32 → Poll → Prop}
    {rest next : Procedure Session PollOutcome} {session after : Session}
    {exchange : Option Exchange} (stage : PollStage settings told rest)
    (turn : rest.Turn session exchange next after) (changed : after ≠ session) :
    ∃ poll, told session.table.tableId poll := by
  cases stage with
  | looking => exact absurd (Settings.turn_looking turn).2.2 changed
  | asking =>
    rcases Settings.turn_asking turn with ⟨_, _, _, same⟩
    exact absurd same changed
  | @merging tableId poll known =>
    have merged := (Settings.turn_merging turn).2.2
    by_cases present : session.table.tableId = tableId
    · rw [present]
      exact ⟨poll, known⟩
    · rw [if_neg present] at merged
      exact absurd merged changed
  | finished => cases turn

/-! ## What a poll was told -/

namespace World

variable {settings : Settings} {session : Session} {log : List Event}
  {first before after world next : World} {event : Event} {index : Nat} {tableId : UInt32}
  {raw : String}

/-- A step that is no turn of the job at an index. -/
def Elsewhere (settings : Settings) (index : Nat) (before : World) (event : Event)
    (after : World) : Prop :=
  Step settings before event after ∧ ∀ job exchange, event ≠ .moved index job exchange

/-- A job that takes no turn stays as it is. -/
theorem Elsewhere.running {running : Running} (step : Elsewhere settings index before event after)
    (underWay : before.running[index]? = some running) :
    after.running[index]? = some running := by
  rcases step with ⟨step, others⟩
  cases step with
  | begin job =>
    have within := (List.getElem?_eq_some_iff.mp underWay).1
    rw [List.getElem?_append_left within]
    exact underWay
  | @move other job _ _ exchange =>
    have elsewhere : other ≠ index := by
      rintro rfl
      exact others job exchange rfl
    simp only [afterTurn]
    rw [List.getElem?_set_ne elsewhere]
    exact underWay

theorem running_of_elsewhere {running : Running}
    (path : Path (Elsewhere settings index) first log world)
    (underWay : first.running[index]? = some running) : world.running[index]? = some running := by
  induction path with
  | refl => exact underWay
  | snoc _ step hypothesis => exact step.running hypothesis

/-- The poll at an index was once told a text about a table, and took no turn since. -/
def Fetched (settings : Settings) (session : Session) (index : Nat) (tableId : UInt32)
    (raw : String) (log : List Event) (world : World) : Prop :=
  let told : Event := .moved index .poll (some (Settings.stateAnswered tableId raw))
  ∃ early late asked answered, log = early ++ told :: late ∧ Run settings { session } early asked ∧
    Step settings asked told answered ∧ Path (Elsewhere settings index) answered late world

theorem Fetched.snoc (fetched : Fetched settings session index tableId raw log before)
    (step : Elsewhere settings index before event after) :
    Fetched settings session index tableId raw (log ++ [event]) after := by
  rcases fetched with ⟨early, late, asked, answered, split, run, told, since⟩
  refine ⟨early, late ++ [event], asked, answered, ?_, run, told, since.snoc step⟩
  rw [split, List.append_assoc, List.cons_append]

/-- Every poll that is under way is at one of its stages, and what it is about to merge it was once
told. -/
theorem stage_of_run (run : Run settings { session } log world)
    {rest : Procedure Session PollOutcome}
    (underWay : world.running[index]? = some ⟨.poll, rest⟩) :
    PollStage settings (fun tableId poll => ∃ raw, Poll.ofText? raw = some poll ∧
      Fetched settings session index tableId raw log world) rest := by
  generalize start : ({ session } : World) = first at run
  induction run generalizing rest with
  | refl =>
    rw [← start] at underWay
    exact absurd underWay (by simp)
  | @snoc middle last log event run step hypothesis =>
    subst start
    have stays : (∀ job exchange, event ≠ .moved index job exchange) →
        middle.running[index]? = some ⟨.poll, rest⟩ →
        PollStage settings (fun tableId poll => ∃ raw, Poll.ofText? raw = some poll ∧
          Fetched settings session index tableId raw (log ++ [event]) last) rest := by
      intro others before
      apply (hypothesis before).mono
      rintro tableId poll ⟨raw, read, fetched⟩
      exact ⟨raw, read, fetched.snoc ⟨step, others⟩⟩
    cases step with
    | begin job =>
      by_cases within : index < middle.running.length
      · rw [List.getElem?_append_left within] at underWay
        exact stays (fun _ _ => by simp) underWay
      · rw [List.getElem?_append_right (Nat.le_of_not_lt within)] at underWay
        cases List.mem_singleton.mp (List.mem_of_getElem? underWay)
        exact .looking
    | @move other job before after exchange session underWayBefore free turn =>
      by_cases here : other = index
      · subst here
        have within := (List.getElem?_eq_some_iff.mp underWayBefore).1
        simp only [afterTurn, List.getElem?_set_self within, Option.some.injEq] at underWay
        cases underWay
        apply (hypothesis underWayBefore).turn turn
        rintro tableId raw poll rfl read
        exact ⟨raw, read, log, [], middle, _, rfl, run, .move underWayBefore free turn, .refl _⟩
      · simp only [afterTurn, List.getElem?_set_ne here] at underWay
        refine stays ?_ underWay
        rintro _ _ ⟨⟩
        exact here rfl

/-- What is left of a poll that was told a text. -/
theorem Fetched.running (fetched : Fetched settings session index tableId raw log world) :
    world.running[index]? =
      some ⟨.poll, settings.answered tableId (.ok { state := raw })⟩ := by
  rcases fetched with ⟨early, late, asked, answered, _, run, told, since⟩
  apply running_of_elsewhere since
  cases told with
  | @move _ _ before after _ session underWay free turn =>
    have heard : after = settings.answered tableId (.ok { state := raw }) := by
      cases stage_of_run run underWay with
      | looking => exact absurd (Settings.turn_looking turn).1 (by simp)
      | asking asksAbout =>
        rcases Settings.turn_asking turn with ⟨answer, same, rfl, _⟩
        cases Option.some.inj same
        rfl
      | merging => exact absurd (Settings.turn_merging turn).1 (by simp)
      | finished => cases turn
    rw [heard]
    exact (asked.afterTurn_ready session underWay).1

end World

/-! ## What confirms -/

/-- No operation confirms a snapshot, unless it turns to a table or merges a poll. -/
theorem Operation.unconfirmed_or {settings : Settings} {job : Job} {before after : Table}
    (operation : Operation settings job before after) (unconfirmed : before.confirmed = false) :
    after.confirmed = false ∨ (job.turnsTable ∧ ∃ tableId, after = .opened tableId) ∨
      job.polls := by
  cases operation with
  | leave | hash | proof | store => exact .inl unconfirmed
  | begin deals seats =>
    rcases before.beginHand_frame settings.mode settings.hero seats settings.buyIn
      settings.soloStack with ⟨players, eq⟩
    rw [eq]
    exact .inl rfl
  | seat | street | decision => exact .inl rfl
  | accepted applied =>
    rcases Table.applyAccepted?_cases applied with ⟨acted, moved, acts, rfl⟩
    exact .inl rfl
  | opening opened => exact .inl (Settings.openSoloBet_confirmed opened)
  | closing closed => exact .inl ((Settings.closeSoloBet_confirmed closed).trans unconfirmed)
  | turn turns tableId => exact .inr (.inl ⟨turns, tableId, rfl⟩)
  | merge polls => exact .inr (.inr polls)

namespace World

variable {settings : Settings} {session : Session} {log : List Event} {before after : World}
  {event : Event}

/-- An unconfirmed snapshot is confirmed by a poll that goes on with what it was told of the
session's table, at whichever moment it was told, and by turning to a table; nothing else confirms
it. -/
theorem confirms_iff (run : Run settings { session } log before)
    (step : Step settings before event after)
    (unconfirmed : before.session.table.confirmed = false) :
    after.session.table.confirmed = true ↔
      (∃ index exchange raw, event = .moved index .poll exchange ∧
        Fetched settings session index before.session.table.tableId raw log before) ∨
      ∃ index job exchange, event = .moved index job exchange ∧ job.turnsTable ∧
        ∃ tableId, after.session.table = .opened tableId := by
  constructor
  · intro confirmed
    have changed : after.session ≠ before.session := by
      intro same
      rw [same, unconfirmed] at confirmed
      exact absurd confirmed (by decide)
    cases step with
    | begin => exact absurd rfl changed
    | @move index job _ rest exchange session underWay free turn =>
      have operation := operation_of_move run (.move underWay free turn)
      rcases operation.unconfirmed_or unconfirmed with still | turns | polls
      · rw [still] at confirmed
        exact absurd confirmed (by decide)
      · exact .inr ⟨index, job, exchange, rfl, turns⟩
      · rcases job with _ | _
        · exact absurd polls (by simp [Job.polls])
        rcases (stage_of_run run underWay).told_of_changed turn changed with
          ⟨poll, raw, _, fetched⟩
        exact .inl ⟨index, exchange, raw, rfl, fetched⟩
  · rintro (⟨index, exchange, raw, rfl, fetched⟩ | ⟨_, _, _, _, _, tableId, turned⟩)
    · have waiting := fetched.running
      have goesOn := settings.answered_cases before.session.table.tableId (.ok { state := raw })
      generalize settings.answered before.session.table.tableId _ = rest at waiting goesOn
      cases step with
      | @move _ _ _ _ _ session underWay free turn =>
        rw [waiting] at underWay
        cases underWay
        rcases goesOn with ⟨outcome, rfl⟩ | ⟨_, poll, _, _, rfl⟩
        · cases turn
        · have merged := (Settings.turn_merging turn).2.2
          rw [if_pos rfl] at merged
          change session.table.confirmed = true
          rw [merged]
          rfl
    · rw [turned]
      rfl

/-! ## A street between question and merge -/

/-- A step in which no other job than the one at an index takes a turn. -/
def Only (settings : Settings) (index : Nat) (before : World) (event : Event) (after : World) :
    Prop :=
  Step settings before event after ∧
    ∀ other job exchange, event = .moved other job exchange → other = index

theorem Only.elsewhere {settings : Settings} {index other : Nat} {before after : World}
    {event : Event} (step : Only settings index before event after) (apart : index ≠ other) :
    Elsewhere settings other before event after := by
  refine ⟨step.1, ?_⟩
  rintro job exchange rfl
  exact apart (step.2 other job exchange rfl).symm

def onPreflop : World := { session := { table := { tableId := 7, phase := .preflop } } }

/-- A poll was told that the table is before the flop. -/
def preflopTold : World :=
  told .headsUp { phase := some "Preflop" } onPreflop

def isOfSecond (event : Event) : Bool :=
  match event with
  | .begun _ => true
  | .moved index _ _ => index = 1

/-- The flop was asked for meanwhile, and granted. -/
def flopGranted : List Event × World :=
  play .headsUp (fun _ event _ => isOfSecond event) preflopTold
    (Move.alone (.user (.dispatch (.reveal .flop))) 1 6 (.granting ""))

def flopShown : World :=
  (play .headsUp (fun _ _ _ => true) flopGranted.2 [.turn 1 .offline]).2

def flopMerged : World :=
  (play .headsUp (fun _ _ _ => true) flopShown [.turn 0 .offline]).2

/-- The flop is shown between the answer to a poll and its merge. -/
structure FlopBetween (log : List Event) (asked : World) (shown merged : Option Exchange) :
    Prop where
  run : Run .headsUp onPreflop log asked
  fetched : Step .headsUp asked
    (.moved 0 .poll (some (Settings.stateAnswered 7 "\x7b\"phase\":\"Preflop\"\x7d"))) preflopTold
  granted : Path (Only .headsUp 1) preflopTold flopGranted.1 flopGranted.2
  shows : Step .headsUp flopGranted.2 (.moved 1 (.user (.dispatch (.reveal .flop))) shown) flopShown
  merges : Step .headsUp flopShown (.moved 0 .poll merged) flopMerged

theorem exists_flopBetween : ∃ log asked shown merged, FlopBetween log asked shown merged := by
  have read : Poll.ofText? "\x7b\"phase\":\"Preflop\"\x7d" = some { phase := some "Preflop" } := by
    decide +kernel
  have polls : (play .headsUp (fun _ _ _ => true) flopShown [.turn 0 .offline]).1.any
      (Event.isOf Job.polls) := by
    decide +kernel
  have reveals : (play .headsUp (fun _ _ _ => true) flopGranted.2 [.turn 1 .offline]).1.any
      (Event.isOf fun job => job.intent? = some (.reveal .flop)) := by
    decide +kernel
  have free : onPreflop.held = none := rfl
  rcases exists_told .headsUp free read with ⟨log, asked, path, _, fetched⟩
  have run : Run .headsUp onPreflop log asked := path.mono And.left
  rcases exists_step_of_intent reveals with ⟨shown, shows⟩
  rcases exists_step_of_turn polls with ⟨_ | _, merged, isPoll, merges⟩
  · exact absurd isPoll (by simp [Job.polls])
  refine ⟨log, asked, shown, merged, run, fetched, ?_, shows, merges⟩
  apply (path_play .headsUp (fun _ event _ => isOfSecond event) preflopTold _).mono
  rintro before event after ⟨step, second⟩
  refine ⟨step, ?_⟩
  rintro other job exchange rfl
  simpa [isOfSecond] using second

theorem flop_taken_back :
    flopGranted.2.session.table.confirmed = true ∧ flopShown.session.table.confirmed = false ∧
      flopMerged.session.table.confirmed = true ∧ flopMerged.session.table.phase = .preflop := by
  decide +kernel

/-- A poll that was told of the table before the flop takes the flop back and confirms the snapshot.
-/
theorem confirms_of_late_merge :
    ∃ session log before event after, Run .headsUp { session } log before ∧
      Step .headsUp before event after ∧ before.session.table.confirmed = false ∧
      (∃ index exchange raw, event = .moved index .poll exchange ∧
        Fetched .headsUp session index before.session.table.tableId raw log before) ∧
      after.session.table.confirmed = true := by
  rcases exists_flopBetween with ⟨log, asked, shown, merged, flop⟩
  rcases flop_taken_back with ⟨_, unconfirmed, _, _⟩
  have since : Path (Elsewhere .headsUp 0) preflopTold _ flopShown :=
    (flop.granted.mono fun step => step.elsewhere (by decide)).snoc
      ⟨flop.shows, fun _ _ moved => absurd moved (by simp)⟩
  have fetched : Fetched .headsUp onPreflop.session 0 flopShown.session.table.tableId _ _
      flopShown :=
    ⟨log, _, asked, preflopTold, rfl, flop.run, flop.fetched, since⟩
  have run : Run .headsUp onPreflop _ flopShown :=
    (flop.run.snoc flop.fetched).append (since.mono And.left)
  rw [List.append_assoc, List.singleton_append] at run
  have told : ∃ index exchange raw, Event.moved 0 .poll merged = .moved index .poll exchange ∧
      Fetched .headsUp onPreflop.session index flopShown.session.table.tableId raw _ flopShown :=
    ⟨0, merged, _, rfl, fetched⟩
  have confirmed := (confirms_iff run flop.merges unconfirmed).mpr (.inl told)
  exact ⟨onPreflop.session, _, flopShown, _, flopMerged, run, flop.merges, unconfirmed, told,
    confirmed⟩

/-- What was told of a table before a change confirms the change. -/
theorem late_merge_confirms :
    ¬∀ (settings : Settings) (session : Session) (log early late : List Event)
      (asked answered middle marked before after : World) (index place : Nat) (tableId : UInt32)
      (raw : String) (intent : Intent) (exchange heard : Option Exchange),
      Run settings { session } log asked →
      Step settings asked (.moved index .poll (some (Settings.stateAnswered tableId raw)))
        answered →
      Path (Only settings place) answered early middle →
      Step settings middle (.moved place (.user (.dispatch intent)) exchange) marked →
      middle.session.table.confirmed = true → marked.session.table.confirmed = false →
      Path (Only settings place) marked late before →
      Step settings before (.moved index .poll heard) after →
      after.session.table.confirmed = false := by
  intro unconfirmed
  rcases exists_flopBetween with ⟨log, asked, shown, merged, flop⟩
  rcases flop_taken_back with ⟨was, marked, confirmed, _⟩
  have still := unconfirmed .headsUp onPreflop.session log _ _ asked preflopTold flopGranted.2
    flopShown flopShown flopMerged 0 1 7 _ (.reveal .flop) shown merged flop.run flop.fetched
    flop.granted flop.shows was marked (.refl flopShown) flop.merges
  rw [confirmed] at still
  exact absurd still (by decide)

end World

end Holdem
