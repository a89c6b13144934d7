import Holdem.Proofs.Session.Requests
import Holdem.Proofs.Session.Selection

/-!
# What lasts while a session stays at its table

A discipline that names a table is of no use for a whole run, since the session may turn to another
one. It holds while the session stays: every intent that acts then has read the table while the
session was there, and knows the invariant of the snapshot that it has read. So the discipline of an
intent is followed here together with what the intent knows, and with what it may ask for because it
knows that.

Polls are left to the end. They may come from before the table was selected, and only what is in
their answer speaks for them.
-/

namespace Holdem

namespace Procedure

variable {σ α β : Type} {discipline : Discipline σ} {allowed : CoordinatorCall → Prop}

/-- A procedure keeps a discipline, makes only calls of some kind, and comes to a result with a
property, as long as the answers are the expected ones and the invariant holds whenever it looks. -/
def Abides (discipline : Discipline σ) (allowed : CoordinatorCall → Prop) (property : α → Prop) :
    Procedure σ α → Prop
  | .finish result => property result
  | .stuck => discipline.mayBreak
  | .update change resume =>
    ∀ state, discipline.invariant state →
      (discipline.invariant (change state) ∧ discipline.permits state (change state)) ∧
        (resume state).Abides discipline allowed property
  | .ask request resume =>
    request.Within allowed ∧ ∀ answer, discipline.expects request answer →
      (resume answer).Abides discipline allowed property

theorem abides_of_keeps {procedure : Procedure σ α} {property : α → Prop}
    (kept : procedure.Keeps discipline) (gives : procedure.Gives discipline.expects property)
    (made : procedure.Calls allowed) : procedure.Abides discipline allowed property := by
  induction procedure with
  | finish => exact gives
  | stuck => exact kept
  | update change resume hypothesis =>
    intro state holds
    rcases kept state holds with ⟨admitted, rest⟩
    exact ⟨admitted, hypothesis state rest (gives state) (made state)⟩
  | ask request resume hypothesis =>
    refine ⟨made.1, fun answer expected => ?_⟩
    exact hypothesis answer (kept answer expected) (gives answer expected) (made.2 answer)

theorem abides_bind {procedure : Procedure σ α} {next : α → Procedure σ β} {between : α → Prop}
    {property : β → Prop} (first : procedure.Abides discipline allowed between)
    (later : ∀ result, between result → (next result).Abides discipline allowed property) :
    (procedure.bind next).Abides discipline allowed property := by
  induction procedure with
  | finish result => exact later result first
  | stuck => exact first
  | update change resume hypothesis =>
    intro state holds
    rcases first state holds with ⟨admitted, rest⟩
    exact ⟨admitted, hypothesis state rest⟩
  | ask request resume hypothesis =>
    exact ⟨first.1, fun answer expected => hypothesis answer (first.2 answer expected)⟩

theorem abides_mono {procedure : Procedure σ α} {property other : α → Prop}
    (abides : procedure.Abides discipline allowed property)
    (weaker : ∀ result, property result → other result) :
    procedure.Abides discipline allowed other := by
  rw [← bind_finish procedure]
  exact abides_bind abides weaker

theorem Abides.turn {procedure rest : Procedure σ α} {property : α → Prop} {state after : σ}
    {exchange : Option Exchange} (abides : procedure.Abides discipline allowed property)
    (turn : procedure.Turn state exchange rest after) (holds : discipline.invariant state)
    (expected : ∀ heard, exchange = some heard → discipline.expects heard.request heard.answer) :
    discipline.invariant after ∧ rest.Abides discipline allowed property := by
  cases turn with
  | update change resume =>
    rcases abides state holds with ⟨⟨holdsAfter, _⟩, rest⟩
    exact ⟨holdsAfter, rest⟩
  | ask request resume answer => exact ⟨holds, abides.2 answer (expected _ rfl)⟩

theorem calls_of_all (procedure : Procedure σ α) (all : ∀ call, allowed call) :
    procedure.Calls allowed :=
  calls_of_excluded fun call excluded => absurd (all call) excluded

end Procedure

/-! ## Steps -/

namespace Step

variable {law : Discipline Table} {allowed : CoordinatorCall → Prop} {α β : Type}
  {property : β → Prop}

/-- A step abides by a law of the snapshot, and what it completes with has a property. -/
def Abides (law : Discipline Table) (allowed : CoordinatorCall → Prop) (property : α → Prop)
    (step : Step α) : Prop :=
  Procedure.Abides law.onTable allowed (fun result => ∀ value, result = .ok value → property value)
    step.run

theorem abides_pure {result : β} (holds : property result) :
    Step.Abides law allowed property (pure result) := by
  rintro _ ⟨⟩
  exact holds

theorem abides_throw (fault : ActionFault) :
    Step.Abides law allowed property (throw fault : Step β) := by
  rintro _ ⟨⟩

theorem abides_bind {step : Step α} {next : α → Step β} {between : α → Prop}
    (first : Step.Abides law allowed between step)
    (later : ∀ result, between result → Step.Abides law allowed property (next result)) :
    Step.Abides law allowed property (step >>= next) := by
  apply Procedure.abides_bind first
  intro result given
  cases result with
  | ok value => exact later value (given value rfl)
  | error fault => exact abides_throw fault

/-- What is read of the snapshot is known to whatever comes after. -/
theorem abides_table : Step.Abides law allowed law.invariant Step.table := by
  intro session holds
  refine ⟨⟨holds, law.permits_refl session.table⟩, ?_⟩
  rintro _ ⟨⟩
  exact holds

theorem abides_require {answer : Except ε β} {fault : ε → ActionFault} :
    Step.Abides law allowed (fun result => answer = .ok result) (Step.require answer fault) := by
  cases answer with
  | ok result => exact abides_pure rfl
  | error reason => exact abides_throw (fault reason)

/-- A step that keeps a law makes the calls that it speaks of. -/
theorem abides_of_speaks {settings : Settings} {step : Step β} {new : CoordinatorCall → Prop}
    (kept : Step.Keeps law step) (gives : Step.Gives law.expects property step)
    (speaks : Step.Speaks settings new step)
    (within : ∀ call, (call.label?.isSome → new call) → allowed call) :
    Step.Abides law allowed property step :=
  Procedure.abides_of_keeps kept gives (Procedure.calls_mono speaks.calls within)

theorem abides_exclusively {step : Step β} (abides : Step.Abides law allowed property step) :
    Step.Abides law allowed property (Step.exclusively step) := by
  intro session holds
  refine ⟨⟨holds, law.permits_refl session.table⟩, ?_⟩
  by_cases free : session.take.2
  · simp only [free, ↓reduceIte]
    apply Procedure.abides_bind abides
    intro result given after afterHolds
    exact ⟨⟨afterHolds, law.permits_refl after.table⟩, given⟩
  · simp only [free, Bool.false_eq_true, ↓reduceIte]
    rintro _ ⟨⟩

end Step

/-- An intent abides by a law as far as carrying it out does, on a table that satisfies the
invariant. -/
theorem Settings.abides_dispatch (settings : Settings) (intent : Intent) {law : Discipline Table}
    {allowed : CoordinatorCall → Prop}
    (carries : ∀ table, law.invariant table →
      intent.check table settings.mode settings.hero = .ok () →
        Step.Abides law allowed (fun _ => True) (settings.carryOut table.tableId intent)) :
    (settings.dispatch intent).run.Abides law.onTable allowed fun _ => True := by
  have performs : Step.Abides law allowed (fun _ => True) (settings.perform intent) := by
    apply Step.abides_bind Step.abides_table
    intro table holds
    apply Step.abides_bind Step.abides_require
    intro _ passed
    exact carries table holds passed
  exact Procedure.abides_mono (Step.abides_exclusively performs) fun _ _ => trivial

/-! ## Laws of who is seated with which cards -/

namespace Discipline

/-- A law of the seats at one table and the private cards known of them. -/
def ofSecrets (tableId : UInt32) (holds : List (Address × Option (Card × Card)) → Prop)
    (expects : (request : Request) → request.Answer → Prop) : Discipline Table where
  invariant table := table.tableId = tableId ∧ holds table.secrets
  permits _ _ := True
  permits_refl _ := trivial
  mayBreak := True
  expects := expects

variable {tableId : UInt32} {holds : List (Address × Option (Card × Card)) → Prop}
  {expects : (request : Request) → request.Answer → Prop} {α : Type}

theorem admits_ofSecrets {change : Table → Table}
    (stays : ∀ table, (change table).tableId = table.tableId)
    (keeps : ∀ table, holds table.secrets → holds (change table).secrets) :
    (ofSecrets tableId holds expects).Admits change :=
  fun table known => ⟨⟨(stays table).trans known.1, keeps table known.2⟩, trivial⟩

theorem admits_ofSecrets_of_same {change : Table → Table}
    (same : ∀ table, (change table).tableId = table.tableId ∧
      (change table).secrets = table.secrets) :
    (ofSecrets tableId holds expects).Admits change :=
  admits_ofSecrets (fun table => (same table).1) fun table known => by
    rw [(same table).2]
    exact known

theorem admitsPartial_ofSecrets {change : Table → Option (Table × α)}
    (same : ∀ {table after result}, change table = some (after, result) →
      after.tableId = table.tableId ∧ after.secrets = table.secrets) :
    (ofSecrets tableId holds expects).AdmitsPartial change := by
  intro table known
  rcases changed : change table with _ | ⟨after, result⟩
  · trivial
  · refine ⟨?_, trivial⟩
    simp only [ofSecrets, (same changed).1, (same changed).2]
    exact known

end Discipline

theorem Table.secrets_decide {arithmetic : Arithmetic} (table : Table) (mode : PlayMode)
    (winner : Address) (size : Nat) (transaction : Option String) :
    (table.decide mode arithmetic winner size transaction).secrets = table.secrets :=
  Table.map_decide_of_lasting (fun _ _ _ _ _ => rfl) table mode winner size transaction

namespace Settings

variable {settings : Settings} {table after : Table}

theorem secrets_openSoloBet {action : Action} {stand : Address ⊕ (Address × Table)}
    (opened : settings.openSoloBet action table = some (after, stand)) :
    after.secrets = table.secrets :=
  map_openSoloBet_of_lasting (fun _ _ _ _ _ => rfl) opened

theorem secrets_closeSoloBet {opponent : Address} {reply : Action} {stand : SoloStand}
    (closed : settings.closeSoloBet opponent reply table = some (after, stand)) :
    after.secrets = table.secrets :=
  map_closeSoloBet_of_lasting (fun _ _ _ _ _ => rfl) closed

/-- Bets, reveals and showdowns leave alone who is seated with which cards. -/
theorem keeps_ofSecrets (settings : Settings) {tableId asked : UInt32}
    {holds : List (Address × Option (Card × Card)) → Prop}
    {expects : (request : Request) → request.Answer → Prop} {intent : Intent}
    (undealt : ∀ opponents, intent ≠ .start opponents) (unjoined : ∀ buyIn, intent ≠ .join buyIn) :
    Step.Keeps (.ofSecrets tableId holds expects) (settings.carryOut asked intent) := by
  -- the table stays for every operation of such an intent, whichever it is
  have stays : ∀ {before after : Table},
      Operation settings (.user (.dispatch .showdown)) before after →
        after.tableId = before.tableId :=
    fun operation => operation.tableId (by simp [Job.turnsTable])
  have shows : ∀ street cards size transaction, (∀ card ∈ cards, Card.isValid card) →
      (Discipline.ofSecrets tableId holds expects).Admits fun table =>
        table.showStreet street cards size transaction := by
    intro street cards size transaction _
    exact Discipline.admits_ofSecrets_of_same fun table =>
      ⟨stays (.street street cards size transaction),
        table.secrets_showStreet street cards size transaction⟩
  have decides : ∀ winner size transaction,
      (Discipline.ofSecrets tableId holds expects).Admits fun table =>
        table.decide settings.mode settings.arithmetic winner size transaction := by
    intro winner size transaction
    exact Discipline.admits_ofSecrets_of_same fun table =>
      ⟨stays (.decision winner size transaction),
        table.secrets_decide settings.mode winner size transaction⟩
  cases intent with
  | start opponents => exact absurd rfl (undealt opponents)
  | join buyIn => exact absurd rfl (unjoined buyIn)
  | reveal street => exact settings.keeps_reveal asked street (shows street)
  | showdown => exact settings.keeps_showdown asked decides
  | bet action =>
    simp only [carryOut]
    split
    · apply settings.keeps_betSolo asked action _ _ shows decides
      · exact Discipline.admitsPartial_ofSecrets fun opened =>
          ⟨stays (.opening opened), secrets_openSoloBet opened⟩
      · exact fun _ _ => Discipline.admitsPartial_ofSecrets fun closed =>
          ⟨stays (.closing closed), secrets_closeSoloBet closed⟩
    · apply settings.keeps_betOnChain asked action
      intro transaction
      apply Discipline.admitsPartial_ofSecrets
      intro table after _ applied
      have accepted := Table.applyAccepted?_of_map applied
      refine ⟨stays (.accepted accepted), ?_⟩
      rcases Table.applyAccepted?_cases accepted with ⟨acted, moved, acts, rfl⟩
      have same := Table.secrets_act? acts
      exact same

end Settings

/-! ## Runs since a selection -/

namespace World

variable {settings : Settings} {first tableId : UInt32} {log early since : List Event}
  {selected world before after : World} {event : Event} {law : Intent → Discipline Table}
  {allowed : Intent → CoordinatorCall → Prop} {invariant : Table → Prop}

/-- A step in which a poll goes on with what it was told of the session's table, and merges it. -/
def MergesTold (settings : Settings) (log : List Event) (poll : Poll) (before : World)
    (event : Event) (after : World) : Prop :=
  Step settings before event after ∧ ∃ index exchange raw, event = .moved index .poll exchange ∧
    Poll.ofText? raw = some poll ∧
    traffic log index = [Settings.stateAnswered before.session.table.tableId raw] ∧
    after.session = (before.session.merge settings.mode poll).1

/-- The invariant holds of the snapshot, and what is left of each intent abides by its law. -/
structure Abiding (law : Intent → Discipline Table) (allowed : Intent → CoordinatorCall → Prop)
    (invariant : Table → Prop) (world : World) : Prop where
  holds : invariant world.session.table
  abides : ∀ intent (rest : Procedure Session (Except ActionFault Outcome)),
    ⟨.user (.dispatch intent), rest⟩ ∈ world.running →
      rest.Abides (law intent).onTable (allowed intent) fun _ => True

/-- While the session stays at its table the intents take turns that their laws admit, and only
polls are to be seen to. -/
theorem Abiding.step (abiding : Abiding law allowed invariant before)
    (run : Run settings (opened first) log before) (stays : Stays settings before event after)
    (shared : ∀ intent, (law intent).invariant = invariant)
    (begins : ∀ intent, (settings.dispatch intent).run.Abides (law intent).onTable (allowed intent)
      fun _ => True)
    (expected : ∀ index intent heard, event = .moved index (.user (.dispatch intent)) (some heard) →
      (law intent).expects heard.request heard.answer)
    (merged : ∀ poll, MergesTold settings log poll before event after →
      invariant after.session.table) :
    Abiding law allowed invariant after := by
  have step := stays.1
  cases step with
  | begin job =>
    refine ⟨abiding.holds, ?_⟩
    intro intent rest member
    rcases List.mem_append.mp member with old | new
    · exact abiding.abides intent rest old
    · cases List.mem_singleton.mp new
      exact begins intent
  | @move index job rest next exchange session underWay _ turn =>
    have moved : invariant session.table ∧
        ∀ intent (left : Procedure Session (Except ActionFault Outcome)),
          (⟨.user (.dispatch intent), left⟩ : Running) = ⟨job, next⟩ →
            left.Abides (law intent).onTable (allowed intent) fun _ => True := by
      have unturned : job.turnsTable → session.table = before.session.table :=
        (stays.table run rfl).2 index job exchange rfl
      rcases job with (intent | body | tableId) | _
      · have abides := abiding.abides intent rest (List.mem_of_getElem? underWay)
        have holds := abiding.holds
        rw [← shared intent] at holds ⊢
        rcases abides.turn turn holds fun heard told =>
          expected index intent heard (by rw [told]) with ⟨holdsAfter, left⟩
        refine ⟨holdsAfter, ?_⟩
        rintro _ _ ⟨⟩
        exact left
      -- the two actions that could turn to a table do not, since the session stays
      · rw [unturned rfl]
        exact ⟨abiding.holds, nofun⟩
      · rw [unturned rfl]
        exact ⟨abiding.holds, nofun⟩
      · refine ⟨?_, nofun⟩
        rcases run.exclusive rfl with ⟨holder, exclusive⟩
        rcases exclusive.step stays.1 with ⟨_, _, handover⟩
        cases handover with
        | polled _ _ polls =>
          rcases polls with same | ⟨raw, poll, read, told, same⟩
          · rw [show session = before.session from same]
            exact abiding.holds
          · exact merged poll ⟨stays.1, index, exchange, raw, rfl, read, told, same⟩
    refine ⟨moved.1, ?_⟩
    intro intent left member
    rcases List.mem_or_eq_of_mem_set member with old | new
    · exact abiding.abides intent left old
    · exact moved.2 intent left new

/-- From the selection of a table on, the invariant lasts and the intents abide by their laws, if
nothing unexpected has been answered to an intent since and the polls that have been merged since
respect the invariant. -/
theorem abiding_of_path (reached : Selected settings first tableId early selected)
    (path : Path (Stays settings) selected since world)
    (shared : ∀ intent, (law intent).invariant = invariant)
    (begins : ∀ intent, (settings.dispatch intent).run.Abides (law intent).onTable (allowed intent)
      fun _ => True)
    (opens : invariant (.opened tableId))
    (expected : ∀ index intent heard,
      Event.moved index (.user (.dispatch intent)) (some heard) ∈ since →
        (law intent).expects heard.request heard.answer)
    (merged : ∀ log event later before after poll, since = log ++ event :: later →
      Path (Stays settings) selected log before →
        MergesTold settings (early ++ log) poll before event after →
          invariant before.session.table → invariant after.session.table) :
    Abiding law allowed invariant world := by
  induction path with
  | refl =>
    refine ⟨by rw [reached.table]; exact opens, ?_⟩
    intro intent rest member
    rcases List.getElem?_of_mem member with ⟨index, underWay⟩
    rcases reached.idle underWay with rfl | ⟨result, rfl⟩
    · exact begins intent
    · trivial
  | @snoc middle last log event path stays hypothesis =>
    have abiding := hypothesis
      (fun index intent heard member => expected index intent heard (List.mem_append_left _ member))
      (fun log event later before after poll split => merged log event _ before after poll (by
        rw [split, List.append_assoc, List.cons_append]))
    have run := reached.run.append (path.mono And.left)
    apply abiding.step run stays shared begins
    · rintro index intent heard rfl
      exact expected index intent heard (List.mem_append_right _ List.mem_cons_self)
    · intro poll merges
      exact merged log event [] middle last poll rfl path merges abiding.holds

end World

end Holdem
