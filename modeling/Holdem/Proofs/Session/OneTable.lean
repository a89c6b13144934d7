import Holdem.Proofs.Session.Exclusion

/-!
# One action on one table

Only an action that turns the session to a table changes which table that is, and only while it has
the token. So the table stays the same for as long as an intent acts, and what the intent changes is
the table that it was begun on, although it carries that table's number along and never looks at the
snapshot's again. A poll is not kept out by the token: it may come back after the session has turned
to another table, and then it is dropped.
-/

namespace Holdem.World

variable {settings : Settings} {start : Session} {log : List Event}
  {before after world next : World} {event : Event} {index : Nat} {job : Job}
  {exchange : Option Exchange} {holder : Option Nat}

theorem Step.turn (step : Step settings before (.moved index job exchange) after) :
    ∃ rest later, before.running[index]? = some ⟨job, rest⟩ ∧
      rest.Turn before.session exchange later after.session ∧
      after.running[index]? = some ⟨job, later⟩ := by
  cases step with
  | @move _ _ rest later _ session underWay _ turn =>
    exact ⟨rest, later, underWay, turn, (before.afterTurn_ready session underWay).1⟩

/-- A job stays what it is and where it is, unless it takes a turn itself. -/
theorem Step.rest_cases {rest : Procedure Session job.Result}
    (step : Step settings before event after)
    (underWay : before.running[index]? = some ⟨job, rest⟩) :
    ∃ later, after.running[index]? = some ⟨job, later⟩ ∧
      (later = rest ∨ ∃ exchange, event = .moved index job exchange ∧
        rest.Turn before.session exchange later after.session) := by
  by_cases here : ∃ job exchange, event = .moved index job exchange
  · rcases here with ⟨_, exchange, rfl⟩
    rcases step.turn with ⟨_, later, same, turn, ready⟩
    cases underWay.symm.trans same
    exact ⟨later, ready, .inr ⟨exchange, rfl, turn⟩⟩
  · refine ⟨rest, Elsewhere.running ⟨step, ?_⟩ underWay, .inl rfl⟩
    exact fun job exchange same => here ⟨job, exchange, same⟩

/-- What is left of a job is all of it when it is begun, and otherwise as much as was left before, or
what its turn has left. -/
theorem Step.origin {rest : Procedure Session job.Result} (step : Step settings before event after)
    (ready : after.running[index]? = some ⟨job, rest⟩) :
    (event = .begun job ∧ rest = settings.procedure job) ∨
      ∃ earlier, before.running[index]? = some ⟨job, earlier⟩ ∧
        (rest = earlier ∨ ∃ exchange, event = .moved index job exchange ∧
          earlier.Turn before.session exchange rest after.session) := by
  rcases underWay : before.running[index]? with _ | ⟨other, earlier⟩
  · left
    cases step with
    | begin job =>
      have beyond := List.getElem?_eq_none_iff.mp underWay
      rw [List.getElem?_append_right beyond] at ready
      cases List.mem_singleton.mp (List.mem_of_getElem? ready)
      exact ⟨rfl, rfl⟩
    | move =>
      have beyond := List.getElem?_eq_none_iff.mp underWay
      have within := (List.getElem?_eq_some_iff.mp ready).1
      simp only [afterTurn, List.length_set] at within
      omega
  · right
    rcases step.rest_cases underWay with ⟨later, readyThen, turns⟩
    cases ready.symm.trans readyThen
    exact ⟨earlier, rfl, turns⟩

theorem Step.exists_rest {rest : Procedure Session job.Result}
    (step : Step settings before event after)
    (underWay : before.running[index]? = some ⟨job, rest⟩) :
    ∃ later, after.running[index]? = some ⟨job, later⟩ ∧
      ∀ result, rest = .finish result → later = .finish result := by
  rcases step.rest_cases underWay with ⟨later, ready, rfl | ⟨exchange, _, turn⟩⟩
  · exact ⟨later, ready, fun _ ends => ends⟩
  · refine ⟨later, ready, ?_⟩
    rintro result rfl
    cases turn

/-- While a job has the token that does not turn to a table, the session stays at its table. -/
theorem tableId_of_held {rest : Procedure Session job.Result}
    (run : Run settings { session := start } log world)
    (exclusive : Exclusive settings log world (some index))
    (underWay : world.running[index]? = some ⟨job, rest⟩) (stays : ¬job.turnsTable)
    (step : Step settings world event next) :
    next.session.table.tableId = world.session.table.tableId := by
  rcases exclusive.step step with ⟨_, _, handover⟩
  have own : ∀ {other : Job} {exchange : Option Exchange}, event = .moved index other exchange →
      ¬other.turnsTable := by
    rintro other exchange rfl
    rcases step.turn with ⟨_, _, same, _, _⟩
    cases underWay.symm.trans same
    exact stays
  cases handover with
  | begun _ _ same => rw [same]
  | polled => exact (operation_of_move run step).tableId (by simp [Job.turnsTable])
  | refused _ _ _ same => rw [same]
  | acted => exact (operation_of_move run step).tableId (own rfl)
  | released => exact (operation_of_move run step).tableId (own rfl)

/-! ## From the first turn of an intent on -/

/-- The intent at an index is finished, or it has the token and the session is at a table. -/
def Carries (settings : Settings) (intent : Intent) (index : Nat) (tableId : UInt32)
    (log : List Event) (world : World) : Prop :=
  ∃ holder rest, Exclusive settings log world holder ∧
    world.running[index]? = some ⟨.user (.dispatch intent), rest⟩ ∧
    ((∃ result, rest = .finish result) ∨
      holder = some index ∧ world.session.table.tableId = tableId)

variable {intent : Intent} {tableId : UInt32}

theorem Carries.step (carries : Carries settings intent index tableId log world)
    (run : Run settings { session := start } log world) (step : Step settings world event next) :
    Carries settings intent index tableId (log ++ [event]) next := by
  rcases carries with ⟨holder, rest, exclusive, underWay, stands⟩
  rcases step.exists_rest underWay with ⟨later, ready, ends⟩
  rcases exclusive.step step with ⟨holderThen, exclusiveThen, handover⟩
  refine ⟨holderThen, later, exclusiveThen, ready, ?_⟩
  rcases stands with ⟨result, finished⟩ | ⟨rfl, here⟩
  · exact .inl ⟨result, ends result finished⟩
  have same := tableId_of_held run exclusive underWay (by simp [Job.turnsTable]) step
  rw [← here]
  cases handover with
  | begun | polled | refused | acted => exact .inr ⟨rfl, same⟩
  | released _ result _ done =>
    cases ready.symm.trans done
    exact .inl ⟨result, rfl⟩

/-- In its first turn an intent takes the token, or it is turned away. -/
theorem carries_of_move (run : Run settings { session := start } log world)
    (free : start.busy = false)
    (step : Step settings world (.moved index (.user (.dispatch intent)) exchange) next) :
    Carries settings intent index world.session.table.tableId
      (log ++ [.moved index (.user (.dispatch intent)) exchange]) next := by
  rcases run.exclusive free with ⟨holder, exclusive⟩
  rcases step.turn with ⟨rest, later, underWay, turn, ready⟩
  by_cases held : holder = some index
  · exact Carries.step ⟨holder, rest, exclusive, underWay, .inr ⟨held, rfl⟩⟩ run step
  rcases exclusive.step step with ⟨holderThen, exclusiveThen, handover⟩
  refine ⟨holderThen, later, exclusiveThen, ready, ?_⟩
  cases handover with
  | taken action unturned taken => exact .inr ⟨rfl, by rw [taken]⟩
  | refused action other unturned same refused =>
    cases ready.symm.trans refused
    exact .inl ⟨_, rfl⟩
  | acted => exact absurd rfl held
  | released => exact absurd rfl held

theorem Carries.path {later : List Event}
    (carries : Carries settings intent index tableId log world)
    (run : Run settings { session := start } log world) (path : Run settings world later next) :
    Carries settings intent index tableId (log ++ later) next := by
  induction path with
  | refl =>
    rw [List.append_nil]
    exact carries
  | snoc path step hypothesis =>
    rw [← List.append_assoc]
    exact hypothesis.step (run.append path) step

/-! ## One at a time -/

/-- How the actions and polls of a session keep out of each other's way. -/
structure OneAtATime (settings : Settings) (start : Session) (log : List Event) (world : World) :
    Prop where
  /-- One action at most acts. -/
  one : ∀ {index other}, Acts log world index → Acts log world other → index = other
  /-- The token is taken exactly while an action acts. -/
  token : world.session.busy = true ↔ ∃ index, Acts log world index
  /-- Any other action that tries meanwhile is turned away: it has asked nothing when it is
  finished, and it leaves the whole session as it is. -/
  refused : ∀ {index other action exchange next}, Acts log world index → other ≠ index →
    Step settings world (.moved other (.user action) exchange) next →
      next.running[other]? = some ⟨.user action, .finish (.error .busy)⟩ ∧
        next.session = world.session ∧
        traffic (log ++ [.moved other (.user action) exchange]) other = []
  /-- With the turn in which an action is finished that acted, however it ends, the token is
  free. -/
  freed : ∀ {index action exchange result next}, Acts log world index →
    Step settings world (.moved index (.user action) exchange) next →
      next.running[index]? = some ⟨.user action, .finish result⟩ → next.session.busy = false
  /-- Whatever an intent changes after its first turn is a snapshot of the table of that turn. -/
  table : ∀ {index intent early between started begun first exchange next},
    Run settings { session := start } early started →
      Step settings started (.moved index (.user (.dispatch intent)) first) begun →
      Run settings begun between world →
      Step settings world (.moved index (.user (.dispatch intent)) exchange) next →
        world.session.table.tableId = started.session.table.tableId ∧
          next.session.table.tableId = started.session.table.tableId
  /-- A poll that changes anything has fetched the state of the session's table, and nothing
  else. -/
  polls : ∀ {index exchange next}, Step settings world (.moved index .poll exchange) next →
    next.session ≠ world.session →
      next.session.table.tableId = world.session.table.tableId ∧
        ∃ raw, traffic log index = [Settings.stateAnswered world.session.table.tableId raw]

/-- In every run from a session with a free token, whatever is begun when and whatever is answered,
actions act one at a time and on one table each, and polls merge what they were told of the session's
table. -/
theorem one_at_a_time (free : start.busy = false)
    (run : Run settings { session := start } log world) :
    OneAtATime settings start log world := by
  rcases run.exclusive free with ⟨holder, exclusive⟩
  exact {
    one := by
      intro index other acts actsToo
      rw [exclusive.acts_iff] at acts actsToo
      exact Option.some.inj (acts.symm.trans actsToo)
    token := by
      simp only [exclusive.acts_iff, exclusive.token, Option.isSome_iff_exists]
    refused := by
      intro index other action exchange next acts apart step
      rw [exclusive.acts_iff] at acts
      subst acts
      rcases exclusive.step step with ⟨_, _, handover⟩
      cases handover with
      | refused _ _ unturned same refused =>
        refine ⟨refused, same, ?_⟩
        rw [traffic_moved, traffic_of_unturned unturned]
        rfl
      | acted => exact absurd rfl apart
      | released => exact absurd rfl apart
    freed := by
      intro index action exchange result next acts step finished
      rw [exclusive.acts_iff] at acts
      subst acts
      rcases exclusive.step step with ⟨_, _, handover⟩
      cases handover with
      | refused _ other => exact absurd rfl other
      | acted left _ turn goesOn =>
        have inside := Running.Inside.intro (left.turn turn)
        have same := Option.some.inj (goesOn.symm.trans finished)
        rw [Running.mk.injEq] at same
        exact absurd (eq_of_heq same.2) (inside.not_finished result)
      | released _ _ freed => rw [freed]
    table := by
      intro index intent early between started begun first exchange next runEarly begins runOn step
      -- from the turn that began it on, the intent carries the table along until it is finished
      have onwards := runEarly.append (Path.snoc (.refl started) begins)
      have carries := (carries_of_move runEarly free begins).path onwards runOn
      rcases carries with ⟨holder, rest, exclusive, underWay, ⟨result, rfl⟩ | ⟨rfl, here⟩⟩
      · rcases step.turn with ⟨_, _, same, turn, _⟩
        cases underWay.symm.trans same
        cases turn
      · have same := tableId_of_held (onwards.append runOn) exclusive underWay
          (by simp [Job.turnsTable]) step
        exact ⟨here, same.trans here⟩
    polls := by
      intro index exchange next step changed
      rcases exclusive.step step with ⟨_, _, handover⟩
      cases handover with
      | polled _ _ polls =>
        rcases polls with same | ⟨raw, poll, _, fetched, merged⟩
        · exact absurd same changed
        · refine ⟨?_, raw, fetched⟩
          rw [merged]
          exact world.session.table.merge_tableId settings.mode poll }

/-- The player turns to another table while a join is under way, and is turned away. -/
theorem one_at_a_time_of_join :
    ∃ log world next, Run .headsUp { session := .opened 7 } log world ∧ Acts log world 0 ∧
      Step .headsUp world (.moved 1 (.user (.select 9)) none) next ∧
      next.running[1]? = some ⟨.user (.select 9), .finish (.error .busy)⟩ ∧
      next.session = world.session ∧ world.session.busy = true := by
  let join : Job := .user (.dispatch (.join none))
  let select : Job := .user (.select 9)
  let begun : World := {
    session := .opened 7
    running := [⟨join, Settings.headsUp.procedure join⟩,
      ⟨select, Settings.headsUp.procedure select⟩] }
  let joining : World := begun.afterTurn 0 ⟨join, Settings.headsUp.procedure join⟩
    ⟨join, (Settings.headsUp.body (.dispatch (.join none))).run.bind Step.release⟩
    (Session.opened 7).take.1
  have run : Run .headsUp { session := .opened 7 }
      [.begun join, .begun select, .moved 0 join none] joining :=
    Path.refl _ |>.snoc (.begin _ join) |>.snoc (.begin _ select) |>.snoc
      (.move rfl (.inl rfl) (.update _ _ _))
  have acts : Acts [.begun join, .begun select, .moved 0 join none] joining 0 :=
    ⟨⟨join, none, by simp⟩, _, _, rfl, nofun⟩
  have step : Step .headsUp joining (.moved 1 select none) _ :=
    .move rfl (.inl rfl) (.update _ _ _)
  have one := one_at_a_time rfl run
  rcases one.refused acts (by decide) step with ⟨refused, same, _⟩
  exact ⟨_, joining, _, run, acts, step, refused, same, one.token.mpr ⟨0, acts⟩⟩

end Holdem.World
