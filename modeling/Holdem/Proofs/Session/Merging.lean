import Holdem.Proofs.Session.Turns

/-!
# Polls that are merged

A poll takes three turns: it looks at which table the session is, asks for the table's state and
merges the answer. Whatever can be read from some text can so be merged at any moment at which no
other job is held up, and until then the poll leaves the session alone.
-/

namespace Holdem

namespace Settings

variable {raw : String} {poll : Poll}

/-- What is left of a poll of a table when its answer has been read. -/
def merging (settings : Settings) (tableId : UInt32) (poll : Poll) :
    Procedure Session PollOutcome :=
  .update
    (fun session =>
      if session.table.tableId = tableId then (session.merge settings.mode poll).1 else session)
    fun session =>
      if session.table.tableId = tableId then
        .finish (.merged (session.merge settings.mode poll).2)
      else .finish .stale

/-- What is left of a poll of a table when it has its answer. -/
def answered (settings : Settings) (tableId : UInt32) :
    Except CoordinatorFault StateReply → Procedure Session PollOutcome
  | .error fault => .finish (.fetchFailed fault.message)
  | .ok reply =>
    match Poll.ofText? reply.state with
    | none => .finish .unparsed
    | some poll => settings.merging tableId poll

/-- What is left of a poll when it has looked at the table. -/
def asking (settings : Settings) (tableId : UInt32) : Procedure Session PollOutcome :=
  .ask (.coordinator none (.state tableId)) (settings.answered tableId)

theorem poll_eq (settings : Settings) :
    settings.poll = .update id fun session => settings.asking session.table.tableId := by
  simp only [poll, asking]
  congr 1
  funext session
  congr 1
  funext answer
  rcases answer with fault | reply
  · rfl
  · dsimp only [answered]
    rcases Poll.ofText? reply.state with _ | poll
    · rfl
    · rfl

/-- The question of a poll, with an answer. -/
def stateAnswered (tableId : UInt32) (raw : String) : Exchange :=
  ⟨.coordinator none (.state tableId), Except.ok { state := raw }⟩

/-- The two turns in which a poll looks at the table and has its question answered. -/
theorem turns_poll (settings : Settings) (read : Poll.ofText? raw = some poll) (session : Session) :
    settings.poll.Turn session none (settings.asking session.table.tableId) session ∧
      (settings.asking session.table.tableId).Turn session
        (some (stateAnswered session.table.tableId raw))
        (settings.merging session.table.tableId poll) session := by
  constructor
  · rw [poll_eq]
    exact .update id _ session
  · have reads : settings.answered session.table.tableId (.ok { state := raw }) =
        settings.merging session.table.tableId poll := by
      simp only [answered, read]
    rw [← reads]
    exact .ask (.coordinator none (.state session.table.tableId))
      (settings.answered session.table.tableId) (.ok { state := raw }) session

end Settings

namespace World

variable {settings : Settings} {world : World} {raw : String} {poll : Poll}

/-- A step in which a poll is merged. -/
def Merges (settings : Settings) (poll : Poll) (before : World) (event : Event) (after : World) :
    Prop :=
  Step settings before event after ∧
    (∃ index job exchange, event = .moved index job exchange ∧ job.polls) ∧
    after.session.table = (before.session.table.merge settings.mode poll).1

/-- A step of a poll that leaves the session alone, or one in which a job is begun. -/
def Fetches (settings : Settings) (before : World) (event : Event) (after : World) : Prop :=
  Step settings before event after ∧ after.session = before.session ∧
    ∀ index job exchange, event = .moved index job exchange → job.polls

/-- A poll has been told of the table and is about to merge it. -/
def told (settings : Settings) (poll : Poll) (world : World) : World where
  session := world.session
  running := world.running ++ [⟨.poll, settings.merging world.session.table.tableId poll⟩]

/-- What can be read from a text can be told to a poll while nobody is held up. -/
theorem exists_told (settings : Settings) (free : world.held = none)
    (read : Poll.ofText? raw = some poll) :
    ∃ log asked, Path (Fetches settings) world log asked ∧ asked.session = world.session ∧
      Step settings asked
        (.moved world.running.length .poll
          (some (Settings.stateAnswered world.session.table.tableId raw)))
        (told settings poll world) := by
  let tableId := world.session.table.tableId
  rcases settings.turns_poll read world.session with ⟨looks, asks⟩
  let begun : World := { world with running := world.running ++ [⟨.poll, settings.poll⟩] }
  have underWay : begun.running[world.running.length]? = some ⟨.poll, settings.poll⟩ :=
    List.getElem?_concat_length
  let asked := begun.afterTurn world.running.length ⟨.poll, settings.poll⟩
    ⟨.poll, settings.asking tableId⟩ world.session
  rcases begun.afterTurn_ready world.session underWay with ⟨ready, next⟩
  have path : Path (Fetches settings) world _ asked :=
    Path.refl world
      |>.snoc ⟨.begin world .poll, rfl, fun _ _ _ moved => absurd moved (by simp)⟩
      |>.snoc ⟨.move underWay (.inl free) looks, rfl, fun _ _ _ moved => by cases moved; rfl⟩
  have reached : asked.afterTurn world.running.length ⟨.poll, settings.asking tableId⟩
      ⟨.poll, settings.merging tableId poll⟩ world.session = told settings poll world := by
    simp [afterTurn, told, asked, begun, Procedure.asksAtOnce, Settings.asking, Settings.merging,
      Request.isImmediate, tableId]
  have step : Step settings asked _ _ := .move ready next asks
  rw [reached] at step
  exact ⟨_, asked, path, rfl, step⟩

/-- What can be read from a text can be merged, and nothing but the poll has to move for that. -/
theorem exists_merges (settings : Settings) (free : world.held = none)
    (read : Poll.ofText? raw = some poll) :
    ∃ log before event after, Path (Fetches settings) world log before ∧
      before.session = world.session ∧ Merges settings poll before event after ∧
      after.held = none := by
  let tableId := world.session.table.tableId
  rcases exists_told settings free read with ⟨log, asked, path, same, fetched⟩
  have fetches : Fetches settings asked _ (told settings poll world) :=
    ⟨fetched, same.symm, fun _ _ _ moved => by cases moved; rfl⟩
  have underWay : (told settings poll world).running[world.running.length]? =
      some ⟨.poll, settings.merging tableId poll⟩ :=
    List.getElem?_concat_length
  refine ⟨_, told settings poll world, _, _, path.snoc fetches, rfl,
    ⟨.move underWay (.inl rfl) (.update _ _ _), ⟨_, _, _, rfl, rfl⟩, ?_⟩, ?_⟩
  · simp only [afterTurn, told, tableId, ↓reduceIte]
    rfl
  · simp [afterTurn, Procedure.asksAtOnce, Settings.merging, told, tableId]

end World

end Holdem
