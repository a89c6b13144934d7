import Holdem.Proofs.Session.World

/-!
# Schedules

A schedule says which job is begun or takes its turn next and how its questions are answered.
Playing a schedule computes a run, so that particular runs can be given by what happens in them.
-/

namespace Holdem

/-- The hero plays heads-up, without access to the ledger. -/
def Settings.headsUp : Settings where
  mode := .headsup
  hero := "hero"

/-- Someone who answers every question. -/
abbrev Answers : Type := (request : Request) → request.Answer

/-- Nobody can be reached: the wallet signs, but no call gets through, and opponents fold. -/
def Answers.offline : Answers
  | .coordinator _ _ => .error (.request "offline" [])
  | .signMessage message => .ok message
  | .signTransaction envelope _ => .ok envelope
  | .ledger _ => .error (.rpc "offline")
  | .wait _ => ()
  | .clock => ⟨0, 0⟩
  | .reply _ _ => .fold

/-- The coordinator grants deals, reveals and showdowns, which the player `hero` wins, and this is
published of the table; otherwise nobody can be reached. -/
def Answers.granting (published : String) : Answers
  | .coordinator _ (.deal _ _) =>
    .ok { status := "ok", deckRoot := "", handCommitments := [], proofSize := 0, sessionId := "" }
  | .coordinator _ (.reveal _ _) =>
    .ok { status := "ok", cards := [10, 20, 30], proofSize := 0, sessionId := "" }
  | .coordinator _ (.showdown _) =>
    .ok { status := "ok", winner := "hero", winnerSeat := 0, proofSize := 0, sessionId := "" }
  | .coordinator _ (.state _) => .ok { state := published }
  | request => Answers.offline request

def Procedure.turn? {σ α : Type} (answers : Answers) :
    Procedure σ α → σ → Option (Option Exchange × Procedure σ α × σ)
  | .finish _, _ | .stuck, _ => none
  | .update change resume, state => some (none, resume state, change state)
  | .ask request resume, state =>
    some (some ⟨request, answers request⟩, resume (answers request), state)

theorem Procedure.turn_of_turn? {σ α : Type} {answers : Answers} {procedure rest : Procedure σ α}
    {state after : σ} {exchange : Option Exchange}
    (turns : procedure.turn? answers state = some (exchange, rest, after)) :
    procedure.Turn state exchange rest after := by
  cases procedure with
  | finish | stuck => exact absurd turns (by simp [turn?])
  | update change resume =>
    simp only [turn?, Option.some.injEq, Prod.mk.injEq] at turns
    rcases turns with ⟨rfl, rfl, rfl⟩
    exact .update change resume state
  | ask request resume =>
    simp only [turn?, Option.some.injEq, Prod.mk.injEq] at turns
    rcases turns with ⟨rfl, rfl, rfl⟩
    exact .ask request resume (answers request) state

def Event.isOf (kind : Job → Bool) : Event → Bool
  | .begun _ => false
  | .moved _ job _ => kind job

theorem Procedure.answer_of_turn? {σ α : Type} {answers : Answers} {procedure rest : Procedure σ α}
    {state after : σ} {heard : Exchange}
    (turns : procedure.turn? answers state = some (some heard, rest, after)) :
    heard.answer = answers heard.request := by
  cases procedure with
  | finish | stuck | update => exact absurd turns (by simp [turn?])
  | ask request resume =>
    simp only [turn?, Option.some.injEq, Prod.mk.injEq] at turns
    rw [← turns.1]

inductive Move where
  | begin (job : Job)
  /-- A turn of the job at an index. -/
  | turn (index : Nat) (answers : Answers)

/-- Whether a move can make an event: it begins the job, or it gives the turn to its index and has
the question answered by the one who answers then. -/
def Move.Makes : Move → Event → Prop
  | .begin job, .begun other => other = job
  | .turn index answers, .moved other _ exchange =>
    other = index ∧ ∀ heard, exchange = some heard → heard.answer = answers heard.request
  | _, _ => False

/-- A job that is begun and takes turns with nothing in between. -/
def Move.alone (job : Job) (index turns : Nat) (answers : Answers) : List Move :=
  .begin job :: List.replicate turns (.turn index answers)

theorem Move.answers_of_alone {job : Job} {index other turns : Nat} {answers given : Answers}
    (listed : .turn other answers ∈ Move.alone job index turns given) : answers = given := by
  rcases List.mem_cons.mp listed with begins | turn
  · exact absurd begins (by simp)
  · exact (Move.turn.inj (List.eq_of_mem_replicate turn)).2

namespace World

variable {settings : Settings} {world next : World} {event : Event}

/-- What a move does, if it is possible. -/
def make? (settings : Settings) (world : World) : Move → Option (Event × World)
  | .begin job =>
    some (.begun job, { world with running := world.running ++ [⟨job, settings.procedure job⟩] })
  | .turn index answers =>
    if world.held = none ∨ world.held = some index then
      world.running[index]?.bind fun before =>
        (before.rest.turn? answers world.session).map fun (exchange, after, session) =>
          (.moved index before.job exchange,
            world.afterTurn index before ⟨before.job, after⟩ session)
    else none

theorem step_of_make? {move : Move} (made : world.make? settings move = some (event, next)) :
    Step settings world event next := by
  cases move with
  | begin job =>
    simp only [make?, Option.some.injEq, Prod.mk.injEq] at made
    rcases made with ⟨rfl, rfl⟩
    exact .begin world job
  | turn index answers =>
    unfold make? at made
    dsimp only at made
    split at made
    · rename_i free
      rw [Option.bind_eq_some_iff] at made
      rcases made with ⟨⟨job, before⟩, underWay, made⟩
      rw [Option.map_eq_some_iff] at made
      rcases made with ⟨⟨exchange, after, session⟩, turns, made⟩
      simp only [Prod.mk.injEq] at made
      rcases made with ⟨rfl, rfl⟩
      exact .move underWay free (Procedure.turn_of_turn? turns)
    · exact absurd made (by simp)

theorem makes_of_make? {move : Move} (made : world.make? settings move = some (event, next)) :
    move.Makes event := by
  cases move with
  | begin job =>
    simp only [make?, Option.some.injEq, Prod.mk.injEq] at made
    rw [← made.1]
    rfl
  | turn index answers =>
    unfold make? at made
    dsimp only at made
    split at made
    · rw [Option.bind_eq_some_iff] at made
      rcases made with ⟨before, _, made⟩
      rw [Option.map_eq_some_iff] at made
      rcases made with ⟨⟨exchange, after, session⟩, turns, made⟩
      simp only [Prod.mk.injEq] at made
      rcases made with ⟨rfl, _⟩
      refine ⟨rfl, ?_⟩
      rintro heard rfl
      exact Procedure.answer_of_turn? turns
    · exact absurd made (by simp)

/-- Plays a schedule; moves that are impossible or not allowed are passed over. -/
def play (settings : Settings) (allowed : World → Event → World → Bool) :
    World → List Move → List Event × World
  | world, [] => ([], world)
  | world, move :: moves =>
    match world.make? settings move with
    | none => play settings allowed world moves
    | some (event, next) =>
      if allowed world event next then
        (event :: (play settings allowed next moves).1, (play settings allowed next moves).2)
      else play settings allowed world moves

theorem path_play (settings : Settings) (allowed : World → Event → World → Bool) (world : World)
    (moves : List Move) :
    Path (fun before event after => Step settings before event after ∧ allowed before event after)
      world (play settings allowed world moves).1 (play settings allowed world moves).2 := by
  induction moves generalizing world with
  | nil => exact .refl world
  | cons move moves hypothesis =>
    simp only [play]
    split
    · exact hypothesis world
    · rename_i event next made
      split
      · rename_i permitted
        exact (Path.snoc (.refl world) ⟨step_of_make? made, permitted⟩).append (hypothesis next)
      · exact hypothesis world

/-- Everything that happens when a schedule is played is made by one of its moves. -/
theorem exists_makes_of_mem_play {allowed : World → Event → World → Bool} {moves : List Move}
    (member : event ∈ (play settings allowed world moves).1) : ∃ move ∈ moves, move.Makes event := by
  induction moves generalizing world with
  | nil => exact absurd member List.not_mem_nil
  | cons move moves hypothesis =>
    have later : ∀ {first : World}, event ∈ (play settings allowed first moves).1 →
        ∃ other ∈ move :: moves, other.Makes event := by
      intro first occurs
      rcases hypothesis occurs with ⟨other, listed, makes⟩
      exact ⟨other, List.mem_cons_of_mem move listed, makes⟩
    simp only [play] at member
    split at member
    · exact later member
    · rename_i happened next made
      split at member
      · rcases List.mem_cons.mp member with rfl | occurs
        · exact ⟨move, List.mem_cons_self, makes_of_make? made⟩
        · exact later occurs
      · exact later member

theorem begin_mem_of_begun {allowed : World → Event → World → Bool} {moves : List Move} {job : Job}
    (member : .begun job ∈ (play settings allowed world moves).1) : .begin job ∈ moves := by
  rcases exists_makes_of_mem_play member with ⟨_ | _, listed, makes⟩
  · rw [show job = _ from makes]
    exact listed
  · exact makes.elim

/-- What was heard when a schedule was played was answered at one of its turns. -/
theorem exists_answers_of_heard {allowed : World → Event → World → Bool} {moves : List Move}
    {index : Nat} {job : Job} {heard : Exchange}
    (member : .moved index job (some heard) ∈ (play settings allowed world moves).1) :
    ∃ answers, .turn index answers ∈ moves ∧ heard.answer = answers heard.request := by
  rcases exists_makes_of_mem_play member with ⟨_ | ⟨_, answers⟩, listed, makes⟩
  · exact makes.elim
  · rw [makes.1]
    exact ⟨answers, listed, makes.2 heard rfl⟩

/-- Playing a schedule without the turns of some jobs is a stretch without those jobs. -/
theorem path_play_without (settings : Settings) (kind : Job → Bool) (world : World)
    (moves : List Move) :
    Path (Without settings kind) world
      (play settings (fun _ event _ => !event.isOf kind) world moves).1
      (play settings (fun _ event _ => !event.isOf kind) world moves).2 := by
  apply (path_play settings _ world moves).mono
  rintro before event after ⟨step, others⟩
  refine ⟨step, ?_⟩
  rintro index job exchange rfl ofKind
  simp [Event.isOf, ofKind] at others

theorem run_play (settings : Settings) (world : World) (moves : List Move) :
    Run settings world (play settings (fun _ _ _ => true) world moves).1
      (play settings (fun _ _ _ => true) world moves).2 :=
  (path_play settings _ world moves).mono And.left

/-- The turn of a job, if it can take it, is a step to the world that it leads to. -/
theorem exists_step_of_turn {index : Nat} {answers : Answers} {kind : Job → Bool}
    (taken : (play settings (fun _ _ _ => true) world [.turn index answers]).1.any
      (Event.isOf kind)) :
    ∃ job exchange, kind job ∧ Step settings world (.moved index job exchange)
      (play settings (fun _ _ _ => true) world [.turn index answers]).2 := by
  rcases made : world.make? settings (.turn index answers) with _ | ⟨event, next⟩
  · simp [play, made] at taken
  · have makes := makes_of_make? made
    have step := step_of_make? made
    simp only [play, made, ↓reduceIte, List.any_cons, List.any_nil, Bool.or_false] at taken ⊢
    cases event with
    | begun => exact makes.elim
    | moved other job exchange =>
      rw [makes.1] at step
      exact ⟨job, exchange, taken, step⟩

theorem exists_step_of_intent {index : Nat} {answers : Answers} {intent : Intent}
    (taken : (play settings (fun _ _ _ => true) world [.turn index answers]).1.any
      (Event.isOf fun job => job.intent? = some intent)) :
    ∃ exchange, Step settings world (.moved index (.user (.dispatch intent)) exchange)
      (play settings (fun _ _ _ => true) world [.turn index answers]).2 := by
  rcases exists_step_of_turn taken with ⟨job, exchange, dispatched, step⟩
  rw [Job.eq_of_intent? (of_decide_eq_true dispatched)] at step
  exact ⟨exchange, step⟩

/-- The run of a schedule, in which everything possible is allowed. -/
abbrev scheduled (settings : Settings) (tableId : UInt32) (moves : List Move) : List Event × World :=
  play settings (fun _ _ _ => true) (opened tableId) moves

theorem run_scheduled (settings : Settings) (tableId : UInt32) (moves : List Move) :
    Run settings (opened tableId) (scheduled settings tableId moves).1
      (scheduled settings tableId moves).2 :=
  run_play settings (opened tableId) moves

end World

end Holdem
