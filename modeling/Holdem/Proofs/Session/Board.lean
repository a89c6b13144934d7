import Holdem.Proofs.Session.Schedule
import Holdem.Proofs.Table.Board

/-!
# Agreement on the board

Within a hand the board is written from two sides: by the replies to the player's reveals, and by
polls, which may be ahead of a reveal that is still under way, or behind one that is done. As long
as both tell of the same five cards it does not matter who comes first. The board is always the
beginning of the hand's cards that belongs to the phase, and it is only polls that can be out of
date and move the phase back.
-/

namespace Holdem

def Job.reveals : Job → Bool
  | .user (.dispatch (.reveal _)) => true
  | _ => false

/-- What is answered in a hand with these five cards: a reveal brings the slice of its street, and a
state that can be read is a poll of the hand. -/
def Request.Tells (cards : List Card) : (request : Request) → request.Answer → Prop
  | .coordinator _ (.reveal _ street), answer =>
    ∀ reply, answer = .ok reply → reply.cards.map Card.mk = street.slice cards
  | .coordinator _ (.state _), answer =>
    ∀ reply poll, answer = .ok reply → Poll.ofText? reply.state = some poll → poll.Shows cards
  | _, _ => True

/-- Everybody tells of the hand, and this is what is published of it. -/
def Answers.ofHand (cards : List Card) (published : String) : Answers
  | .coordinator _ (.reveal _ street) =>
    .ok
      { status := "ok"
        cards := (street.slice cards).map Card.code
        proofSize := 0
        sessionId := "" }
  | .coordinator _ (.state _) => .ok { state := published }
  | request => Answers.offline request

theorem Answers.ofHand_tells {cards : List Card} {published : String}
    (shows : ∀ poll ∈ Poll.ofText? published, poll.Shows cards) (request : Request) :
    request.Tells cards (ofHand cards published request) := by
  rcases request with ⟨_, call⟩ | _ | _ | _ | _ | _ | _
  · cases call with
    | reveal =>
      rintro reply ⟨⟩
      simp [List.map_map, Function.comp_def]
    | state =>
      rintro reply poll ⟨⟩ read
      exact shows poll read
    | _ => trivial
  all_goals trivial

/-- The board shows the hand, and reveals do not move the phase back. -/
def showing (cards : List Card) (revealing : Bool) : Discipline Table where
  invariant table := table.Shows cards
  permits before after := revealing → before.phase.place ≤ after.phase.place
  permits_refl table _ := Nat.le_refl table.phase.place
  expects := Request.Tells cards

namespace Settings

variable {cards : List Card}

theorem keeps_showing_reveal (settings : Settings) (five : cards.length = 5)
    (valid : ∀ card ∈ cards, card.isValid) (street : Street) :
    (settings.procedure (.user (.dispatch (.reveal street)))).Keeps
      (showing cards true).onTable := by
  apply Step.keeps_exclusively
  apply settings.keeps_perform
  intro asked _
  apply settings.keeps_reveal_of_reply
  intro credentials reply tells
  have shown : (reply.cards.map Card.mk).filter Card.isValid = street.slice cards := by
    have told : reply.cards.map Card.mk = street.slice cards := tells reply rfl
    rw [told]
    apply List.filter_eq_self.mpr
    intro card member
    exact valid card (List.mem_of_mem_take (List.mem_of_mem_drop member))
  intro table shows
  refine ⟨?_, ?_⟩
  · rw [shown]
    exact shows.showStreet five street reply.proofSize.toNat reply.transaction
  · intro _
    exact table.place_le_showStreet street _ reply.proofSize.toNat reply.transaction

theorem keeps_showing_poll (settings : Settings) (five : cards.length = 5) :
    (settings.procedure .poll).Keeps (showing cards false).onTable := by
  apply settings.keeps_poll
  intro tableId reply poll tells read table shows
  refine ⟨?_, ?_⟩
  · exact shows.merge five settings.mode (tells reply poll rfl read)
  · intro revealing
    exact absurd revealing (by decide)

end Settings

namespace World

variable {settings : Settings} {cards : List Card} {session : Session} {log : List Event}
  {world : World}

/-- From a bare board before the flop, while streets are revealed and polls merged in any order and
all answers tell of the same five cards, the board has exactly the cards that its phase holds: the
first ones of the hand, in their order and each of them once. No turn of a reveal moves the phase
back. -/
theorem run_board_agrees (five : cards.length = 5) (distinct : cards.Nodup)
    (valid : ∀ card ∈ cards, card.isValid) (preflop : session.table.phase = .preflop)
    (bare : session.table.board = []) (run : Run settings { session } log world)
    (jobs : ∀ job, .begun job ∈ log → job.reveals ∨ job.polls)
    (told : ∀ index job exchange, .moved index job (some exchange) ∈ log →
      exchange.request.Tells cards exchange.answer) :
    world.session.table.board <+: cards ∧
      world.session.table.board.length = world.session.table.phase.boardCapacity ∧
      world.session.table.board.Nodup ∧
      ∀ index job exchange next, Step settings world (.moved index job exchange) next →
        job.reveals → world.session.table.phase.place ≤ next.session.table.phase.place := by
  let law (job : Job) : Discipline Session := (showing cards job.reveals).onTable
  have shared : ∀ job, (law job).invariant = fun session => session.table.Shows cards :=
    fun _ => rfl
  have expected : ∀ event ∈ log, Expected settings law event := by
    intro event member
    cases event with
    | begun job =>
      rcases job with (intent | body | tableId) | _
      · cases intent with
        | reveal street => exact settings.keeps_showing_reveal five valid street
        | start | join | bet | showdown =>
          exact absurd (jobs _ member) (by simp [Job.reveals, Job.polls])
      · exact absurd (jobs _ member) (by simp [Job.reveals, Job.polls])
      · exact absurd (jobs _ member) (by simp [Job.reveals, Job.polls])
      · exact settings.keeps_showing_poll five
    | moved index job exchange =>
      rintro heard rfl
      exact told index job heard member
  have start : session.table.Shows cards := by
    simp [Table.Shows, preflop, bare, Phase.boardCapacity]
  have nothing : World.Keeps law { session } := fun _ member => absurd member List.not_mem_nil
  rcases run.keeps_of_expected shared expected start nothing with ⟨shows, kept⟩
  have beginning : world.session.table.board <+: cards := by
    rw [shows]
    exact List.take_prefix _ cards
  refine ⟨beginning, shows.length five, distinct.sublist beginning.sublist, ?_⟩
  intro index job exchange next step reveals
  rcases step.keeps shared shows kept with ⟨⟨_, permitted⟩, _⟩
  exact permitted reveals

/-! ## A straggler -/

def fiveCards : List Card := [⟨10⟩, ⟨20⟩, ⟨30⟩, ⟨40⟩, ⟨50⟩]

def publishedPreflop : String := "\x7b\"phase\":\"Preflop\"\x7d"

def publishedTurn : String := "\x7b\"phase\":\"Turn\",\"board_cards\":[10,20,30,40]\x7d"

/-- A poll is answered before the flop and merged after it; the next one is two streets ahead. -/
def straggling : List Move :=
  let early := Answers.ofHand fiveCards publishedPreflop
  let late := Answers.ofHand fiveCards publishedTurn
  Move.alone .poll 0 2 early ++ Move.alone (.user (.dispatch (.reveal .flop))) 1 8 early ++
    [.turn 0 early] ++ Move.alone .poll 2 3 late

/-- The straggler takes the flop back, and the poll after it brings the board of the turn. -/
theorem run_board_agrees_of_straggler :
    ∃ log world,
      Run .headsUp { session := { table := { tableId := 7, phase := .preflop } } } log world ∧
      world.session.table.phase = .turn ∧ world.session.table.board.length = 4 ∧
      world.session.table.board <+: fiveCards ∧ world.session.table.board.Nodup := by
  have run := run_play .headsUp { session := { table := { tableId := 7, phase := .preflop } } }
    straggling
  have five : fiveCards.length = 5 := rfl
  have agrees := run_board_agrees five (by decide) (by decide) rfl rfl run ?_ ?_
  · exact ⟨_, _, run, by decide +kernel, by decide +kernel, agrees.1, agrees.2.2.1⟩
  · intro job member
    have begun : job = .poll ∨ job = .user (.dispatch (.reveal .flop)) ∨ job = .poll := by
      simpa [straggling, Move.alone] using begin_mem_of_begun member
    rcases begun with rfl | rfl | rfl <;> decide
  · intro index job exchange member
    rcases exists_answers_of_heard member with ⟨answers, listed, answered⟩
    have truthful : answers = Answers.ofHand fiveCards publishedPreflop ∨
        answers = Answers.ofHand fiveCards publishedTurn := by
      simp only [straggling, Move.alone, List.mem_append, List.mem_cons, List.mem_replicate,
        Move.turn.injEq, reduceCtorEq, List.not_mem_nil, false_or, or_false] at listed
      rcases listed with ((⟨_, _, early⟩ | ⟨_, _, early⟩) | ⟨_, early⟩) | ⟨_, _, late⟩
      · exact .inl early
      · exact .inl early
      · exact .inl early
      · exact .inr late
    rw [answered]
    rcases truthful with rfl | rfl
    · exact Answers.ofHand_tells (by decide +kernel) _
    · exact Answers.ofHand_tells (by decide +kernel) _

end World

end Holdem
