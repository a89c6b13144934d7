import Holdem.Proofs.Session.Operation
import Holdem.Proofs.Session.StaleCards
import Holdem.Proofs.Table.Places

/-!
# Unambiguous seating

Five operations decide who sits where: the made-up seats of a solo table, deals from named opponents
and from a lobby, joins, and polls. The outside has a say in two of them, and what it has to leave
out is no more than a polled list or a lobby that names somebody twice. Then, however the operations
follow each other, the players of a snapshot are told apart by their addresses and stand in the order
of their seats. A solo table is empty or has the same two players for good.
-/

namespace Holdem

/-- Polls and lobbies name nobody twice. -/
def Request.NamesOnce : (request : Request) → request.Answer → Prop
  | .coordinator _ (.state _), answer =>
    ∀ reply poll, answer = .ok reply → Poll.ofText? reply.state = some poll →
      (poll.entries.map PolledPlayer.address).Nodup
  | .coordinator _ (.lobby _), answer => ∀ lobby, answer = .ok lobby → lobby.wallets.Nodup
  | _, _ => True

/-- Nobody at the table can be mistaken for another. -/
structure Table.Unambiguous (table : Table) (mode : PlayMode) (hero : Address) : Prop
    extends SeatedInOrder table.places where
  solo : mode.isSolo → table.places = [] ∨ table.places = soloPlaces hero

/-- Whether a table is unambiguous shows in who sits where. -/
theorem Table.Unambiguous.of_places {table after : Table} {mode : PlayMode} {hero : Address}
    (unambiguous : table.Unambiguous mode hero) (same : after.places = table.places) :
    after.Unambiguous mode hero where
  toSeatedInOrder := same ▸ unambiguous.toSeatedInOrder
  solo := same ▸ unambiguous.solo

def placing (settings : Settings) : Discipline Table where
  invariant table := table.Unambiguous settings.mode settings.hero
  permits _ _ := True
  permits_refl _ := trivial
  mayBreak := True
  expects := Request.NamesOnce

theorem placing_admits_of_same {settings : Settings} {change : Table → Table}
    (same : ∀ table, (change table).places = table.places) : (placing settings).Admits change :=
  fun table unambiguous => ⟨unambiguous.of_places (same table), trivial⟩

theorem placing_admitsPartial_of_same {settings : Settings} {change : Table → Option (Table × α)}
    (same : ∀ {table after result}, change table = some (after, result) →
      after.places = table.places) : (placing settings).AdmitsPartial change := by
  intro table unambiguous
  rcases changed : change table with _ | ⟨after, result⟩
  · trivial
  · exact ⟨unambiguous.of_places (same changed), trivial⟩

theorem Table.unambiguous_opened (tableId : UInt32) (mode : PlayMode) (hero : Address) :
    (opened tableId).Unambiguous mode hero where
  toSeatedInOrder := seatedInOrder_nil
  solo _ := .inl rfl

namespace Settings

variable {settings : Settings}

/-- Bets, reveals, showdowns and notes move nobody, and a join is sorted in. -/
theorem placing_admission (settings : Settings) : (placing settings).Admission settings where
  hash _ := placing_admits_of_same fun _ => rfl
  proof _ _ := placing_admits_of_same fun _ => rfl
  hole cards _ _ := placing_admits_of_same fun table =>
    table.places_storeHole settings.hero cards
  seat buyIn asked passed seat table unambiguous := by
    refine ⟨⟨Table.seatedInOrder_takeSeat unambiguous.toSeatedInOrder _ _ _, ?_⟩, trivial⟩
    intro solo
    exact absurd solo (by simp [isSolo_of_join passed])
  street street cards size transaction _ := placing_admits_of_same fun table =>
    Table.map_showStreet_of_lasting (fun _ _ _ _ _ => rfl) table street cards size transaction
  decision winner size transaction := placing_admits_of_same fun table =>
    Table.map_decide_of_lasting (fun _ _ _ _ _ => rfl) table settings.mode winner size transaction
  accepted action transaction := placing_admitsPartial_of_same fun applied => by
    rcases Table.applyAccepted?_cases (Table.applyAccepted?_of_map applied) with
      ⟨acted, moved, acts, rfl⟩
    have same : acted.places = _ := Table.map_act?_of_lasting (fun _ _ _ _ _ => rfl) acts
    exact same
  opening _ := placing_admitsPartial_of_same fun opened =>
    map_openSoloBet_of_lasting (fun _ _ _ _ _ => rfl) opened
  closing _ _ := placing_admitsPartial_of_same fun closed =>
    map_closeSoloBet_of_lasting (fun _ _ _ _ _ => rfl) closed

/-- A hand is dealt to distinct addresses, named or from a lobby, or to the two of a solo table. -/
theorem placing_begins {tableId : UInt32} {opponents seats : List Address}
    (named : settings.hero ≠ simulatedOpponent)
    (given : settings.Seats Request.NamesOnce tableId opponents seats) :
    (placing settings).Admits fun table =>
      table.beginHand settings.mode settings.hero seats settings.buyIn settings.soloStack := by
  intro table unambiguous
  refine ⟨?_, trivial⟩
  by_cases solo : settings.mode.isSolo
  · have dealt := Table.places_beginHand_of_solo solo (unambiguous.solo solo) named seats
      settings.buyIn settings.soloStack
    refine ⟨?_, fun _ => .inr dealt⟩
    rw [dealt]
    exact seatedInOrder_soloPlaces named
  · have distinct : seats.Nodup := by
      cases given with
      | named _ checked => exact (wellSeated_of_seatsFor checked).distinct
      | lobby credentials _ _ told => exact told _ rfl
    have inOrder := unambiguous.toSeatedInOrder
    exact ⟨Table.seatedInOrder_beginHand (by simpa using solo) distinct inOrder _ _,
      fun isSolo => absurd isSolo solo⟩

theorem placing_merges {poll : Poll} (distinct : (poll.entries.map PolledPlayer.address).Nodup) :
    (placing settings).Admits fun table => (table.merge settings.mode poll).1 := by
  intro table unambiguous
  refine ⟨⟨Table.seatedInOrder_merge unambiguous.toSeatedInOrder distinct, ?_⟩, trivial⟩
  intro solo
  rw [Table.places_merge_of_silent (.inl solo)]
  exact unambiguous.solo solo

theorem keeps_placing (settings : Settings) (named : settings.hero ≠ simulatedOpponent) (job : Job) :
    (settings.procedure job).Keeps (placing settings).onTable := by
  have turns : ∀ tableId, (placing settings).Admits fun _ => .opened tableId :=
    fun tableId _ _ => ⟨Table.unambiguous_opened tableId settings.mode settings.hero, trivial⟩
  rcases job with (intent | body | tableId) | _
  · by_cases starts : ∃ opponents, intent = .start opponents
    · rcases starts with ⟨opponents, rfl⟩
      apply Step.keeps_exclusively
      apply settings.keeps_perform
      intro table _
      exact settings.keeps_start_of_seats _ opponents (fun _ given => placing_begins named given)
        settings.placing_admission.proof settings.placing_admission.hole
    · apply settings.keeps_dispatch intent settings.placing_admission
      exact fun opponents isStart => absurd ⟨opponents, isStart⟩ starts
  · apply Step.keeps_exclusively
    exact settings.keeps_openTable body turns
  · apply Step.keeps_exclusively
    exact Step.keeps_change (turns tableId)
  · apply settings.keeps_poll
    intro _ reply poll tells read
    exact placing_merges (tells reply poll rfl read)

end Settings

namespace World

variable {settings : Settings} {tableId : UInt32} {log : List Event} {world : World}

/-- As long as no polled list and no lobby names anybody twice, the players of every snapshot have
distinct addresses and stand in the order of their seats, and a solo table is empty or has the hero
in its first seat and the simulated opponent in its second. -/
theorem run_unambiguous (named : settings.hero ≠ simulatedOpponent)
    (run : Run settings (opened tableId) log world)
    (told : ∀ index job exchange, .moved index job (some exchange) ∈ log →
      exchange.request.NamesOnce exchange.answer) :
    (world.session.table.players.map Player.address).Nodup ∧
      (world.session.table.players.map Player.seat).Pairwise (· ≤ ·) ∧
      (settings.mode = .single →
        world.session.table.players = [] ∨
          world.session.table.players.map (fun player => (player.address, player.seat)) =
            [(settings.hero, 0), (simulatedOpponent, 1)]) := by
  have expected : ∀ event ∈ log, Expected settings (fun _ => (placing settings).onTable) event := by
    intro event member
    cases event with
    | begun job => exact settings.keeps_placing named job
    | moved index job exchange =>
      rintro heard rfl
      exact told index job heard member
  have start : (opened tableId).session.table.Unambiguous settings.mode settings.hero :=
    Table.unambiguous_opened tableId settings.mode settings.hero
  rcases run.keeps_of_expected (fun _ => rfl) expected start (keeps_opened tableId) with
    ⟨unambiguous, _⟩
  refine ⟨?_, ?_, ?_⟩
  · rw [← Table.places_addresses]
    exact unambiguous.distinct
  · rw [← Table.places_seats]
    exact unambiguous.sorted
  · intro single
    refine (unambiguous.solo (by simp [PlayMode.isSolo, single])).imp_left ?_
    exact List.map_eq_nil_iff.mp

theorem hosting_namesOnce (request : Request) : request.NamesOnce (Answers.hosting "" request) := by
  rcases request with ⟨_, call⟩ | _ | _ | _ | _ | _ | _
  · cases call with
    | state =>
      rintro reply poll ⟨⟩ read
      have unread : Poll.ofText? "" = none := by decide +kernel
      exact absurd (unread.symm.trans read) nofun
    | lobby => nofun
    | _ => trivial
  all_goals trivial

/-- The hero joins and has a hand dealt with the villain. -/
theorem run_unambiguous_of_deal :
    ∃ log, Run .headsUp (opened 7) log (dealt false) ∧ "hero" ≠ simulatedOpponent ∧
      (dealt false).session.table.places = [("hero", 0), (villain, 1)] ∧
      ((dealt false).session.table.players.map Player.address).Nodup ∧
      ((dealt false).session.table.players.map Player.seat).Pairwise (· ≤ ·) := by
  have run : Run .headsUp (opened 7) _ (dealt false) :=
    run_joined.append (run_play .headsUp joined _)
  have named : Settings.headsUp.hero ≠ simulatedOpponent := by decide
  have unambiguous := run_unambiguous named run ?_
  · exact ⟨_, run, named, by decide +kernel, unambiguous.1, unambiguous.2.1⟩
  · intro index job exchange member
    rcases List.mem_append.mp member with joins | deals
    · rcases exists_answers_of_heard joins with ⟨answers, listed, answered⟩
      rw [answered, Move.answers_of_alone listed]
      exact hosting_namesOnce exchange.request
    · rcases exists_answers_of_heard deals with ⟨answers, listed, answered⟩
      rw [answered, Move.answers_of_alone listed]
      exact hosting_namesOnce exchange.request

end World

end Holdem
