import Holdem.Proofs.Session.StaleCards
import Holdem.Proofs.Table.Reseating

/-!
# Private cards under public polls

Public polls know nothing of private cards, so the cards stay with the player as long as the player
keeps the seat. Outside a solo session a poll that lists players decides who does. Its list is taken
for complete once the entries that cannot be read have been dropped. A poll in which just the hero's
own entry is unreadable unseats the hero, and the cards are gone although it said nothing about them.
-/

namespace Holdem

/-- A poll that is not ahead and does not unseat the hero: it lists nobody, or the hero once. -/
structure Poll.Spares (poll : Poll) (settings : Settings) (table : Table) : Prop where
  notAhead : poll.NotAhead table
  named : settings.mode.isSolo ∨ poll.entries = [] ∨
    (poll.entries.map PolledPlayer.address).count settings.hero = 1

namespace Poll

/-- The player entries of a payload, readable or not. -/
def listed (raw : String) : List Json :=
  (((Json.parseValue (Text.trim raw)).bind (Json.member? "players")).bind Json.items?).getD []

/-- A payload lists players, each of them readable, and an address is not among them. -/
def LeavesOut (address : Address) (raw : String) : Prop :=
  listed raw ≠ [] ∧ ∀ item ∈ listed raw, ∃ polled ∈ player? item, polled.address ≠ address

instance (address : Address) (raw : String) : Decidable (LeavesOut address raw) :=
  inferInstanceAs (Decidable (_ ∧ ∀ item ∈ listed raw, ∃ polled ∈ player? item, _))

/-- Of the entries of a payload those are kept that can be read. -/
theorem entries_eq {raw : String} {poll : Poll} (read : ofText? raw = some poll) :
    poll.entries = (listed raw).filterMap player? := by
  simp only [ofText?, Option.bind_eq_some_iff, Option.map_eq_some_iff] at read
  rcases read with ⟨json, parsed, members, object, rfl⟩
  simp only [entries, listed, parsed, Option.bind_some, Json.member?, object, ofMembers]
  rcases Json.lookup "players" members with _ | players
  · rfl
  rcases items : players.items? with _ | items
  · simp [players?, items]
  · simp [players?, items]

/-- A payload whose entries can all be read lists nobody, leaves a player out or names the player. -/
theorem named_of_readable {raw : String} {poll : Poll} {address : Address}
    (read : ofText? raw = some poll) (readable : ∀ item ∈ listed raw, (player? item).isSome)
    (included : ¬LeavesOut address raw) :
    poll.entries = [] ∨ address ∈ poll.entries.map PolledPlayer.address := by
  rw [entries_eq read]
  by_cases none : listed raw = []
  · rw [none]
    exact .inl rfl
  · right
    simp only [LeavesOut, not_and, not_forall] at included
    rcases included none with ⟨item, member, named⟩
    rcases Option.isSome_iff_exists.mp (readable item member) with ⟨polled, entry⟩
    have same : polled.address = address := by
      apply Decidable.not_not.mp
      exact fun other => named ⟨polled, entry, other⟩
    exact List.mem_map.mpr ⟨polled, List.mem_filterMap.mpr ⟨item, member, entry⟩, same⟩

end Poll

/-- The hero has these cards, and outside a solo session a single seat. -/
structure Table.HeroHolds (table : Table) (settings : Settings) (cards : Card × Card) : Prop where
  held : table.hole? settings.hero = some cards
  alone : settings.mode.isSolo ∨ table.Holds settings.hero cards

section Operations

variable {settings : Settings} {cards : Card × Card} {before after : Table}

theorem Table.HeroHolds.of_secrets (holds : before.HeroHolds settings cards)
    (same : after.secrets = before.secrets) : after.HeroHolds settings cards where
  held := by
    rw [Table.hole?_eq, same, ← Table.hole?_eq]
    exact holds.held
  alone := by
    rw [Table.Holds, same]
    exact holds.alone

/-- A hero with cards has a seat, and does not take another. -/
theorem Table.HeroHolds.plays (holds : before.HeroHolds settings cards)
    (plays : before.Plays settings.hero after) : after.HeroHolds settings cards := by
  rcases plays.secrets with same | ⟨absent, _⟩
  · exact holds.of_secrets same
  · have held := holds.held
    have unseated : before.player? settings.hero = none := by simpa [Table.isSeated] using absent
    simp [Table.hole?, unseated] at held

theorem Table.HeroHolds.merge {poll : Poll} (holds : before.HeroHolds settings cards)
    (spares : poll.Spares settings before) :
    (before.merge settings.mode poll).1.HeroHolds settings cards := by
  rcases holds.alone with solo | alone
  · apply holds.of_secrets
    simp only [Table.secrets, Table.players_merge spares.notAhead (.inl solo)]
  · have kept := alone.merge spares.notAhead spares.named
    exact ⟨kept.hole?, .inr kept⟩

end Operations

namespace World

variable {settings : Settings} {session : Session} {log later : List Event} {world last : World}
  {cards : Card × Card}

/-- A step without a deal and without a change of the table, in which a poll, if one is merged,
spares the hero. -/
def Public (settings : Settings) (before : World) (event : Event) (after : World) : Prop :=
  Step settings before event after ∧
    ∀ index job exchange, event = .moved index job exchange →
      (job.deals ∨ job.turnsTable → after.session.table = before.session.table) ∧
      (job.polls → after.session.table = before.session.table ∨
        ∃ poll : Poll, poll.Spares settings before.session.table ∧
          after.session.table = (before.session.table.merge settings.mode poll).1)

theorem heroHolds_of_path (run : Run settings { session } log world)
    (holds : world.session.table.HeroHolds settings cards)
    (path : Path (Public settings) world later last) :
    last.session.table.HeroHolds settings cards := by
  induction path with
  | refl => exact holds
  | @snoc middle last log event path next hypothesis =>
    have onwards : Run settings world log middle := path.mono And.left
    rcases operation_of_step (run.append onwards) next.1 with
      same | ⟨index, job, exchange, moved, operation⟩
    · rw [same]
      exact hypothesis
    · rcases next.2 index job exchange moved with ⟨still, polled⟩
      rcases operation.plays_or with
        plays | ⟨dealing, _⟩ | ⟨dealing, _⟩ | ⟨turns, _⟩ | ⟨polls, _⟩
      · exact hypothesis.plays plays
      · rw [still (.inl dealing)]
        exact hypothesis
      · rw [still (.inl dealing)]
        exact hypothesis
      · rw [still (.inr turns)]
        exact hypothesis
      · rcases polled polls with same | ⟨poll, spares, merged⟩
        · rw [same]
          exact hypothesis
        · rw [merged]
          exact hypothesis.merge spares

theorem Fetches.isPublic {before after : World} {event : Event}
    (step : Fetches settings before event after) : Public settings before event after := by
  refine ⟨step.1, ?_⟩
  intro _ _ _ _
  have same : after.session.table = before.session.table := congrArg Session.table step.2.1
  exact ⟨fun _ => same, fun _ => .inl same⟩

theorem Merges.isPublic {before after : World} {event : Event} {poll : Poll}
    (step : Merges settings poll before event after)
    (spares : poll.Spares settings before.session.table) : Public settings before event after := by
  refine ⟨step.1, ?_⟩
  rintro index job exchange moved
  rcases step.2.1 with ⟨_, _, _, same, polls⟩
  rw [moved] at same
  cases same
  refine ⟨?_, fun _ => .inr ⟨poll, spares, step.2.2⟩⟩
  rintro (deals | turns)
  · exact absurd polls (Job.not_polls_of_deals deals)
  · exact absurd polls (Job.not_polls_of_turnsTable turns)

/-- Whatever else happens, a hero with one seat keeps the private cards as long as no hand is begun,
no table turned to, and no poll is ahead or lists players without naming the hero exactly once.

Of the payloads that are not ahead and name the hero at most once, exactly those leave the cards that
list nobody who can be read, or the hero; in a solo session all of them do. Where every entry can be
read these are the payloads that do not leave out the hero. -/
theorem cards_after_public_polls (run : Run settings { session } log world)
    (held : world.session.table.hole? settings.hero = some cards)
    (once : settings.mode.isSolo ∨
      (world.session.table.players.map Player.address).count settings.hero = 1)
    (path : Path (Public settings) world later last) :
    last.session.table.hole? settings.hero = some cards ∧
      ∀ raw poll, Poll.ofText? raw = some poll → poll.NotAhead last.session.table →
        (poll.entries.map PolledPlayer.address).count settings.hero ≤ 1 →
        ((last.session.table.merge settings.mode poll).1.hole? settings.hero = some cards ↔
          settings.mode.isSolo ∨ poll.entries = [] ∨
            settings.hero ∈ poll.entries.map PolledPlayer.address) ∧
        ((∀ item ∈ Poll.listed raw, (Poll.player? item).isSome) →
          ¬Poll.LeavesOut settings.hero raw →
          (last.session.table.merge settings.mode poll).1.hole? settings.hero = some cards) := by
  have holds : world.session.table.HeroHolds settings cards :=
    ⟨held, once.imp_right (Table.holds_of_hole? held)⟩
  have kept := heroHolds_of_path run holds path
  refine ⟨kept.held, ?_⟩
  intro raw poll read notAhead atMostOnce
  have leaves : (last.session.table.merge settings.mode poll).1.hole? settings.hero = some cards ↔
      settings.mode.isSolo ∨ poll.entries = [] ∨
        settings.hero ∈ poll.entries.map PolledPlayer.address := by
    rcases kept.alone with solo | alone
    · have spared := kept.merge ⟨notAhead, .inl solo⟩
      exact ⟨fun _ => .inl solo, fun _ => spared.held⟩
    · exact alone.merge_iff notAhead atMostOnce
  refine ⟨leaves, ?_⟩
  intro readable included
  exact leaves.mpr (.inr (Poll.named_of_readable read readable included))

/-! ## An entry that cannot be read -/

/-- A payload with this entry and one for the villain. -/
def payload (entry : String) : String :=
  "\x7b\"players\":[" ++ entry ++ ",\x7b\"address\":\"" ++ villain ++ "\"\x7d]\x7d"

/-- A poll that lists the hero and the villain leaves the hero's cards. -/
theorem cards_after_public_polls_of_both :
    ∃ log world later last cards, Run .headsUp (opened 7) log world ∧
      world.session.table.hole? "hero" = some cards ∧
      Path (Public .headsUp) world later last ∧ last.session.table.confirmed = true ∧
      last.session.table.hole? "hero" = some cards := by
  let poll : Poll :=
    { players := some [{ address := "hero", stack := some 5 }, { address := villain }] }
  have read : Poll.ofText? (payload "\x7b\"address\":\"hero\",\"stack\":5\x7d") = some poll := by
    decide +kernel
  rcases dealt_granted with ⟨held, once, _, free⟩
  rcases exists_run_dealt false with ⟨_, run⟩
  rcases exists_merges .headsUp free read with
    ⟨_, before, event, last, path, same, merges, _⟩
  have spares : poll.Spares .headsUp before.session.table :=
    ⟨fun _ told => absurd told (by simp [poll]), .inr (.inr (by decide +kernel))⟩
  have onwards := (path.mono Fetches.isPublic).snoc (merges.isPublic spares)
  have confirmed : last.session.table.confirmed = true := by
    rw [merges.2.2]
    rfl
  exact ⟨_, _, _, last, _, run, held, onwards, confirmed,
    (cards_after_public_polls run held (.inr once) onwards).1⟩

/-- A poll that lists the villain and an entry without an address takes the hero's seat and cards
away. It does not leave out the hero, for the entry might be the hero's. -/
theorem unreadable_entry_takes_cards :
    ¬∀ (settings : Settings) (tableId : UInt32) (log : List Event) (world last : World)
      (event : Event) (cards : Card × Card) (raw : String) (poll : Poll),
      Run settings (opened tableId) log world →
      world.session.table.hole? settings.hero = some cards →
      (world.session.table.players.map Player.address).count settings.hero = 1 →
      Poll.ofText? raw = some poll → poll.NotAhead world.session.table →
      ¬Poll.LeavesOut settings.hero raw → Merges settings poll world event last →
      last.session.table.hole? settings.hero = some cards := by
  intro kept
  let poll : Poll := { players := some [{ address := villain }] }
  have read : Poll.ofText? (payload "\x7b\"stack\":5\x7d") = some poll ∧
      ¬Poll.LeavesOut "hero" (payload "\x7b\"stack\":5\x7d") := by
    decide +kernel
  rcases dealt_granted with ⟨held, once, _, free⟩
  rcases exists_run_dealt false with ⟨_, run⟩
  rcases exists_merges .headsUp free read.1 with
    ⟨_, before, event, last, path, same, merges, _⟩
  rw [← same] at held once
  have onwards := run.append (path.mono And.left)
  have notAhead : poll.NotAhead before.session.table :=
    fun _ told => absurd told (by simp [poll])
  have still := kept .headsUp 7 _ before last event _ _ poll onwards held once read.1 notAhead
    read.2 merges
  have gone : last.session.table.player? "hero" = none := by
    rw [merges.2.2]
    exact Table.player?_merge_of_unnamed rfl (by simp [Poll.entries, poll]) (by decide +kernel)
  rw [Table.hole?, show Settings.hero .headsUp = "hero" from rfl, gone] at still
  exact absurd still (by simp)

end World

end Holdem
