import Holdem.Proofs.Session.Merging
import Holdem.Proofs.Session.Operation
import Holdem.Proofs.Session.Start

/-!
# Private cards and the count of hands

A poll whose hand number is ahead of the snapshot's takes the private cards away. But the snapshot's
number is a count of its own: a deal pushes it on before it is known whether the coordinator deals,
and nothing takes that back. After a deal that failed the count is ahead of the authority's for good.
Then the next hand comes up to the count without being ahead of it, and the cards of the hand before
are kept.

So cards outlast the two polls only where the count had come to the number of the second before the
first, and then they are the same cards of the same players.
-/

namespace Holdem

/-! ## What becomes known -/

/-- No private cards become known and the count of hands stays. -/
structure Table.LearnsNothing (before after : Table) : Prop where
  handNumber : after.handNumber = before.handNumber
  known : ∀ secret ∈ after.secrets, secret.2 = none ∨ secret ∈ before.secrets

namespace Table.LearnsNothing

variable {first middle last : Table}

theorem refl (table : Table) : table.LearnsNothing table :=
  ⟨rfl, fun _ member => .inr member⟩

theorem trans (early : first.LearnsNothing middle) (late : middle.LearnsNothing last) :
    first.LearnsNothing last where
  handNumber := late.handNumber.trans early.handNumber
  known secret member := by
    rcases late.known secret member with hidden | known
    · exact .inl hidden
    · exact early.known secret known

theorem blind (learns : first.LearnsNothing last) (blind : first.Blind) : last.Blind := by
  rw [Table.blind_iff] at blind ⊢
  intro secret member
  rcases learns.known secret member with hidden | known
  · exact hidden
  · exact blind secret known

end Table.LearnsNothing

theorem Table.blind_or_merge (table : Table) (mode : PlayMode) (poll : Poll) :
    (table.merge mode poll).1.Blind ∨ table.LearnsNothing (table.merge mode poll).1 := by
  by_cases ahead : ∃ number, poll.handNumber = some number ∧ table.handNumber < number
  · rcases ahead with ⟨number, told, ahead⟩
    exact .inl (Table.blind_merge told ahead mode).1
  · right
    refine ⟨?_, fun secret member => Table.mem_secrets_merge member⟩
    have notAhead : poll.NotAhead table := by
      intro number told
      exact Nat.le_of_not_lt fun less => ahead ⟨number, told, less⟩
    rw [(table.merge_seats mode poll).1, Table.mergeHand_of_notAhead notAhead]

/-- An operation that stores no cards leaves none known, or none become known. -/
theorem Operation.blind_or {settings : Settings} {job : Job} {before after : Table}
    (operation : Operation settings job before after)
    (unfetched : ∀ cards, job.deals → after = before.storeHole settings.hero cards →
      after = before) :
    after.Blind ∨ before.LearnsNothing after := by
  rcases operation.plays_or with
    ⟨count, same | ⟨_, seated⟩⟩ | ⟨_, seats, rfl⟩ | ⟨deals, cards, stored⟩ | ⟨_, tableId, rfl⟩ |
      ⟨_, _, poll, _, rfl⟩
  · refine .inr ⟨count, ?_⟩
    rw [same]
    exact fun _ member => .inr member
  · refine .inr ⟨count, ?_⟩
    intro secret member
    rcases List.mem_cons.mp (seated.mem_iff.mp member) with rfl | old
    · exact .inl rfl
    · exact .inr old
  · exact .inl (before.blind_beginHand settings.mode settings.hero seats _ _)
  · rw [unfetched cards deals stored]
    exact .inr (.refl before)
  · exact .inl fun _ member => absurd member List.not_mem_nil
  · exact before.blind_or_merge settings.mode poll

/-! ## Two polls -/

namespace World

variable {settings : Settings} {session : Session} {log later : List Event}
  {world between before last : World} {event : Event}

/-- A step in which no private cards are stored. -/
def Unfetched (settings : Settings) (before : World) (event : Event) (after : World) : Prop :=
  Step settings before event after ∧
    ∀ index job exchange cards, event = .moved index job exchange → job.deals →
      after.session.table = before.session.table.storeHole settings.hero cards →
        after.session.table = before.session.table

theorem blind_or_of_path (run : Run settings { session } log between)
    (path : Path (Unfetched settings) between later before) :
    before.session.table.Blind ∨ between.session.table.LearnsNothing before.session.table := by
  induction path with
  | refl => exact .inr (.refl _)
  | @snoc middle last log event path next hypothesis =>
    have onwards : Run settings between log middle := path.mono And.left
    have step : last.session.table.Blind ∨
        middle.session.table.LearnsNothing last.session.table := by
      rcases operation_of_step (run.append onwards) next.1 with
        same | ⟨index, job, exchange, moved, operation⟩
      · rw [same]
        exact .inr (.refl _)
      · apply operation.blind_or
        intro cards deals stored
        exact next.2 index job exchange cards moved deals stored
    rcases step with blind | learns
    · exact .inl blind
    · rcases hypothesis with blind | learnt
      · exact .inl (learns.blind blind)
      · exact .inr (learnt.trans learns)

/-- Two polls are merged, and no private cards are stored in between. When the second tells a later
hand than the first, no cards are known after it where the count of hands was not ahead of the first.
In any case, cards that are still known then were known of the same player before the first poll,
and the count had come to the number of the second already and has stayed there. -/
theorem cards_after_later_hand (run : Run settings { session } log world) {older newer : Poll}
    {second : UInt32} {eventLater : Event} (merges : Merges settings older world event between)
    (path : Path (Unfetched settings) between later before)
    (mergesLater : Merges settings newer before eventLater last)
    (told : newer.handNumber = some second) :
    (∀ first, older.handNumber = some first → first < second →
        world.session.table.handNumber ≤ first → last.session.table.Blind) ∧
      ∀ secret ∈ last.session.table.secrets, secret.2 ≠ none →
        second ≤ world.session.table.handNumber ∧
          last.session.table.handNumber = world.session.table.handNumber ∧
          secret ∈ world.session.table.secrets := by
  have upToLast : last.session.table.Blind ∨
      world.session.table.LearnsNothing before.session.table ∧
        before.session.table.LearnsNothing last.session.table := by
    rcases before.session.table.blind_or_merge settings.mode newer with blind | learnsLast
    · rw [mergesLater.2.2]
      exact .inl blind
    rw [← mergesLater.2.2] at learnsLast
    rcases blind_or_of_path (run.snoc merges.1) path with blind | learns
    · exact .inl (learnsLast.blind blind)
    rcases world.session.table.blind_or_merge settings.mode older with blind | learnsFirst
    · rw [← merges.2.2] at blind
      exact .inl (learnsLast.blind (learns.blind blind))
    · rw [← merges.2.2] at learnsFirst
      exact .inr ⟨learnsFirst.trans learns, learnsLast⟩
  have survivors : ∀ secret ∈ last.session.table.secrets, secret.2 ≠ none →
      second ≤ world.session.table.handNumber ∧
        last.session.table.handNumber = world.session.table.handNumber ∧
        secret ∈ world.session.table.secrets := by
    intro secret member known
    rcases upToLast with blind | ⟨learns, learnsLast⟩
    · exact absurd (Table.blind_iff.mp blind secret member) known
    · refine ⟨?_, learnsLast.handNumber.trans learns.handNumber, ?_⟩
      · -- had the second poll been ahead it would have taken the cards
        rw [← learns.handNumber]
        apply UInt32.not_lt.mp
        intro ahead
        have blind := (Table.blind_merge told ahead settings.mode).1
        rw [← mergesLater.2.2] at blind
        exact known (Table.blind_iff.mp blind secret member)
      · exact ((learns.trans learnsLast).known secret member).resolve_left known
  refine ⟨?_, survivors⟩
  intro first _ rises behind
  rw [Table.blind_iff]
  intro secret member
  by_cases known : secret.2 = none
  · exact known
  · have reached := (survivors secret member known).1
    lia

/-! ## A deal that failed -/

theorem Fetches.unfetched (step : Fetches settings before event last) :
    Unfetched settings before event last := by
  refine ⟨step.1, ?_⟩
  intro _ _ _ _ _ _ _
  exact congrArg Session.table step.2.1

theorem exists_merges_twice (settings : Settings) {raw rawLater : String} {older newer : Poll}
    (free : world.held = none) (read : Poll.ofText? raw = some older)
    (readLater : Poll.ofText? rawLater = some newer) :
    ∃ log later ready between before last event eventLater,
      Run settings world log ready ∧ ready.session = world.session ∧
      Merges settings older ready event between ∧ Path (Unfetched settings) between later before ∧
      before.session = between.session ∧ Merges settings newer before eventLater last := by
  rcases exists_merges settings free read with
    ⟨log, ready, event, between, path, same, merges, freeLater⟩
  rcases exists_merges settings freeLater readLater with
    ⟨later, before, eventLater, last, pathLater, sameLater, mergesLater, _⟩
  exact ⟨log, later, ready, between, before, last, event, eventLater, path.mono And.left, same,
    merges, pathLater.mono Fetches.unfetched, sameLater, mergesLater⟩

end World

/-- The coordinator seats the hero, and grants deals and private cards; this is published of the
table. -/
def Answers.hosting (published : String) : Answers
  | .coordinator _ (.join tableId) =>
    .ok { tableId, seat := 0, seatAddress := "hero", joinedWallets := 1, maxPlayers := 2 }
  | .coordinator _ (.cards _ _) =>
    .ok { first := 3, second := 17, firstSalt := "", secondSalt := "" }
  | request => Answers.granting published request

namespace World

/-- The hero has taken a seat at a table for two. -/
def joined : World where
  session :=
    { table :=
        { tableId := 7
          players := [{ address := "hero", seat := 0, stack := 1000000000 }]
          confirmed := false }
      nonces := { last := 1 } }
  running := [⟨.user (.dispatch (.join none)), .finish (.ok (.joined 0 1 2))⟩]

/-- How the hero has taken it. -/
def joining : List Move :=
  Move.alone (.user (.dispatch (.join none))) 0 8 (.hosting "")

theorem run_joined : Run .headsUp (opened 7) (scheduled .headsUp 7 joining).1 joined := by
  have run := run_scheduled .headsUp 7 joining
  have reached : (scheduled .headsUp 7 joining).2 =
      let players := sortBySeat joined.session.table.players
      { joined with session := { joined.session with
        table := { joined.session.table with players } } } := rfl
  rw [reached, show sortBySeat joined.session.table.players = _ from List.mergeSort_singleton _]
    at run
  exact run

theorem exists_run_joined : ∃ log, Run .headsUp (opened 7) log joined :=
  ⟨_, run_joined⟩

/-- The hero has been dealt cards, after a deal that failed or without one. -/
def dealt (failed : Bool) : World :=
  let failing := if failed then
      Move.alone (.user (.dispatch (.start [villain]))) 1 9 .offline ++
        Move.alone .poll 2 3 (.hosting "\x7b\"phase\":\"Waiting\",\"hand_number\":0\x7d")
    else []
  let index := if failed then 3 else 1
  (play .headsUp (fun _ _ _ => true) joined
    (failing ++ Move.alone (.user (.dispatch (.start [villain]))) index 15 (.hosting ""))).2

theorem exists_run_dealt (failed : Bool) : ∃ log, Run .headsUp (opened 7) log (dealt failed) := by
  exact ⟨_, run_joined.append (run_play .headsUp joined _)⟩

/-- After a deal that was granted the hero has cards and one seat in the hand that is counted. -/
theorem dealt_granted :
    (dealt false).session.table.hole? "hero" = some (⟨3⟩, ⟨17⟩) ∧
      ((dealt false).session.table.players.map Player.address).count "hero" = 1 ∧
      (dealt false).session.table.handNumber = 1 ∧ (dealt false).held = none := by
  decide +kernel

theorem read_hand : Poll.ofText? "\x7b\"hand_number\":1\x7d" = some { handNumber := some 1 } := by
  decide +kernel

theorem read_nextHand :
    Poll.ofText? "\x7b\"hand_number\":2\x7d" = some { handNumber := some 2 } := by
  decide +kernel

/-- After a deal that was granted the next hand takes the cards away. -/
theorem cards_after_later_hand_of_deal :
    ∃ log later world event between before eventLater last,
      Run .headsUp (opened 7) log world ∧ world.session.table.hole? "hero" = some (⟨3⟩, ⟨17⟩) ∧
      Merges .headsUp { handNumber := some 1 } world event between ∧
      Path (Unfetched .headsUp) between later before ∧
      Merges .headsUp { handNumber := some 2 } before eventLater last ∧
      last.session.table.Blind := by
  rcases dealt_granted with ⟨held, _, count, free⟩
  rcases exists_run_dealt false with ⟨_, run⟩
  rcases exists_merges_twice .headsUp free read_hand read_nextHand with
    ⟨_, _, world, between, before, last, _, _, ready, same, merges, path, _, mergesLater⟩
  rw [← same] at held count
  have onwards := run.append ready
  have blind := (cards_after_later_hand onwards merges path mergesLater rfl).1 1 rfl (by decide)
    (UInt32.le_of_eq count)
  exact ⟨_, _, world, _, between, before, _, last, onwards, held, merges, path, mergesLater, blind⟩

/-- After a deal that failed the next hand comes up to the count without being ahead of it, and the
hero keeps the cards of the hand before. -/
theorem stale_cards_kept :
    ¬∀ (settings : Settings) (tableId : UInt32) (log later : List Event)
      (world between before last : World) (event eventLater : Event) (older newer : Poll)
      (first second : UInt32), settings.mode.isSolo = false → Run settings (opened tableId) log world →
      Merges settings older world event between → older.handNumber = some first →
      Path (Unfetched settings) between later before →
      Merges settings newer before eventLater last → newer.handNumber = some second →
      first < second → last.session.table.Blind := by
  intro dropped
  let older : Poll := { handNumber := some 1 }
  let newer : Poll := { handNumber := some 2 }
  have free : (dealt true).held = none := by decide +kernel
  rcases exists_run_dealt true with ⟨_, run⟩
  rcases exists_merges_twice .headsUp free read_hand read_nextHand with
    ⟨_, _, world, between, before, last, _, _, ready, same, merges, path, sameLater, mergesLater⟩
  have blind := dropped .headsUp 7 _ _ world between before last _ _ older newer 1 2 rfl
    (run.append ready) merges rfl path mergesLater rfl (by decide)
  rw [mergesLater.2.2, sameLater, merges.2.2, same] at blind
  have kept :
      ¬(((dealt true).session.table.merge .headsup older).1.merge .headsup newer).1.Blind := by
    decide +kernel
  exact kept blind

end World

end Holdem
