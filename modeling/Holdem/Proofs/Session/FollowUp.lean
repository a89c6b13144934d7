import Holdem.Proofs.Session.Ending
import Holdem.Proofs.Session.LocalChange

/-!
# Follow-ups that failed

A solo bet that closes its round asks for what comes next, a street or the showdown, before it
completes. When that request fails the bet fails with it, although the chips have moved and the
opponent has replied. Nothing is lost: the request can be made as an intent of its own, and it
leaves the snapshot that the bet would have left.

This rests on three things. A failed request changes nothing; the closed round is still in the phase
of the bet, and the check of an intent, the street it asks for and the follow-up of a bet agree on
what comes next in a phase; and what a request does depends only on the snapshot and on what is told
in reply.
-/

namespace Holdem

/-- What a player asks for once the round of a phase is closed. -/
def Intent.onwards (phase : Phase) : Intent :=
  match phase.nextStreet? with
  | some street => .reveal street
  | none => .showdown

/-- What follows a betting round is allowed as long as the phase is that of the round. -/
theorem Intent.check_onwards {table : Table} {mode : PlayMode} {hero : Address} {phase : Phase}
    (betting : phase.isBettingRound = true) (same : table.phase = phase) :
    (Intent.onwards phase).check table mode hero = .ok () := by
  unfold onwards
  rcases next : phase.nextStreet? with _ | street
  · have river : phase = .river := by
      cases phase with
      | river => rfl
      | waiting | dealing | showdown | settlement => exact absurd betting (by decide)
      | preflop | flop | turn => exact absurd next (by decide)
    simp only [check, same, river, true_or, ↓reduceIte]
  · have requested := Street.nextStreet?_eq_some_iff.mp next
    simp only [check, same, requested, ↓reduceIte]

theorem Intent.isBettingRound_of_check {table : Table} {mode : PlayMode} {hero : Address}
    {action : Action} (accepted : (Intent.bet action).check table mode hero = .ok ()) :
    table.phase.isBettingRound = true := by
  cases betting : table.phase.isBettingRound with
  | true => rfl
  | false => simp [check, checkBet, betting] at accepted

namespace Settings

variable {settings : Settings} {mode : PlayMode} {tableId : UInt32} {session last : Session}
  {polls : List Poll} {words : List Word} {result : Except ActionFault Outcome}

/-! ## What a request for the next street or the showdown comes to -/

/-- The request that follows a closed round: its street, or the showdown where there is none. -/
def followUp (settings : Settings) (tableId : UInt32) : Option Street → Step Outcome
  | some street => settings.reveal tableId street
  | none => settings.showdown tableId

/-- What a follow-up is told and comes to, and what it makes of a table. -/
inductive Sequel (settings : Settings) (tableId : UInt32) (table : Table) :
    Option Street → List Word → Except ActionFault Outcome → Table → Prop
  | failed {street : Option Street} {fault : ActionFault} (late : fault.isPrecondition = false) :
    Sequel settings tableId table street [] (.error fault) table
  | revealed (street : Street) (reply : RevealReply) {cards : List Card}
      (shown : cards = (reply.cards.map Card.mk).filter Card.isValid) :
    Sequel settings tableId table (some street) [.granted (.reveal tableId street) reply]
      (.ok (.revealed street cards))
      (table.showStreet street cards reply.proofSize.toNat reply.transaction)
  /-- The lobby is told when the winner is not seated, unless it cannot be had. -/
  | settled (reply : ShowdownReply) (lobby : Option Lobby) {winner : Address}
      (resolved : winner = resolveWinner table lobby reply.winner reply.winnerSeat) :
    Sequel settings tableId table none
      (.granted (.showdown tableId) reply :: (lobby.map (Word.granted (.lobby tableId))).toList)
      (.ok (.settled winner))
      (table.decide settings.mode settings.arithmetic winner reply.proofSize.toNat
        reply.transaction)

theorem hears_reveal {street : Street}
    (hears : (settings.reveal tableId street).Hears mode session polls words result last) :
    last.busy = session.busy ∧ settings.Sequel tableId (session.table.mergeAll mode polls)
      (some street) words result last.table := by
  rcases Step.hears_bind_cases hears with
    ⟨fault, rfl, failed⟩ | ⟨reply, middle, early, late, first, later, rfl, rfl, called, shown⟩
  · rcases hears_call failed with ⟨same, busy, rfl, late⟩
    rw [same]
    exact ⟨busy, .failed late⟩
  · rcases hears_call called with ⟨same, busy, rfl⟩
    rcases shown with ⟨merged, _, rfl, rfl, rfl, rfl, rfl⟩
    rw [List.append_nil, List.append_nil, Table.mergeAll_append, ← same]
    exact ⟨busy, .revealed street reply rfl⟩

theorem hears_lobbyFor {winner : Address} {found : Except ActionFault (Option Lobby)}
    (hears : (settings.lobbyFor tableId winner).Hears mode session polls words found last) :
    last.table = session.table.mergeAll mode polls ∧ last.busy = session.busy ∧
      ∃ lobby, found = .ok lobby ∧
        words = (lobby.map (Word.granted (.lobby tableId))).toList := by
  rcases hears with ⟨merged, later, rfl, hears⟩
  let seen := session.onTable (Table.mergeAll mode merged)
  change (if seen.table.isSeated winner then _ else _ : Step (Option Lobby)).Hears mode seen _ _ _ _
    at hears
  rw [Table.mergeAll_append]
  split at hears
  · rcases hears with ⟨rfl, rfl, rfl, rfl⟩
    exact ⟨rfl, rfl, none, rfl, rfl⟩
  rcases hears.of_bind with ⟨_, middle, _, _, _, _, rfl, rfl, attempted, rest⟩
  rcases attempted.of_bind with ⟨answer, _, _, _, _, _, rfl, rfl, called, rfl, rfl, rfl, rfl⟩
  rcases hears_call called with ⟨same, busy, reports⟩
  rcases answer with fault | lobby
  · rcases reports with ⟨rfl, _⟩
    rcases rest with ⟨rfl, rfl, rfl, rfl⟩
    rw [List.append_nil, List.append_nil]
    exact ⟨same, busy, none, rfl, rfl⟩
  · cases reports
    rcases rest with ⟨rfl, rfl, rfl, rfl⟩
    rw [List.append_nil, List.append_nil]
    exact ⟨same, busy, some lobby, rfl, rfl⟩

theorem hears_showdown
    (hears : (settings.showdown tableId).Hears mode session polls words result last) :
    last.busy = session.busy ∧
      settings.Sequel tableId (session.table.mergeAll mode polls) none words result last.table := by
  rcases Step.hears_bind_cases hears with
    ⟨fault, rfl, failed⟩ | ⟨reply, middle, early, late, _, later, rfl, rfl, called, rest⟩
  · rcases hears_call failed with ⟨same, busy, rfl, late⟩
    rw [same]
    exact ⟨busy, .failed late⟩
  rcases hears_call called with ⟨same, busy, rfl⟩
  rcases Step.hears_bind_cases rest with
    ⟨fault, rfl, failed⟩ | ⟨lobby, after, _, _, _, _, rfl, rfl, asked, settles⟩
  · rcases hears_lobbyFor failed with ⟨_, _, _, impossible, _⟩
    exact absurd impossible (by simp)
  rcases hears_lobbyFor asked with ⟨sameAfter, busyAfter, _, found, rfl⟩
  cases found
  rcases Step.hears_changeWith_bind settles with
    ⟨_, _, table, winner, rfl, decided, rfl, rfl, rfl, rfl⟩
  rw [Option.some.injEq, Prod.mk.injEq] at decided
  rcases decided with ⟨rfl, rfl⟩
  rw [List.append_nil, List.append_nil, Table.mergeAll_append, Table.mergeAll_append, ← same,
    ← sameAfter]
  exact ⟨busyAfter.trans busy, .settled reply lobby rfl⟩

/-- A follow-up does to the snapshot that the polls have made what it does to any. -/
theorem hears_followUp {street : Option Street}
    (hears : (settings.followUp tableId street).Hears mode session polls words result last) :
    last.busy = session.busy ∧
      settings.Sequel tableId (session.table.mergeAll mode polls) street words result
        last.table := by
  cases street with
  | some street => exact hears_reveal hears
  | none => exact hears_showdown hears

theorem ends_followUp {street : Option Street}
    (ends : (settings.followUp tableId street).Ends session words result last) :
    last.busy = session.busy ∧
      settings.Sequel tableId session.table street words result last.table :=
  hears_followUp (ends.hears settings.mode)

theorem Sequel.of_error {table after : Table} {street : Option Street} {fault : ActionFault}
    (sequel : settings.Sequel tableId table street words (.error fault) after) :
    words = [] ∧ after = table ∧ fault.isPrecondition = false := by
  cases sequel with
  | failed late => exact ⟨rfl, rfl, late⟩

/-- What is told fixes the table, and what a follow-up completes with. -/
theorem Sequel.unique {table first second : Table} {street : Option Street}
    {other : Except ActionFault Outcome}
    (sequel : settings.Sequel tableId table street words result first)
    (again : settings.Sequel tableId table street words other second) :
    first = second ∧ ∀ outcome, result = .ok outcome ↔ other = .ok outcome := by
  cases sequel with
  | failed late =>
    cases again with
    | failed other => exact ⟨rfl, by simp⟩
  | revealed street reply shown =>
    cases again with
    | revealed _ _ other =>
      subst shown other
      exact ⟨rfl, fun _ => Iff.rfl⟩
  | settled reply lobby resolved =>
    generalize told : (lobby.map (Word.granted (.lobby tableId))).toList = listed at again
    cases again with
    | settled _ heard other =>
      have same : lobby = heard := by
        cases lobby with
        | none =>
          cases heard with
          | none => rfl
          | some _ => exact absurd told (by simp)
        | some lobby =>
          cases heard with
          | none => exact absurd told (by simp)
          | some heard => simpa using told
      subst same resolved other
      exact ⟨rfl, fun _ => Iff.rfl⟩

theorem replays_followUp (settings : Settings) (tableId : UInt32) (street : Option Street) :
    (settings.followUp tableId street).Replays := by
  cases street with
  | some street =>
    apply Step.replays_bind (settings.replays_call _)
    intro reply
    apply Step.replays_bind (Step.replays_change _)
    intro _
    exact Step.replays_pure _
  | none =>
    apply Step.replays_bind (settings.replays_call _)
    intro reply
    refine Step.replays_bind ?_ fun lobby => ?_
    · apply Step.replays_bind Step.replays_table
      intro table
      split
      · exact Step.replays_pure _
      apply Step.replays_bind (Step.replays_attempt (settings.replays_call _))
      rintro (fault | lobby)
      · exact Step.replays_pure _
      · exact Step.replays_pure _
    · apply Step.replays_changeWith_bind
      intro winner
      exact Step.replays_pure _

/-! ## Rounds that a solo bet closes -/

/-- A solo bet is replied to, and the reply closes the round. -/
def ClosedBy (settings : Settings) (action reply : Action) (before after : Table) : Prop :=
  ∃ opened opponent seen street,
    settings.openSoloBet action before = some (opened, .inr (opponent, seen)) ∧
      settings.closeSoloBet opponent reply opened = some (after, .closed street)

variable {action reply : Action} {before after : Table}

theorem openSoloBet_frame {opened seen : Table} {opponent : Address}
    (opens : settings.openSoloBet action before = some (opened, .inr (opponent, seen))) :
    opened.tableId = before.tableId ∧ opened.phase = before.phase := by
  rcases acts : before.act? settings.arithmetic settings.hero action with _ | ⟨acted, moved⟩
  · simp [openSoloBet, acts] at opens
  simp only [openSoloBet, acts, Option.map_some] at opens
  split at opens
  · simp at opens
  split at opens
  · simp at opens
  · rw [Option.some.injEq, Prod.mk.injEq] at opens
    rw [← opens.1, Table.act?_frame acts]
    exact ⟨rfl, rfl⟩

theorem closeSoloBet_frame {opened : Table} {opponent : Address} {street : Option Street}
    (closes : settings.closeSoloBet opponent reply opened = some (after, .closed street)) :
    after.tableId = opened.tableId ∧ after.phase = opened.phase ∧ after.isRoundClosed ∧
      street = after.phase.nextStreet? := by
  rcases acts : opened.act? settings.arithmetic opponent reply with _ | ⟨acted, moved⟩
  · simp [closeSoloBet, acts] at closes
  simp only [closeSoloBet, acts, Option.map_some] at closes
  split at closes
  · simp at closes
  split at closes
  · rename_i round
    simp only [Option.some.injEq, Prod.mk.injEq, SoloStand.closed.injEq] at closes
    rcases closes with ⟨rfl, rfl⟩
    refine ⟨?_, ?_, round, rfl⟩
    · rw [Table.act?_frame acts]
    · rw [Table.act?_frame acts]
  · simp at closes

theorem ClosedBy.frame (closed : settings.ClosedBy action reply before after) :
    after.tableId = before.tableId ∧ after.phase = before.phase ∧ after.isRoundClosed := by
  rcases closed with ⟨opened, opponent, seen, street, opens, closes⟩
  rcases openSoloBet_frame opens with ⟨tableId, phase⟩
  rcases closeSoloBet_frame closes with ⟨tableIdAfter, phaseAfter, round, _⟩
  exact ⟨tableIdAfter.trans tableId, phaseAfter.trans phase, round⟩

/-- A solo bet that fails has been replied to by what closes the round. -/
theorem closedBy_of_ends {fault : ActionFault}
    (ends : (settings.betSolo tableId action).Ends session words (.error fault) last) :
    ∃ reply rest after, words = .played reply :: rest ∧
      settings.ClosedBy action reply session.table after := by
  rcases Step.ends_changeWith_bind.mp ends with ⟨opened, stand, opens, replied⟩
  rcases stand with winner | ⟨opponent, seen⟩
  · exact absurd replied.2.1 (by simp)
  rcases Step.ends_ask_bind.mp replied with ⟨reply, rest, rfl, answered⟩
  rcases Step.ends_changeWith_bind.mp answered with ⟨after, stand, closes, next⟩
  rcases stand with _ | _ | street
  · exact absurd next.2.1 (by simp)
  · exact absurd next.2.1 (by simp)
  · exact ⟨reply, rest, after, rfl, opened, opponent, seen, street, opens, closes⟩

/-- After the reply that closes the round, a solo bet is the follow-up. -/
theorem ends_betSolo_iff (closed : settings.ClosedBy action reply before after)
    (same : session.table = before) :
    (settings.betSolo tableId action).Ends session (.played reply :: words) result last ↔
      ∃ found, (settings.followUp tableId before.phase.nextStreet?).Ends
          { session with table := after } words found last ∧
        result = found.map fun next => .resolved action (some reply) (some next) := by
  subst same
  rcases closed.frame with ⟨_, phase, _⟩
  rcases closed with ⟨opened, opponent, seen, street, opens, closes⟩
  rcases closeSoloBet_frame closes with ⟨_, _, _, next⟩
  rw [phase] at next
  rw [← next]
  constructor
  · intro ends
    rcases Step.ends_changeWith_bind.mp ends with ⟨_, _, opensToo, replied⟩
    rw [opens, Option.some.injEq, Prod.mk.injEq] at opensToo
    rcases opensToo with ⟨rfl, rfl⟩
    rcases Step.ends_ask_bind.mp replied with ⟨_, _, heard, answered⟩
    cases heard
    rcases Step.ends_changeWith_bind.mp answered with ⟨_, _, closesToo, goesOn⟩
    rw [closes, Option.some.injEq, Prod.mk.injEq] at closesToo
    rcases closesToo with ⟨rfl, rfl⟩
    cases street with
    | some street => exact Step.ends_bind_pure.mp goesOn
    | none => exact Step.ends_bind_pure.mp goesOn
  · intro ends
    refine Step.ends_changeWith_bind.mpr ⟨opened, _, opens, ?_⟩
    dsimp only
    refine Step.ends_ask_bind.mpr ⟨reply, words, rfl, ?_⟩
    refine Step.ends_changeWith_bind.mpr ⟨after, _, closes, ?_⟩
    cases street with
    | some street => exact Step.ends_bind_pure.mpr ends
    | none => exact Step.ends_bind_pure.mpr ends

/-! ## Dispatching -/

theorem carryOut_onwards (settings : Settings) (tableId : UInt32) (phase : Phase) :
    settings.carryOut tableId (.onwards phase) = settings.followUp tableId phase.nextStreet? := by
  unfold Intent.onwards
  cases phase.nextStreet? <;> rfl

/-- An intent that passes its check while the token is free ends as it is carried out. -/
theorem ends_dispatch_iff {intent : Intent} (free : session.busy = false)
    (accepted : intent.check session.table settings.mode settings.hero = .ok ()) :
    (settings.dispatch intent).Ends session words result last ↔
      ∃ after, (settings.carryOut session.table.tableId intent).Ends { session with busy := true }
          words result after ∧
        last = { after with busy := false } := by
  have carries : ∀ after, (settings.perform intent).Ends { session with busy := true } words result
      after ↔ (settings.carryOut session.table.tableId intent).Ends { session with busy := true }
        words result after := by
    intro after
    change (Step.require (intent.check session.table settings.mode settings.hero) .intent >>=
      fun _ => settings.carryOut session.table.tableId intent).Ends _ _ _ _ ↔ _
    rw [accepted]
    exact Iff.rfl
  rw [dispatch, Step.ends_exclusively_iff free]
  simp only [carries]

/-- The discipline of not breaking off. -/
def steady : Discipline Table where
  invariant _ := True
  permits _ _ := True
  permits_refl _ := trivial

/-- A request for what follows a round never breaks off, whatever it is answered. -/
theorem onwards_not_stuck {phase : Phase} {exchanges : List (Option Exchange)}
    {rest : Procedure Session (Except ActionFault Outcome)}
    (turns : (settings.dispatch (.onwards phase)).run.Turns session exchanges rest last) :
    rest ≠ .stuck := by
  have kept : Step.Keeps steady (settings.dispatch (.onwards phase)) := by
    apply Step.keeps_exclusively
    apply settings.keeps_perform
    intro table _
    rw [carryOut_onwards]
    rcases phase.nextStreet? with _ | street
    · exact settings.keeps_showdown _ fun _ _ _ _ _ => ⟨trivial, trivial⟩
    · exact settings.keeps_reveal _ street fun _ _ _ _ _ _ => ⟨trivial, trivial⟩
  exact turns.not_stuck (fun _ _ => trivial) kept trivial id

section

variable {failed : Session} (solo : settings.mode.isSolo = true) (free : session.busy = false)
  (accepted : (Intent.bet action).check session.table settings.mode settings.hero = .ok ())

include solo free accepted

theorem ends_dispatch_bet_iff :
    (settings.dispatch (.bet action)).Ends session words result last ↔
      ∃ after, (settings.betSolo session.table.tableId action).Ends { session with busy := true }
          words result after ∧
        last = { after with busy := false } := by
  have bets : settings.carryOut session.table.tableId (.bet action) =
      settings.betSolo session.table.tableId action := if_pos solo
  rw [ends_dispatch_iff free accepted, bets]

/-- An accepted solo bet fails only with its follow-up, which leaves the closed round as it is. -/
theorem closedBy_of_failed_dispatch {fault : ActionFault}
    (fails : (settings.dispatch (.bet action)).Ends session words (.error fault) failed) :
    ∃ reply, words = [.played reply] ∧
      settings.ClosedBy action reply session.table failed.table ∧ failed.busy = false := by
  rcases (ends_dispatch_bet_iff solo free accepted).mp fails with ⟨after, ends, rfl⟩
  rcases closedBy_of_ends ends with ⟨reply, rest, table, rfl, closed⟩
  rcases (ends_betSolo_iff closed rfl).mp ends with ⟨found, followed, failed⟩
  cases found with
  | ok next => exact absurd failed (by simp [Except.map])
  | error fault =>
    rcases ends_followUp followed with ⟨_, sequel⟩
    rcases sequel.of_error with ⟨rfl, same, _⟩
    have left : after.table = table := same
    rw [← left] at closed
    exact ⟨reply, rfl, closed, rfl⟩

/-- From the closed round on, an intent for what follows and the bet's own follow-up do the same. -/
theorem onwards_matches_bet {reply : Action} {words : List Word}
    {retried : Except ActionFault Outcome} {recovered : Session}
    (closed : settings.ClosedBy action reply session.table failed.table)
    (freed : failed.busy = false)
    (again : (Intent.onwards session.table.phase).check failed.table settings.mode settings.hero =
      .ok ())
    (retries : (settings.dispatch (.onwards session.table.phase)).Ends failed words retried
      recovered) :
    (∀ fault, retried = .error fault → fault.isPrecondition = false) ∧
      (∃ result direct,
        (settings.dispatch (.bet action)).Ends session (.played reply :: words) result direct) ∧
      ∀ result direct,
        (settings.dispatch (.bet action)).Ends session (.played reply :: words) result direct →
          direct.table = recovered.table ∧ ∀ next, retried = .ok next ↔
            result = .ok (.resolved action (some reply) (some next)) := by
  rcases (ends_dispatch_iff freed again).mp retries with ⟨after, ends, rfl⟩
  rw [carryOut_onwards, closed.frame.1] at ends
  rcases ends_followUp ends with ⟨_, sequel⟩
  -- the bet too comes down to the follow-up from the closed round, but for the token and the nonces
  have direct : ∀ result last, (settings.betSolo session.table.tableId action).Ends
      { session with busy := true } (.played reply :: words) result last ↔
        ∃ found, (settings.followUp session.table.tableId session.table.phase.nextStreet?).Ends
          { session with table := failed.table, busy := true } words found last ∧
        result = found.map fun next => .resolved action (some reply) (some next) :=
    fun _ _ => ends_betSolo_iff closed rfl
  simp only [ends_dispatch_bet_iff solo free accepted]
  refine ⟨?_, ?_, ?_⟩
  · rintro fault rfl
    exact sequel.of_error.2.2
  · have same : ({ session with table := failed.table, busy := true } : Session).table =
        failed.table := rfl
    rcases settings.replays_followUp _ _ ends same with ⟨last, followed, _⟩
    exact ⟨_, _, last, (direct ..).mpr ⟨retried, followed, rfl⟩, rfl⟩
  · rintro result _ ⟨last, ends, rfl⟩
    rcases (direct ..).mp ends with ⟨found, followed, rfl⟩
    rcases ends_followUp followed with ⟨_, sequelToo⟩
    rcases sequelToo.unique sequel with ⟨same, outcomes⟩
    refine ⟨same, ?_⟩
    intro next
    rw [← outcomes]
    cases found with
    | error fault => simp [Except.map]
    | ok other => simp [Except.map]

end

/-- An accepted solo bet that fails has been replied to, and the reply has closed the round. What
follows in that phase is then accepted as an intent of its own. Whatever that is told, it comes to
the outcome and leaves the snapshot that the bet would have come to if its own request had been told
the same. -/
theorem failed_follow_up_recoverable {settings : Settings} {session failed : Session}
    {action : Action} {words : List Word} {fault : ActionFault}
    (solo : settings.mode.isSolo = true) (free : session.busy = false)
    (accepted : (Intent.bet action).check session.table settings.mode settings.hero = .ok ())
    (fails : (settings.dispatch (.bet action)).Ends session words (.error fault) failed) :
    ∃ reply, words = [.played reply] ∧
      settings.ClosedBy action reply session.table failed.table ∧ failed.busy = false ∧
      (Intent.onwards session.table.phase).check failed.table settings.mode settings.hero = .ok () ∧
      (∀ exchanges rest later, (settings.dispatch (.onwards session.table.phase)).run.Turns failed
        exchanges rest later → rest ≠ .stuck) ∧
      ∀ words retried recovered,
        (settings.dispatch (.onwards session.table.phase)).Ends failed words retried recovered →
          (∀ fault, retried = .error fault → fault.isPrecondition = false) ∧
          (∃ result direct,
            (settings.dispatch (.bet action)).Ends session (.played reply :: words) result direct) ∧
          ∀ result direct,
            (settings.dispatch (.bet action)).Ends session (.played reply :: words) result direct →
              direct.table = recovered.table ∧ ∀ next, retried = .ok next ↔
                result = .ok (.resolved action (some reply) (some next)) := by
  rcases closedBy_of_failed_dispatch solo free accepted fails with ⟨reply, heard, closed, freed⟩
  have again : (Intent.onwards session.table.phase).check failed.table settings.mode settings.hero =
      .ok () :=
    Intent.check_onwards (Intent.isBettingRound_of_check accepted) closed.frame.2.1
  exact ⟨reply, heard, closed, freed, again, fun _ _ _ => onwards_not_stuck,
    fun _ _ _ => onwards_matches_bet solo free accepted closed freed again⟩

/-- The hero and the simulated opponent before the flop. -/
def beforeFlop : Session where
  table :=
    { tableId := 7, phase := .preflop
      players := [⟨"hero", 0, 100, 0, false, false, none⟩,
        ⟨simulatedOpponent, 1, 100, 0, false, false, none⟩] }

/-- The flop cannot be asked for, and is revealed once it can. -/
theorem failed_follow_up_recoverable_of_offline :
    let settings : Settings := { hero := "hero", unsignedFirst := true }
    let reply : RevealReply := ⟨"ok", [3, 17, 40], 12, "reveal", none⟩
    let failed := beforeFlop.onTable Table.markUnconfirmed
    let flop : Outcome := .revealed .flop [⟨3⟩, ⟨17⟩, ⟨40⟩]
    (settings.dispatch (.bet .check)).Ends beforeFlop [.played .check]
        (.error (.coordinator (.request "offline" []))) failed ∧
      ∃ recovered result direct,
        (settings.dispatch (.reveal .flop)).Ends failed [.granted (.reveal 7 .flop) reply]
          (.ok flop) recovered ∧
        (settings.dispatch (.bet .check)).Ends beforeFlop
          [.played .check, .granted (.reveal 7 .flop) reply] result direct ∧
        result = .ok (.resolved .check (some .check) (some flop)) ∧
        direct.table = recovered.table := by
  intro settings reply failed flop
  have fails : (settings.dispatch (.bet .check)).Ends beforeFlop [.played .check]
      (.error (.coordinator (.request "offline" []))) failed :=
    ⟨.check, [], rfl, .error (.request "offline" []), [], rfl, rfl, rfl, rfl⟩
  have retries : (settings.dispatch (.reveal .flop)).Ends failed [.granted (.reveal 7 .flop) reply]
      (.ok flop) _ :=
    ⟨.ok reply, [], rfl, rfl, rfl, rfl⟩
  rcases failed_follow_up_recoverable rfl rfl rfl fails with
    ⟨answered, heard, _, _, _, _, recovers⟩
  cases heard
  rcases recovers _ _ _ retries with ⟨_, ⟨result, direct, bets⟩, matched⟩
  rcases matched result direct bets with ⟨same, outcomes⟩
  exact ⟨fails, _, result, direct, retries, bets, (outcomes flop).mp rfl, same⟩

end Settings

end Holdem
