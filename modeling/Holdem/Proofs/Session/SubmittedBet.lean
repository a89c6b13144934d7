import Holdem.Proofs.Session.Course
import Holdem.Proofs.Session.Schedule
import Holdem.Proofs.Table.Account
import Holdem.Proofs.Table.Hand
import Holdem.Proofs.Table.Lawful

/-!
# Submitted bets and polls that show them

Outside a solo session a bet is submitted and applied once it is accepted. The ledger takes its
time, so a poll may show the bet before the submission is answered. The action is then applied to a
snapshot that has it already, and what it asks for is taken a second time.

This file says exactly when that is seen: a bet or a raise is doubled as far as the stack goes, and
every other action, and whoever has put the whole stack in, finds nothing left to move.
-/

namespace Holdem

namespace Settings

variable {settings : Settings} {session last : Session} {polls : List Poll}

/-- A bet that completes has passed its check, and is applied to what the polls have made of the
snapshot in the meantime. -/
theorem course_betOnChain {tableId : UInt32} {action : Action} {outcome : Outcome}
    (course : Step.Course settings.mode (settings.betOnChain tableId action) session polls outcome
      last) :
    ∃ transaction, (session.table.mergeAll settings.mode polls).applyAccepted?
      settings.arithmetic settings.hero action transaction = some last.table := by
  have applied : ∀ {α : Type} {submitted : Step α} {transaction : α → Option String},
      Step.Keeps Procedure.Course.untouched submitted →
      Step.Course settings.mode (do
        let answer ← submitted
        Step.changeWith fun table =>
          (table.applyAccepted? settings.arithmetic settings.hero action
            (transaction answer)).map fun table => (table, ())
        return Outcome.acted action (transaction answer)) session polls outcome last →
      ∃ transaction, (session.table.mergeAll settings.mode polls).applyAccepted?
        settings.arithmetic settings.hero action transaction = some last.table := by
    intro α submitted transaction kept course
    rcases Step.course_bind course with ⟨answer, middle, before, after, submission, rest, all⟩
    rcases Step.course_bind rest with ⟨_, changed, none, later, change, ending, afterAll⟩
    rcases Step.course_changeWith change with ⟨table, updated, noneBefore, changedEq⟩
    rcases Step.course_pure ending with ⟨_, noneLater, lastEq⟩
    rw [afterAll, noneBefore, noneLater, List.append_nil, List.append_nil] at all
    rw [submission.table_of_keeps kept, ← all, Option.map_eq_some_iff] at updated
    rcases updated with ⟨accepted, acceptedEq, tableEq⟩
    refine ⟨transaction answer, ?_⟩
    rw [acceptedEq, lastEq, changedEq]
    exact congrArg some (Prod.mk.inj tableEq).1
  unfold betOnChain at course
  dsimp only at course
  split at course
  · exact applied (Step.keeps_bind (settings.keeps_submit _ _) fun _ => Step.keeps_pure _) course
  · exact applied (settings.keeps_call _) course

/-- A dispatched bet that completes was legal for the hero at the start, and is applied to what the
polls have made of the snapshot in the meantime. -/
theorem course_dispatch_bet (shared : settings.mode.isSolo = false) {action : Action}
    {outcome : Outcome}
    (course : Step.Course settings.mode (settings.dispatch (.bet action)) session polls outcome
      last) :
    (Intent.bet action).check session.table settings.mode settings.hero = .ok () ∧
      ∃ transaction, (session.table.mergeAll settings.mode polls).applyAccepted?
        settings.arithmetic settings.hero action transaction = some last.table := by
  rcases Step.course_exclusively course with ⟨middle, performed, lastEq⟩
  rcases Step.course_bind performed with ⟨seen, read, before, after, looks, rest, all⟩
  rcases Step.course_table looks with ⟨rfl, rfl, rfl⟩
  rcases Step.course_bind rest with ⟨_, checked, none, later, check, carries, laterAll⟩
  rcases Step.course_require check with ⟨passed, rfl, rfl⟩
  rw [laterAll, List.nil_append, List.nil_append] at all
  simp only [carryOut, shared, Bool.false_eq_true, ↓reduceIte] at carries
  rcases settings.course_betOnChain carries with ⟨transaction, applied⟩
  refine ⟨passed, transaction, ?_⟩
  rw [all, lastEq]
  exact applied

end Settings

/-- A bet that passes its check is the action of a seated player, and an amount that it names is
positive. -/
theorem Intent.of_check_bet {table : Table} {mode : PlayMode} {hero : Address} {action : Action}
    (passed : (Intent.bet action).check table mode hero = .ok ()) :
    (∃ player, table.player? hero = some player) ∧
      ∀ amount, action.amount? = some amount → 0 < amount := by
  unfold check checkBet at passed
  dsimp only at passed
  split at passed
  · exact absurd passed (by simp)
  split at passed
  · exact absurd passed (by simp)
  rename_i named
  refine ⟨?_, ?_⟩
  · rcases seated : table.player? hero with _ | player
    · simp [seated] at passed
    · exact ⟨player, rfl⟩
  · intro amount amountEq
    simp only [amountEq, isBadAmount, Option.any_some, decide_eq_true_eq] at named
    lia

/-- An action that was accepted elsewhere moves chips like any action. -/
theorem Table.act?_of_applyAccepted? {arithmetic : Arithmetic} {table last : Table}
    {address : Address} {action : Action} {transaction : Option String}
    (applied : table.applyAccepted? arithmetic address action transaction = some last) :
    ∃ acted moved, table.act? arithmetic address action = some (acted, moved) ∧
      last.pot = acted.pot ∧ last.accounts = acted.accounts := by
  rcases applyAccepted?_cases applied with ⟨acted, moved, acts, rfl⟩
  exact ⟨acted, moved, acts, rfl, rfl⟩

/-- A snapshot is carried like another when pot and accounts are the same. -/
theorem Poll.Carries.iff_pot {poll : Poll} {table other : Table} (carries : poll.Carries table)
    (same : other.accounts.Perm table.accounts) : poll.Carries other ↔ other.pot = table.pot := by
  constructor
  · intro carriesOther
    have pot := carriesOther.pot
    rw [carries.pot, Option.some.injEq] at pot
    exact pot.symm
  · intro pot
    rcases carries.players with ⟨entries, accounts, polled, told, sorted⟩
    refine ⟨?_, entries, accounts, polled, told, sorted.trans same.symm⟩
    rw [pot]
    exact carries.pot

/-- What a submitted bet comes to when the last poll before its answer shows it already, with the
stacks, the bets and the pot that it leads to.

The action is applied to that snapshot again. The pot then has `extra` chips more than the poll
said, and pot and accounts are those of the poll exactly when there are none. With one player to an
address `extra` is the amount of a bet or a raise as far as the stack has it, and nothing for any
other action: the bet is applied once exactly when it names no amount or has put the whole stack in.

The sums are those of a table with room for all chips, all bets and the amount together. -/
theorem bet_with_poll_in_flight {settings : Settings} {session last : Session} {action : Action}
    {outcome : Outcome} {polls : List Poll} {poll : Poll} {after : Table} {moved : Chips}
    (shared : settings.mode.isSolo = false) (lawful : session.table.Lawful)
    (room : settings.arithmetic.Covers
      (session.table.chips + session.table.roundBets + action.amount?.getD 0))
    (acts : session.table.act? settings.arithmetic settings.hero action = some (after, moved))
    (carries : poll.Carries after)
    (course : Step.Course settings.mode (settings.dispatch (.bet action)) session (polls ++ [poll])
      outcome last) :
    ∃ player extra, session.table.player? settings.hero = some player ∧ 0 ≤ extra ∧
      last.table.pot = after.pot + extra ∧ (poll.Carries last.table ↔ extra = 0) ∧
      ((session.table.players.map Player.address).Nodup →
        extra = (action.amount?.map fun amount => min amount (player.stack - moved)).getD 0 ∧
          (poll.Carries last.table ↔ action.amount? = none ∨ player.stack = moved)) := by
  rcases settings.course_dispatch_bet shared course with ⟨passed, transaction, applied⟩
  rcases Intent.of_check_bet passed with ⟨⟨player, seated⟩, positive⟩
  have nonneg : ∀ other ∈ session.table.players, 0 ≤ other.stack ∧ 0 ≤ other.bet :=
    fun other member => ⟨(lawful.players other member).stack, (lawful.players other member).bet⟩
  have someone := List.ne_nil_of_mem (Table.mem_of_player? seated)
  -- there is room for the bet, so it does what it does with exact sums
  have ample := Table.ample_of_covers someone lawful.pot nonneg positive room
  rw [ample.act?_eq lawful.pot nonneg positive] at acts
  -- the poll shows a lawful snapshot, so the merge takes all of its amounts
  rcases lawful.act? settings.hero action with ⟨_, _, actsLawful, afterLawful, _⟩
  rw [acts, Option.some.injEq, Prod.mk.injEq] at actsLawful
  rw [← actsLawful.1] at afterLawful
  rcases Table.act?_actor acts seated (Arithmetic.fits_exact _) with ⟨_, left, leftSeated, _⟩
  have solvent : ∀ other ∈ after.players, 0 ≤ other.stack ∧ 0 ≤ other.bet :=
    fun other member =>
      ⟨(afterLawful.players other member).stack, (afterLawful.players other member).bet⟩
  have someoneLeft := List.ne_nil_of_mem (Table.mem_of_player? leftSeated)
  rw [Table.mergeAll_append] at applied
  rcases Table.merge_carried shared (session.table.mergeAll settings.mode polls) carries someoneLeft
    afterLawful.pot solvent with ⟨pot, same⟩
  change (Table.merge _ settings.mode poll).1.applyAccepted? _ _ _ _ = _ at applied
  generalize (Table.merge _ settings.mode poll).1 = shown at applied pot same
  -- and the action is applied to what the merge has made, where there is room for it as well
  rcases Table.act?_of_applyAccepted? applied with ⟨again, extra, repeats, lastPot, lastAccounts⟩
  have ampleAgain := Table.ample_again seated lawful.pot nonneg positive room acts solvent same pot
  rw [ampleAgain.act?_eq (pot ▸ afterLawful.pot) (Table.nonneg_of_shown same solvent) positive]
    at repeats
  have extraNonneg := (Table.act?_wrapped repeats).1
  rcases Table.act?_balance repeats (Arithmetic.fits_exact _) (fun _ _ => Arithmetic.fits_exact _)
    with ⟨againPot, _⟩
  have potEq : last.table.pot = after.pot + extra :=
    lastPot.trans (againPot.trans (congrArg (· + extra) pot))
  have carried : poll.Carries last.table ↔ extra = 0 := by
    constructor
    · intro carriesLast
      have told := carriesLast.pot
      rw [carries.pot, Option.some.injEq] at told
      lia
    · rintro rfl
      have lastSame : last.table.accounts.Perm after.accounts := by
        rw [lastAccounts, Table.act?_accounts repeats]
        exact same
      rw [carries.iff_pot lastSame]
      lia
  refine ⟨player, extra, seated, extraNonneg, potEq, carried, ?_⟩
  intro distinct
  have extraEq := Table.moved_again seated acts positive distinct same repeats
  refine ⟨extraEq, ?_⟩
  rw [carried, extraEq]
  rcases named : action.amount? with _ | amount
  · simp
  · have amountPos := positive amount named
    simp only [Option.map_some, Option.getD_some, reduceCtorEq, false_or]
    lia

/-! ## A doubled bet -/

/-- A heads-up table where the hero is to act first, with a thousand chips on either side. -/
def Table.headsUp : Table where
  tableId := 7
  phase := .preflop
  players := [{ address := "hero", seat := 0, stack := 1000 },
    { address := "villain", seat := 1, stack := 1000 }]

/-- The same table once the hero has put chips in. -/
def Table.headsUpAfter (chips : Chips) : Table :=
  { headsUp with
    players := [{ address := "hero", seat := 0, stack := 1000 - chips, bet := chips },
      { address := "villain", seat := 1, stack := 1000 }]
    pot := chips }

/-- What the authority publishes once the hero has bet a hundred chips there. -/
def Poll.afterBet : Poll where
  pot := some 100
  players := some [{ address := "hero", stack := some 900, bet := some 100 },
    { address := "villain", stack := some 1000, bet := some 0 }]

theorem Table.lawful_headsUp : headsUp.Lawful where
  pot := by decide
  board := by simp [headsUp]
  players player member := by
    rcases List.mem_cons.mp member with rfl | other
    · exact Player.lawful_seated "hero" 0 (by decide)
    · rw [List.mem_singleton.mp other]
      exact Player.lawful_seated "villain" 1 (by decide)
  fits := by decide

theorem Poll.afterBet_carries : afterBet.Carries (Table.headsUpAfter 100) :=
  ⟨rfl, _, (Table.headsUpAfter 100).accounts, rfl, rfl, .refl _⟩

theorem Table.headsUp_merge_afterBet :
    headsUp.mergeAll .headsup [.afterBet] = headsUpAfter 100 := by
  have usable : ∀ chips : Chips, 0 ≤ chips → usableAmount (some chips) = some chips := by
    intro chips nonneg
    simp [usableAmount, Option.filter_some, nonneg]
  simp [mergeAll, merge, headsUp, headsUpAfter, Poll.afterBet, mergePhase, mergeHand, mergeChips,
    PlayMode.isSolo, mergePlayers, Reseating.seatAll, Reseating.seat, swapRemove,
    PolledPlayer.update, usable, sortBySeat, List.mergeSort, List.findIdx?, List.findIdx?.go,
    mergeBoard, setPhase]

/-- The coordinator accepts the hero's bet of a hundred chips; while it does so the bet is published
and polled. -/
theorem course_bet_headsUp :
    Step.Course .headsup (Settings.headsUp.dispatch (.bet (.bet 100))) { table := .headsUp }
      [.afterBet] (.acted (.bet 100) none)
      { table := (Table.headsUpAfter 200).markUnconfirmed
        nonces := ({} : NonceCounter).advance 0 } := by
  -- the token and the check, then the clock, the nonce, the signature and the call
  refine .update (.update ?_)
  refine .ask (fun _ => rfl) ⟨0, 0⟩ (.update ?_) rfl
  refine .ask (fun _ => rfl) (.ok "signed") ?_ rfl
  refine .ask (fun immediate => absurd immediate (by decide))
    (.ok { status := "ok", action := "bet", player := "hero" }) ?_
    (List.append_nil [Poll.afterBet]).symm
  change Procedure.Course .headsup _
    { table := Table.headsUp.mergeAll .headsup [.afterBet]
      nonces := ({} : NonceCounter).advance 0
      busy := true } _ _ _
  rw [Table.headsUp_merge_afterBet]
  exact .update (.update (.finish _ _))

/-- A bet of a hundred chips that is polled before it is answered costs two hundred. -/
theorem bet_with_poll_in_flight_headsUp :
    ∃ player extra, Table.headsUp.player? "hero" = some player ∧ 0 ≤ extra ∧
      (Table.headsUpAfter 200).pot = (Table.headsUpAfter 100).pot + extra ∧
      (Poll.afterBet.Carries (Table.headsUpAfter 200).markUnconfirmed ↔ extra = 0) ∧
      ((Table.headsUp.players.map Player.address).Nodup →
        extra = ((Action.bet 100).amount?.map fun amount => min amount (player.stack - 100)).getD 0 ∧
          (Poll.afterBet.Carries (Table.headsUpAfter 200).markUnconfirmed ↔
            (Action.bet 100).amount? = none ∨ player.stack = 100)) := by
  have shared : Settings.headsUp.mode.isSolo = false := rfl
  have acts : Table.headsUp.act? .wrapping "hero" (.bet 100) =
      some (Table.headsUpAfter 100, 100) := rfl
  have fits : Arithmetic.wrapping.Fits 2100 :=
    Arithmetic.fits_of_bounds _ (by decide) (by decide)
  have room : Settings.headsUp.arithmetic.Covers
      (Table.headsUp.chips + Table.headsUp.roundBets + (Action.bet 100).amount?.getD 0) :=
    fits.covers.mono (by decide)
  have course : Step.Course Settings.headsUp.mode (Settings.headsUp.dispatch (.bet (.bet 100)))
      { table := .headsUp } ([] ++ [.afterBet]) (.acted (.bet 100) none)
      { table := (Table.headsUpAfter 200).markUnconfirmed
        nonces := ({} : NonceCounter).advance 0 } := course_bet_headsUp
  exact bet_with_poll_in_flight shared Table.lawful_headsUp room acts
    Poll.afterBet_carries course

/-- So a submitted bet is not always applied once. -/
theorem submitted_bet_not_applied_once :
    ¬∀ (settings : Settings) (session last : Session) (action : Action)
      (transaction : Option String) (poll : Poll) (after : Table) (moved : Chips),
      settings.mode.isSolo = false → session.table.Lawful →
      session.table.act? settings.arithmetic settings.hero action = some (after, moved) →
      poll.Carries after →
      Step.Course settings.mode (settings.dispatch (.bet action)) session [poll]
        (.acted action transaction) last →
      poll.Carries last.table := by
  intro appliedOnce
  have carries := appliedOnce .headsUp { table := .headsUp } _ (.bet 100) none .afterBet
    (Table.headsUpAfter 100) 100 rfl Table.lawful_headsUp rfl Poll.afterBet_carries
    course_bet_headsUp
  exact absurd carries.pot (by decide)

end Holdem
