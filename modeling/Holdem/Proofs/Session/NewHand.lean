import Holdem.Proofs.Session.Operation
import Holdem.Proofs.Session.Settlement
import Holdem.Proofs.Table.Supply

/-!
# Chips at the start of a solo hand

A solo hand begins with an empty pot, and what was in the pot before is nobody's any more. So no
chips vanish exactly when the pot held no more than is handed out, and they never do where hands are
paid out at their end.

The pot of a hand stays on the table in three ways. A poll ends the hand, for polls know nothing of
solo chips; the winner has no seat; or chips are bet when the hand is over already, because a poll
came between the check of the bet and the bet.
-/

namespace Holdem

/-! ## Pots left behind -/

/-- No chips are in the pot between two hands. -/
def Table.Paid (table : Table) : Prop :=
  table.phase.isHandBoundary → table.pot = 0

/-- Chips are left in the pot of a hand that is over: a poll ends the hand, or it goes to someone
without a seat, or chips are bet after its end. -/
def LeavesPot (job : Job) (before after : Table) : Prop :=
  (job.polls ∧ before.phase.isHandBoundary = false ∧ after.phase.isHandBoundary ∧ after.pot ≠ 0) ∨
    (∃ winner ∈ after.winner, after.isSeated winner = false ∧ after.pot ≠ 0) ∨
    (before.phase.isHandBoundary ∧ after.pot ≠ before.pot ∧ after.pot ≠ 0)

instance (job : Job) (before after : Table) : Decidable (LeavesPot job before after) :=
  inferInstanceAs (Decidable (_ ∨ (∃ winner ∈ after.winner, _) ∨ _))

section Operations

variable {settings : Settings} {job : Job} {before after : Table}

theorem paid_settle_or (before table : Table) (winner : Address) :
    (before.Paid → (table.settle settings.arithmetic winner).Paid) ∨
      LeavesPot job before (table.settle settings.arithmetic winner) := by
  have pot : (table.settle settings.arithmetic winner).pot =
    if table.isSeated winner then 0 else table.pot := (table.settle_balance winner).2
  by_cases seated : table.isSeated winner
  · rw [if_pos seated] at pot
    exact .inl fun _ _ => pot
  · by_cases empty : (table.settle settings.arithmetic winner).pot = 0
    · exact .inl fun _ _ => empty
    · have absent : ¬(table.settle settings.arithmetic winner).isSeated winner := by
        rw [Table.isSeated_iff_secrets, table.secrets_settle winner, ← Table.isSeated_iff_secrets]
        exact seated
      exact .inr (.inr (.inl ⟨winner, rfl, by simpa using absent, empty⟩))

theorem paid_act?_or {address : Address} {action : Action} {moved : Chips}
    (acts : before.act? settings.arithmetic address action = some (after, moved)) :
    (before.Paid → after.Paid) ∨ LeavesPot job before after := by
  have phase : after.phase = before.phase := by rw [Table.act?_frame acts]
  by_cases bets : before.phase.isHandBoundary ∧ after.pot ≠ before.pot ∧ after.pot ≠ 0
  · exact .inr (.inr (.inr bets))
  · left
    intro paid ended
    rw [phase] at ended
    have empty := paid ended
    by_cases same : after.pot = before.pot
    · rw [same, empty]
    · exact Decidable.not_not.mp fun some => bets ⟨ended, same, some⟩

/-- In a solo session an operation leaves no chips behind, or it does so in one of the three
ways. -/
theorem Operation.paid_or (solo : settings.mode = .single)
    (operation : Operation settings job before after) :
    (before.Paid → after.Paid) ∨ LeavesPot job before after := by
  cases operation with
  | leave | hash | proof | store => exact .inl fun paid => paid
  | begin _ seats =>
    rcases before.beginHand_frame settings.mode settings.hero seats settings.buyIn
      settings.soloStack with ⟨players, eq⟩
    rw [eq]
    exact .inl fun _ _ => rfl
  | seat _ shared => exact absurd shared (by simp [solo, PlayMode.isSolo])
  | street street cards size transaction =>
    left
    intro paid ended
    rcases before.showStreet_cases street cards size transaction with
      ⟨_, eq⟩ | ⟨_, eq⟩ | ⟨_, _, eq⟩
    · rw [eq] at ended
      change street.phase.isHandBoundary at ended
      cases street <;> exact absurd ended (by decide)
    · rw [eq] at ended ⊢
      exact paid ended
    · rw [eq] at ended ⊢
      exact paid ended
  | decision winner size transaction =>
    rw [Table.decide, if_pos (by simp [solo, PlayMode.isSolo])]
    exact paid_settle_or before before winner
  | accepted applied =>
    rcases Table.applyAccepted?_cases applied with ⟨acted, moved, acts, rfl⟩
    have acting : (before.Paid → acted.Paid) ∨ LeavesPot job before acted := paid_act?_or acts
    exact acting
  | opening opened =>
    rcases Settings.openSoloBet_cases opened with ⟨acted, moved, acts, rfl | ⟨winner, rfl⟩⟩
    · have acting : (before.Paid → acted.Paid) ∨ LeavesPot job before acted := paid_act?_or acts
      exact acting
    · exact paid_settle_or before _ winner
  | closing closed =>
    rcases Settings.closeSoloBet_cases closed with ⟨acted, moved, acts, rfl | ⟨winner, rfl⟩⟩
    · exact paid_act?_or acts
    · exact paid_settle_or before _ winner
  | turn _ tableId => exact .inl fun _ _ => rfl
  | merge polls raw poll =>
    rw [solo]
    -- a solo poll moves no chips: it leaves a pot behind only by ending the hand over it
    have pot := (before.merge_solo_chips poll).1
    by_cases playing : before.phase.isHandBoundary
    · exact .inl fun paid _ => pot.trans (paid playing)
    · by_cases left : (before.merge .single poll).1.phase.isHandBoundary ∧
          (before.merge .single poll).1.pot ≠ 0
      · exact .inr (.inl ⟨polls, by simpa using playing, left⟩)
      · left
        intro _ ended
        exact Decidable.not_not.mp fun some => left ⟨ended, some⟩

end Operations

/-! ## Runs -/

namespace World

variable {settings : Settings} {tableId : UInt32} {log : List Event} {world next : World}

/-- A step that leaves no chips in the pot of a hand that is over. -/
def PaysOut (settings : Settings) (before : World) (event : Event) (after : World) : Prop :=
  Step settings before event after ∧
    ∀ index job exchange, event = .moved index job exchange →
      ¬LeavesPot job before.session.table after.session.table

/-- Where every hand is paid out no chips are in the pot between two hands. -/
theorem paid_of_path (solo : settings.mode = .single)
    (path : Path (PaysOut settings) (opened tableId) log world) : world.session.table.Paid := by
  induction path with
  | refl => exact fun _ => rfl
  | @snoc middle last log event path next hypothesis =>
    have run : Run settings (opened tableId) log middle := path.mono And.left
    rcases operation_of_step run next.1 with same | ⟨index, job, exchange, moved, operation⟩
    · rw [same]
      exact hypothesis
    · rcases operation.paid_or solo with kept | leaves
      · exact kept hypothesis
      · exact absurd leaves (next.2 index job exchange moved)

/-- When a solo hand is begun, the stacks and the pot together change by what is handed out and by
the pot before, which is lost. So no chips vanish exactly when the pot held no more than is handed
out. Where every hand so far was paid out the pot was empty, and chips are only added. -/
theorem chips_of_begun_hand (solo : settings.mode = .single)
    (run : Run settings (opened tableId) log world) {index : Nat} {job : Job}
    {exchange : Option Exchange} (step : Step settings world (.moved index job exchange) next)
    (deals : job.deals)
    (counted : next.session.table.handNumber ≠ world.session.table.handNumber) :
    let supply := world.session.table.supply settings.hero settings.soloStack
    next.session.table.chips + world.session.table.pot = world.session.table.chips + supply ∧
      (world.session.table.chips ≤ next.session.table.chips ↔ world.session.table.pot ≤ supply) ∧
      (Path (PaysOut settings) (opened tableId) log world →
        world.session.table.phase.isHandBoundary → 0 ≤ settings.soloStack →
          world.session.table.pot = 0 ∧ world.session.table.chips ≤ next.session.table.chips) := by
  intro supply
  have balance : next.session.table.chips + world.session.table.pot =
      world.session.table.chips + supply := by
    rcases (operation_of_move run step).begins_of_counted deals counted with ⟨seats, begun⟩
    rw [begun, solo]
    exact Table.chips_beginHand ..
  refine ⟨balance, ?_, ?_⟩
  · lia
  · intro path ended nonneg
    have empty := paid_of_path solo path ended
    have supplied : 0 ≤ supply := Table.supply_nonneg _ _ nonneg
    exact ⟨empty, by lia⟩

/-! ## A pot that nobody gets -/

def paysOut (before : World) : Event → World → Bool
  | .begun _, _ => true
  | .moved _ job _, after => !decide (LeavesPot job before.session.table after.session.table)

theorem path_play_paysOut (settings : Settings) (world : World) (moves : List Move) :
    Path (PaysOut settings) world (play settings paysOut world moves).1
      (play settings paysOut world moves).2 := by
  apply (path_play settings paysOut world moves).mono
  rintro before event after ⟨step, pays⟩
  refine ⟨step, ?_⟩
  rintro index job exchange rfl
  simpa [paysOut] using pays

end World

/-- The simulated opponent calls, and the showdown goes to someone who is not at the table; a hand
on the river is published, and otherwise nobody can be reached. -/
def Answers.awayWinner : Answers
  | .coordinator _ (.showdown _) =>
    .ok { status := "ok", winner := "nobody", winnerSeat := 9, proofSize := 0, sessionId := "" }
  | .coordinator _ (.state _) => .ok { state := "\x7b\"phase\":\"River\"\x7d" }
  | .reply _ _ => .call
  | request => Answers.offline request

namespace World

/-- The hero has won a hand with a raise and is about to begin the next. -/
def won : World :=
  (play solitary paysOut (opened 7) <|
    Move.alone (.user (.dispatch (.start []))) 0 8 .offline ++
      Move.alone (.user (.dispatch (.bet (.raise 100)))) 1 6 .offline ++
      Move.alone (.user (.dispatch (.start []))) 2 2 .offline).2

/-- A hand is begun after one that the hero has won. -/
theorem chips_of_begun_hand_of_win :
    ∃ log exchange next, Run solitary (opened 7) log won ∧
      Step solitary won (.moved 2 (.user (.dispatch (.start []))) exchange) next ∧
      next.session.table.handNumber ≠ won.session.table.handNumber ∧
      won.session.table.winner = some "hero" ∧ won.session.table.phase.isHandBoundary ∧
      Path (PaysOut solitary) (opened 7) log won ∧ won.session.table.pot = 0 ∧
      won.session.table.chips ≤ next.session.table.chips := by
  have path : Path (PaysOut solitary) (opened 7) _ won := path_play_paysOut solitary (opened 7) _
  have run : Run solitary (opened 7) _ won := path.mono And.left
  rcases @exists_step_of_intent solitary won 2 .offline (.start []) (by decide +kernel) with
    ⟨exchange, step⟩
  have counted :
      (play solitary (fun _ _ _ => true) won [.turn 2 .offline]).2.session.table.handNumber ≠
        won.session.table.handNumber := by
    decide +kernel
  have ended : won.session.table.phase.isHandBoundary := by decide +kernel
  rcases (chips_of_begun_hand rfl run step rfl counted).2.2 path ended (by decide) with ⟨empty, kept⟩
  exact ⟨_, exchange, _, run, step, counted, by decide +kernel, ended, path, empty, kept⟩

/-- The hand before went to someone who is not at the table, and the next is about to begin. -/
def unpaid : World :=
  (scheduled solitary 7 <|
    Move.alone (.user (.dispatch (.start []))) 0 8 .awayWinner ++
      Move.alone (.user (.dispatch (.bet (.bet 100)))) 1 10 .awayWinner ++
      Move.alone .poll 2 3 .awayWinner ++
      Move.alone (.user (.dispatch .showdown)) 3 10 .awayWinner ++
      Move.alone (.user (.dispatch (.start []))) 4 2 .awayWinner).2

/-- A pot whose winner is not at the table is lost when the next hand is begun. -/
theorem unpaid_pot_vanishes :
    ¬∀ (settings : Settings) (tableId : UInt32) (log : List Event) (world next : World)
      (index : Nat) (opponents : List Address) (exchange : Option Exchange),
      settings.mode = .single → 0 < settings.buyIn → 0 < settings.soloStack →
      Run settings (opened tableId) log world →
      Step settings world (.moved index (.user (.dispatch (.start opponents))) exchange) next →
      world.session.table.phase.isHandBoundary →
      next.session.table.handNumber ≠ world.session.table.handNumber →
      world.session.table.chips ≤ next.session.table.chips := by
  intro kept
  have run : Run solitary (opened 7) _ unpaid := run_scheduled solitary 7 _
  rcases @exists_step_of_intent solitary unpaid 4 .awayWinner (.start []) (by decide +kernel) with
    ⟨exchange, step⟩
  have chips := kept solitary 7 _ unpaid _ 4 [] exchange rfl (by decide) (by decide) run step
    (by decide +kernel) (by decide +kernel)
  exact absurd chips (by decide +kernel)

end World

end Holdem
