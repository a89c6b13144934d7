import Holdem.Intent
import Holdem.Proofs.Table.Board
import Holdem.Proofs.Table.Level

/-!
# Whose turn a snapshot shows

Outside a solo session the hero may bet where the snapshot shows a betting round, the hero in it, and
the turn at the hero's seat. The turn is written by polls alone: no action of the player moves it on,
and a bet that was accepted leaves it where it was shown. What an action can do is fold the hero or
end the betting rounds. So as long as no poll is merged and no hand begun, nobody can bet who could
not before, and whoever could still can, unless folded or the rounds are over.
-/

namespace Holdem

/-- A player keeps address and seat, and whoever has folded stays out. -/
structure Player.Sits (before after : Player) : Prop where
  address : after.address = before.address
  seat : after.seat = before.seat
  folded : before.folded → after.folded

namespace Player.Sits

variable {first middle last : Player}

theorem refl (player : Player) : player.Sits player := ⟨rfl, rfl, id⟩

theorem trans (one : first.Sits middle) (other : middle.Sits last) : first.Sits last where
  address := other.address.trans one.address
  seat := other.seat.trans one.seat
  folded := other.folded ∘ one.folded

end Player.Sits

/-- Lists of related elements are searched alike, as long as related elements are wanted alike. -/
theorem rel_find? {related : α → β → Prop} {wanted : α → Bool} {also : β → Bool}
    {olds : List α} {news : List β} (alike : ∀ old new, related old new → also new = wanted old)
    (all : List.Forall₂ related olds news) :
    Option.Rel related (olds.find? wanted) (news.find? also) := by
  induction all with
  | nil => exact .none
  | @cons old new _ _ here _ hypothesis =>
    simp only [List.find?_cons, alike old new here]
    split
    · exact .some here
    · exact hypothesis

namespace Table

variable {arithmetic : Arithmetic} {hero address : Address}
  {table before after middle last : Table} {action : Action}

/-- The snapshot lets the hero bet: in a betting round, seated, in the hand and on turn. -/
def LetsBet (table : Table) (hero : Address) : Prop :=
  table.phase.isBettingRound ∧
    ∃ player, table.player? hero = some player ∧ player.folded = false ∧
      player.seat = table.currentTurn

/-- What is left of the hero's turn in a betting round: there was one before, the same seat is on turn,
and the hero sits where the hero sat. -/
structure TurnLeft (hero : Address) (before after : Table) : Prop where
  betting : before.phase.isBettingRound
  turn : after.currentTurn = before.currentTurn
  seat : Option.Rel Player.Sits (before.player? hero) (after.player? hero)

/-- Nothing is left of a turn outside the betting rounds; within them it is the hero's as before. -/
def KeepsTurn (hero : Address) (before after : Table) : Prop :=
  after.phase.isBettingRound → TurnLeft hero before after

namespace KeepsTurn

theorem of_players (phase : after.phase.isBettingRound → before.phase.isBettingRound)
    (turn : after.currentTurn = before.currentTurn)
    (players : List.Forall₂ Player.Sits before.players after.players) :
    KeepsTurn hero before after := by
  intro betting
  refine ⟨phase betting, turn, rel_find? ?_ players⟩
  intro old new sits
  rw [sits.address]

theorem of_same (phase : after.phase.isBettingRound → before.phase.isBettingRound)
    (turn : after.currentTurn = before.currentTurn) (players : after.players = before.players) :
    KeepsTurn hero before after :=
  .of_players phase turn (players ▸ List.forall₂_same.mpr fun player _ => .refl player)

theorem of_ended (ended : after.phase.isBettingRound = false) : KeepsTurn hero before after :=
  fun betting => absurd betting (by simp [ended])

theorem refl (table : Table) : KeepsTurn hero table table := .of_same id rfl rfl

theorem trans (one : KeepsTurn hero before middle) (other : KeepsTurn hero middle after) :
    KeepsTurn hero before after := by
  intro betting
  rcases other betting with ⟨bettingBetween, turnAfter, second⟩
  rcases one bettingBetween with ⟨bettingBefore, turn, first⟩
  refine ⟨bettingBefore, turnAfter.trans turn, ?_⟩
  generalize before.player? hero = old at first ⊢
  generalize middle.player? hero = between at first second
  generalize after.player? hero = new at second ⊢
  cases first with
  | none => exact second
  | some sits =>
    cases second with
    | some later => exact .some (sits.trans later)

/-- The hero may bet where the hero could before, unless the rounds are over or the hero is out. -/
theorem letsBet_iff (kept : KeepsTurn hero before after) :
    after.LetsBet hero ↔ before.LetsBet hero ∧ after.phase.isBettingRound ∧
      ∃ player, after.player? hero = some player ∧ player.folded = false := by
  constructor
  · rintro ⟨betting, player, found, inHand, onTurn⟩
    rcases kept betting with ⟨bettingBefore, turn, seat⟩
    rw [found] at seat
    generalize foundBefore : before.player? hero = old at seat
    cases seat with
    | @some old _ sits =>
      have inHandBefore : old.folded = false := by
        rw [← Bool.not_eq_true]
        intro out
        rw [sits.folded out] at inHand
        exact absurd inHand (by decide)
      exact ⟨⟨bettingBefore, old, foundBefore, inHandBefore, by rw [← sits.seat, onTurn, turn]⟩,
        betting, player, found, inHand⟩
  · rintro ⟨⟨_, old, foundBefore, _, onTurn⟩, betting, player, found, inHand⟩
    rcases kept betting with ⟨_, turn, seat⟩
    rw [found, foundBefore] at seat
    cases seat with
    | some sits => exact ⟨betting, player, found, inHand, by rw [sits.seat, onTurn, turn]⟩

end KeepsTurn

/-- Outside a solo session a bet passes its check where the snapshot lets the hero bet, if it names
no bad amount. -/
theorem check_bet_eq_ok_iff {mode : PlayMode} (shared : mode.isSolo = false) :
    (Intent.bet action).check table mode hero = .ok () ↔
      Intent.isBadAmount action.amount? = false ∧ table.LetsBet hero := by
  simp only [Intent.check, Intent.checkBet, LetsBet, shared]
  by_cases betting : table.phase.isBettingRound
  · cases bad : Intent.isBadAmount action.amount? with
    | true => simp [betting]
    | false =>
      rcases found : table.player? hero with _ | player
      · simp [betting]
      · cases out : player.folded with
        | true => simp [betting, out]
        | false => by_cases onTurn : player.seat = table.currentTurn <;> simp [betting, out, onTurn]
  · simp [betting]

/-! ## Operations -/

theorem keepsTurn_act? {moved : Chips}
    (acts : table.act? arithmetic address action = some (after, moved)) :
    KeepsTurn hero table after := by
  have updated : ∀ {player : Player} {change : Player → Player},
      table.player? address = some player → player.Sits (change player) →
        List.Forall₂ Player.Sits table.players
          (updateFirst (fun player => player.address = address) change table.players) := by
    intro player change seated sits
    apply forall₂_updateFirst Player.Sits.refl
    intro other found
    cases seated.symm.trans found
    exact sits
  rcases act?_cases acts with
    ⟨_, rfl, _⟩ | ⟨player, seated, ⟨_, _, rfl⟩ | ⟨_, _, rfl⟩ | ⟨stake, committed, _, commits, rfl⟩⟩
  · exact .refl _
  · exact .of_players id rfl (updated seated ⟨rfl, rfl, fun _ => rfl⟩)
  · exact .refl _
  · rcases Player.commit?_eq_some commits with ⟨_, _, _, _, address, seat, folded, _⟩
    refine .of_players id rfl (updated seated ⟨address, seat, fun out => ?_⟩)
    rw [folded]
    exact out

theorem keepsTurn_showStreet (table : Table) (street : Street) (cards : List Card) (size : Nat)
    (transaction : Option String) :
    KeepsTurn hero table (table.showStreet street cards size transaction) := by
  rcases table.showStreet_cases street cards size transaction with
    ⟨asked, eq⟩ | ⟨_, eq⟩ | ⟨_, _, eq⟩
  · have before : table.phase.isBettingRound := by
      rw [asked]
      cases street <;> rfl
    have sits : List.Forall₂ Player.Sits table.players table.resetBets.players :=
      List.forall₂_map_right_iff.mpr (List.forall₂_same.mpr fun _ _ => ⟨rfl, rfl, id⟩)
    rw [eq]
    exact .of_players (fun _ => before) rfl sits
  · rw [eq]
    exact .of_same id rfl rfl
  · rw [eq]
    exact .of_same id rfl rfl

theorem keepsTurn_storeHole (table : Table) (cards : Card × Card) :
    KeepsTurn hero table (table.storeHole address cards) :=
  .of_players id rfl (forall₂_updateFirst Player.Sits.refl fun _ _ => ⟨rfl, rfl, id⟩)

theorem exists_player?_act? {player : Player} {moved : Chips}
    (acts : table.act? arithmetic hero action = some (after, moved))
    (seated : table.player? hero = some player) :
    ∃ left, after.player? hero = some left ∧
      (left.folded ↔ player.folded ∨ action = .fold) := by
  rcases act?_cases acts with ⟨absent, _⟩ |
    ⟨actor, found, ⟨rfl, _, rfl⟩ | ⟨rfl, _, rfl⟩ | ⟨stake, committed, stakes, commits, rfl⟩⟩
  · rw [seated] at absent
    exact absurd absent (by simp)
  · have keeps : ∀ player : Player, player.address = hero →
        { player with folded := true }.address = hero := fun _ same => same
    exact ⟨_, player?_updatePlayer keeps seated, by simp⟩
  · exact ⟨player, seated, by simp⟩
  · cases seated.symm.trans found
    rcases Player.commit?_eq_some commits with ⟨_, _, _, _, address, _, folded, _⟩
    have keeps : ∀ other : Player, other.address = hero → committed.address = hero :=
      fun _ _ => address.trans (address_of_player? seated)
    have stays : action ≠ .fold := by
      rintro rfl
      exact absurd stakes (by simp [Action.stake?])
    exact ⟨committed, player?_updatePlayer keeps seated, by simp [folded, stays]⟩

/-- The hero may still bet after an action that was accepted, unless it was a fold. -/
theorem letsBet_applyAccepted?_iff {transaction : Option String}
    (applied : table.applyAccepted? arithmetic hero action transaction = some after) :
    after.LetsBet hero ↔ action ≠ .fold ∧ table.LetsBet hero := by
  rcases applyAccepted?_cases applied with ⟨acted, moved, acts, rfl⟩
  have phase : acted.phase = table.phase := by rw [act?_frame acts]
  change acted.LetsBet hero ↔ _
  rw [(keepsTurn_act? acts).letsBet_iff, phase]
  constructor
  · rintro ⟨lets, _, player, found, inHand⟩
    rcases lets with ⟨betting, actor, seated, onTurn⟩
    rcases exists_player?_act? acts seated with ⟨left, foundAgain, folded⟩
    cases found.symm.trans foundAgain
    refine ⟨?_, betting, actor, seated, onTurn⟩
    rintro rfl
    simp [folded.mpr (.inr rfl)] at inHand
  · rintro ⟨stays, lets⟩
    refine ⟨lets, lets.1, ?_⟩
    rcases lets with ⟨_, actor, seated, inHand, _⟩
    rcases exists_player?_act? acts seated with ⟨left, found, folded⟩
    refine ⟨left, found, ?_⟩
    rw [← Bool.not_eq_true, folded]
    simp [inHand, stays]

end Table

end Holdem
