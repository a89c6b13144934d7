import Holdem.Proofs.Table.Hand
import Holdem.Proofs.Text.Address

/-!
# Who is dealt in

Opponents are checked before a hand is dealt: their number, that they are distinct and others than
the hero, and that their addresses are well formed. Opponents who were named are seated as they were
checked. From the lobby they are checked without the hero and without the blanks around them, while
the seats are those of the lobby as it stands. The two lists agree exactly when the hero has one seat
in the lobby and no wallet of another comes with blanks.
-/

namespace Holdem

/-! ## Checked opponents -/

variable {hero : Address} {mode : PlayMode}

/-- Opponents pass the check exactly when they are distinct, well formed, not the hero and not seen
before. -/
theorem checkOpponents_eq_ok_iff {opponents seen : List Address} :
    checkOpponents hero seen opponents = .ok () ↔
      opponents.Nodup ∧ ∀ opponent ∈ opponents,
        opponent ≠ hero ∧ isAccountAddress opponent ∧ opponent ∉ seen := by
  induction opponents generalizing seen with
  | nil => simp [checkOpponents]
  | cons first rest hypothesis =>
    simp only [checkOpponents, List.nodup_cons, List.forall_mem_cons]
    by_cases self : first = hero
    · simp [self]
    by_cases valid : isAccountAddress first
    · by_cases known : first ∈ seen
      · simp [self, valid, known]
      · rw [if_neg self, if_neg (by simp [valid]), if_neg known, hypothesis]
        simp only [List.mem_cons, not_or]
        constructor
        · rintro ⟨distinct, others⟩
          refine ⟨⟨fun again => (others first again).2.2.1 rfl, distinct⟩,
            ⟨self, valid, known⟩, ?_⟩
          intro opponent member
          rcases others opponent member with ⟨other, valid, _, unseen⟩
          exact ⟨other, valid, unseen⟩
        · rintro ⟨⟨once, distinct⟩, _, others⟩
          refine ⟨distinct, ?_⟩
          intro opponent member
          rcases others opponent member with ⟨other, valid, unseen⟩
          refine ⟨other, valid, ?_, unseen⟩
          rintro rfl
          exact once member
    · simp [self, valid]

/-- The seats of a hand as they should be: of distinct addresses, one of them the hero's and the
others well formed, and as many as the mode allows. -/
structure WellSeated (mode : PlayMode) (hero : Address) (seats : List Address) : Prop where
  distinct : seats.Nodup
  heroOnce : seats.count hero = 1
  bounds : mode.seatBounds.1 ≤ seats.length ∧ seats.length ≤ mode.seatBounds.2
  others : ∀ address ∈ seats, address ≠ hero → isAccountAddress address

/-- What passes the check: opponents that are distinct and well formed once they are trimmed. -/
theorem seatsFor_eq_ok_iff {opponents seats : List Address} :
    seatsFor mode hero opponents = .ok seats ↔
      (mode.seatBounds.1 ≤ opponents.length + 1 ∧ opponents.length + 1 ≤ mode.seatBounds.2) ∧
        ((opponents.map Text.trim).Nodup ∧
          ∀ opponent ∈ opponents.map Text.trim, opponent ≠ hero ∧ isAccountAddress opponent) ∧
        seats = hero :: opponents.map Text.trim := by
  have seen : ∀ opponent : Address,
      opponent ≠ hero ∧ isAccountAddress opponent ∧ opponent ∉ [hero] ↔
        opponent ≠ hero ∧ isAccountAddress opponent := by
    intro opponent
    simp only [List.mem_singleton]
    exact ⟨fun all => ⟨all.1, all.2.1⟩, fun both => ⟨both.1, both.2, both.1⟩⟩
  simp only [seatsFor]
  by_cases misfit :
      opponents.length + 1 < mode.seatBounds.1 ∨ mode.seatBounds.2 < opponents.length + 1
  · simp only [misfit, ↓reduceIte, reduceCtorEq, false_iff]
    rintro ⟨⟨least, most⟩, _⟩
    omega
  · have fits : mode.seatBounds.1 ≤ opponents.length + 1 ∧
        opponents.length + 1 ≤ mode.seatBounds.2 := by omega
    simp only [misfit, ↓reduceIte, fits, true_and]
    have check : checkOpponents hero [hero] (opponents.map Text.trim) = .ok () ↔ _ :=
      checkOpponents_eq_ok_iff
    simp only [seen] at check
    rw [← check]
    rcases checkOpponents hero [hero] (opponents.map Text.trim) with fault | passed
    · simp [Except.map]
    · simp [Except.map, eq_comm]

theorem wellSeated_of_seatsFor {opponents seats : List Address}
    (checked : seatsFor mode hero opponents = .ok seats) : WellSeated mode hero seats := by
  rcases seatsFor_eq_ok_iff.mp checked with ⟨bounds, ⟨distinct, others⟩, rfl⟩
  have absent : hero ∉ opponents.map Text.trim := fun member => (others hero member).1 rfl
  exact {
    distinct := List.nodup_cons.mpr ⟨absent, distinct⟩
    heroOnce := by rw [List.count_cons_self, List.count_eq_zero_of_not_mem absent]
    bounds := by simpa using bounds
    others := by
      intro address member other
      exact (others address ((List.mem_cons.mp member).resolve_left other)).2 }

/-- A list in which one element stands once, and the others are distinct, has no element twice. -/
theorem nodup_of_count_eq_one {elements : List Address} {element : Address}
    (once : elements.count element = 1) (others : (elements.filter (· ≠ element)).Nodup) :
    elements.Nodup := by
  rw [List.nodup_iff_count]
  intro other
  by_cases same : other = element
  · rw [same]
    exact Nat.le_of_eq once
  · have counted := List.nodup_iff_count.mp others other
    rw [List.count_filter (by simpa using same)] at counted
    exact counted

/-- The seats of a lobby whose opponents were checked are as they should be exactly when the hero
has one of them and the other wallets were checked as they stand. -/
theorem wellSeated_wallets_iff {lobby : Lobby} {others checked : List Address}
    (opponents : lobby.opponentsOf hero = .ok others)
    (passed : seatsFor mode hero others = .ok checked) :
    WellSeated mode hero lobby.wallets ↔
      lobby.wallets.count hero = 1 ∧
        ∀ wallet ∈ lobby.wallets, wallet ≠ hero → Text.trim wallet = wallet := by
  have othersEq : others = lobby.wallets.filter (· ≠ hero) := by
    simp only [Lobby.opponentsOf] at opponents
    split at opponents
    · exact (Except.ok.inj opponents).symm
    · exact absurd opponents (by simp)
  rcases seatsFor_eq_ok_iff.mp passed with ⟨bounds, ⟨distinct, valid⟩, _⟩
  constructor
  · intro seated
    refine ⟨seated.heroOnce, ?_⟩
    intro wallet member other
    exact trim_of_isAccountAddress (seated.others wallet member other)
  · rintro ⟨once, trimmed⟩
    have among : ∀ wallet ∈ lobby.wallets, wallet ≠ hero → wallet ∈ others := by
      intro wallet member other
      rw [othersEq]
      exact List.mem_filter.mpr ⟨member, by simpa using other⟩
    have asTheyStand : others.map Text.trim = others := by
      rw [← List.map_id others, List.map_map, List.map_inj_left]
      intro wallet member
      rw [othersEq, List.mem_filter] at member
      exact trimmed wallet member.1 (by simpa using member.2)
    rw [asTheyStand] at distinct valid
    have length : lobby.wallets.length = others.length + 1 := by
      rw [lobby.wallets.length_eq_countP_add_countP (· == hero), ← List.count_eq_countP, once,
        List.countP_eq_length_filter, othersEq, Nat.add_comm]
      simp
    exact {
      distinct := nodup_of_count_eq_one once (by rw [← othersEq]; exact distinct)
      heroOnce := once
      bounds := by rw [length]; exact bounds
      others := fun wallet member other => (valid wallet (among wallet member other)).2 }

/-! ## Seats of a deal -/

/-- Outside a solo session a deal seats the addresses given to it, in their order. -/
theorem Table.addresses_beginHand (shared : mode.isSolo = false) (table : Table)
    {seats : List Address} (some : seats ≠ []) (buyIn soloStack : Chips) :
    (table.beginHand mode hero seats buyIn soloStack).players.map Player.address = seats := by
  have notEmpty : seats.isEmpty = false := by simpa using some
  simp only [beginHand, shared, Bool.false_eq_true, ↓reduceIte, seatAll, notEmpty, markUnconfirmed,
    List.map_map]
  exact List.zipIdx_map_fst 0 seats

end Holdem
