import Mathlib.Order.Bounds.Defs
import Holdem.Proofs.Session.Authentication

/-!
# Which nonces are issued

A counter keeps one number and forgets the readings of the clock that led to it. All the same each
nonce is known from the clock alone. Every call pushes the counter one further, and every reading
pushes it up to itself; so a nonce is the largest of the numbers that the calls so far can have pushed
it to, the number of the calls and, for each reading, the reading and the calls since.

That is proved for a counter at any number, since the calls after the first start from wherever the
first has led. Order, the clock as a lower bound and the distance to the largest 64-bit number are
then read off from the maximum.
-/

namespace Holdem

namespace NonceCounter

variable {counter : NonceCounter} {clock later : List Nat} {bound now call nonce : Nat}

/-- A call issues the next number of a counter that has been given the readings before. -/
theorem getElem?_issue (counter : NonceCounter) (clock : List Nat) (call : Nat) :
    (counter.issue clock)[call]? =
      clock[call]?.map ((clock.take call).foldl advance counter).next := by
  induction clock generalizing counter call with
  | nil => rfl
  | cons now later hypothesis =>
    cases call with
    | zero => rfl
    | succ call => simp [issue, hypothesis]

theorem last_of_issued (issued : (counter.issue clock)[call]? = some nonce) :
    ((clock.take (call + 1)).foldl advance counter).last = nonce := by
  rw [getElem?_issue, Option.map_eq_some_iff] at issued
  rcases issued with ⟨now, read, rfl⟩
  rw [List.take_add_one, read, Option.toList_some, List.foldl_append]
  rfl

/-- The calls at some readings of the clock stay below the largest 64-bit number, wherever between
zero and `bound` the readings and the counter are. -/
structure Unsaturated (bound : Nat) (counter : NonceCounter) (clock : List Nat) : Prop where
  last : counter.last ≤ bound
  readings : ∀ reading ∈ clock, reading ≤ bound
  room : bound + clock.length < Text.maxWord64

namespace Unsaturated

theorem next (unsaturated : Unsaturated bound counter (now :: later)) :
    counter.next now = max now (counter.last + 1) := by
  have last := unsaturated.last
  have room := unsaturated.room
  rw [List.length_cons] at room
  simp only [NonceCounter.next, successor]
  omega

theorem advance (unsaturated : Unsaturated bound counter (now :: later)) :
    Unsaturated (bound + 1) (counter.advance now) later where
  last := by
    have last := unsaturated.last
    have reading := unsaturated.readings now List.mem_cons_self
    simp only [NonceCounter.advance, unsaturated.next]
    omega
  readings reading member :=
    Nat.le_succ_of_le (unsaturated.readings reading (List.mem_cons_of_mem now member))
  room := by
    have room := unsaturated.room
    rw [List.length_cons] at room
    omega

end Unsaturated

/-- What the calls up to an index can have pushed a counter to. -/
def pushed (counter : NonceCounter) (clock : List Nat) (call : Nat) : Set Nat :=
  {n | n = counter.last + (call + 1) ∨
    ∃ earlier ≤ call, ∃ reading, clock[earlier]? = some reading ∧ n = reading + (call - earlier)}

theorem isGreatest_pushed_zero (counter : NonceCounter) (now : Nat) (later : List Nat) :
    IsGreatest (counter.pushed (now :: later) 0) (max now (counter.last + 1)) := by
  constructor
  · rcases Nat.le_total now (counter.last + 1) with behind | ahead
    · exact .inl (Nat.max_eq_right behind)
    · exact .inr ⟨0, Nat.le_refl 0, now, rfl, Nat.max_eq_left ahead⟩
  · rintro n (rfl | ⟨earlier, first, reading, read, rfl⟩)
    · omega
    · cases Nat.le_zero.mp first
      cases read
      omega

/-- The later calls start from where the first has led, one call further than before it. -/
theorem isGreatest_pushed_succ
    (greatest : IsGreatest (pushed ⟨max now (counter.last + 1)⟩ later call) nonce) :
    IsGreatest (counter.pushed (now :: later) (call + 1)) nonce := by
  rcases greatest with ⟨reached, upper⟩
  constructor
  · rcases reached with start | ⟨earlier, le, reading, read, rfl⟩
    · dsimp only at start
      rcases Nat.le_total now (counter.last + 1) with behind | ahead
      · exact .inl (by omega)
      · exact .inr ⟨0, by omega, now, rfl, by omega⟩
    · exact .inr ⟨earlier + 1, by omega, reading, read, by omega⟩
  · have start : max now (counter.last + 1) + (call + 1) ≤ nonce := upper (.inl rfl)
    rintro n (rfl | ⟨earlier, le, reading, read, rfl⟩)
    · omega
    · cases earlier with
      | zero =>
        cases read
        omega
      | succ earlier =>
        have further : reading + (call - earlier) ≤ nonce :=
          upper (.inr ⟨earlier, by omega, reading, read, rfl⟩)
        omega

/-- The nonce of a call is the largest number that the calls so far can have pushed the counter to. -/
theorem isGreatest_issue (unsaturated : Unsaturated bound counter clock)
    (issued : (counter.issue clock)[call]? = some nonce) :
    IsGreatest (counter.pushed clock call) nonce := by
  -- The first call moves the counter and may move it above the bound, so both vary.
  induction clock generalizing counter bound call with
  | nil => exact absurd issued (by simp [issue])
  | cons now later hypothesis =>
    cases call with
    | zero =>
      rw [issue, List.getElem?_cons_zero, Option.some.injEq, unsaturated.next] at issued
      rw [← issued]
      exact counter.isGreatest_pushed_zero now later
    | succ call =>
      rw [issue, List.getElem?_cons_succ] at issued
      apply isGreatest_pushed_succ
      rw [← unsaturated.next]
      exact hypothesis unsaturated.advance issued

/-- Whatever pushed the counter to a nonce has pushed it further by the next call. -/
theorem lt_of_isGreatest_pushed {earlier call first nonce : Nat} (before : earlier < call)
    (reached : first ∈ counter.pushed clock earlier)
    (greatest : IsGreatest (counter.pushed clock call) nonce) : first < nonce := by
  have further : first + (call - earlier) ∈ counter.pushed clock call := by
    rcases reached with rfl | ⟨since, le, reading, read, rfl⟩
    · exact .inl (by omega)
    · exact .inr ⟨since, by omega, reading, read, by omega⟩
  have le := greatest.2 further
  omega

theorem issue_increasing (unsaturated : Unsaturated bound counter clock) :
    (counter.issue clock).Pairwise (· < ·) := by
  rw [List.pairwise_iff_getElem]
  intro earlier call early late before
  have first := isGreatest_issue unsaturated (List.getElem?_eq_getElem early)
  have second := isGreatest_issue unsaturated (List.getElem?_eq_getElem late)
  exact lt_of_isGreatest_pushed before first.1 second

theorem lt_maxWord64_of_pushed (unsaturated : Unsaturated bound counter clock)
    (within : call < clock.length) (reached : nonce ∈ counter.pushed clock call) :
    nonce < Text.maxWord64 := by
  have room := unsaturated.room
  rcases reached with rfl | ⟨earlier, le, reading, read, rfl⟩
  · have last := unsaturated.last
    omega
  · have read := unsaturated.readings reading (List.mem_of_getElem? read)
    omega

theorem unsaturated_fresh (short : clock.length < halfWord64)
    (signed : ∀ reading ∈ clock, reading < halfWord64) :
    Unsaturated (halfWord64 - 1) {} clock where
  last := Nat.zero_le _
  readings reading member := Nat.le_sub_one_of_lt (signed reading member)
  room := by
    simp only [halfWord64, Text.maxWord64] at short ⊢
    omega

/-- A new counter is called fewer than `halfWord64` times, by a clock that counts in 64 bits with a
sign, runs on, stands still or jumps back. Each call issues exactly the largest of the number of the
calls so far and, for every reading so far, the reading and the calls since. So the nonces go up, none
is below its reading of the clock or comes to the largest 64-bit number, and the counter holds the
one issued last. -/
theorem issued_by_clock (short : clock.length < halfWord64)
    (signed : ∀ reading ∈ clock, reading < halfWord64) :
    (({} : NonceCounter).issue clock).Pairwise (· < ·) ∧
      ∀ k reading, clock[k]? = some reading →
        ∃ nonce, (({} : NonceCounter).issue clock)[k]? = some nonce ∧
          IsGreatest {n | n = k + 1 ∨
            ∃ j ≤ k, ∃ earlier, clock[j]? = some earlier ∧ n = earlier + (k - j)} nonce ∧
          reading ≤ nonce ∧ nonce < Text.maxWord64 ∧
          ((clock.take (k + 1)).foldl advance {}).last = nonce := by
  have unsaturated := unsaturated_fresh short signed
  refine ⟨issue_increasing unsaturated, ?_⟩
  intro k reading read
  have issued := ({} : NonceCounter).getElem?_issue clock k
  rw [read, Option.map_some] at issued
  have greatest := isGreatest_issue unsaturated issued
  have own : reading + (k - k) ∈ ({} : NonceCounter).pushed clock k :=
    .inr ⟨k, Nat.le_refl k, reading, read, rfl⟩
  refine ⟨_, issued, ?_, ?_, ?_, last_of_issued issued⟩
  · simpa [pushed] using greatest
  · have le := greatest.2 own
    omega
  · have within := (List.getElem?_eq_some_iff.mp read).1
    exact lt_maxWord64_of_pushed unsaturated within greatest.1

/-- A clock that jumps back once and then stands still. -/
theorem issued_when_clock_jumps_back :
    let clock := [5000, 10, 9000, 9000]
    let issued := ({} : NonceCounter).issue clock
    clock.length < halfWord64 ∧ (∀ reading ∈ clock, reading < halfWord64) ∧
      issued = [5000, 5001, 9000, 9001] ∧ issued.Pairwise (· < ·) ∧
      ∃ nonce, issued[1]? = some nonce ∧
        IsGreatest {n | n = 1 + 1 ∨
          ∃ j ≤ 1, ∃ earlier, clock[j]? = some earlier ∧ n = earlier + (1 - j)} nonce ∧
        10 ≤ nonce ∧ nonce < Text.maxWord64 ∧
        ((clock.take (1 + 1)).foldl advance {}).last = nonce := by
  intro clock issued
  have short : clock.length < halfWord64 := by decide
  have signed : ∀ reading ∈ clock, reading < halfWord64 := by decide
  rcases issued_by_clock short signed with ⟨increasing, calls⟩
  exact ⟨short, signed, rfl, increasing, calls 1 10 rfl⟩

end NonceCounter

end Holdem
