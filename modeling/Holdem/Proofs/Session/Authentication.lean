import Holdem.Coordinator.Http
import Holdem.Proofs.Session.Schedule
import Holdem.Proofs.Session.Token

/-!
# Authentication

Whatever a session asks of the coordinator under a label, it asks in the hero's name. An envelope
speaks for one call and one table, the nonces of all envelopes that are sent go up, and the mere
name is sent only where that is allowed, and is never followed by a second request unless it was
refused.

The nonces go up because they are drawn by one action after the other, and because each envelope is
sent, or given up, before the next nonce is drawn.
-/

namespace Holdem

/-! ## Refusals -/

/-- The nonce of an envelope that is sent. -/
def Exchange.nonce? : Exchange → Option Nat
  | ⟨.coordinator (some (.signed envelope)) _, _⟩ => some envelope.nonce
  | _ => none

/-- What the clock showed. -/
def Exchange.reading? : Exchange → Option ClockReading
  | ⟨.clock, now⟩ => some now
  | _ => none

/-- The nonces of all envelopes that were sent, by any job, the latest last. -/
def sentNonces (log : List Event) : List Nat :=
  log.filterMap fun event => event.exchange?.bind Exchange.nonce?

/-- All readings of the clock, the latest last. -/
def readings (log : List Event) : List ClockReading :=
  log.filterMap fun event => event.exchange?.bind Exchange.reading?

/-- Half of the 64-bit numbers, which is two to the power of 63. -/
def halfWord64 : Nat := 0x8000000000000000

/-- The clock counts microseconds in 64 bits with a sign, and it was not read so often that the
nonces drawn could come to their end. -/
structure Timely (log : List Event) : Prop where
  micros : ∀ now ∈ readings log, now.micros < halfWord64
  few : (readings log).length < halfWord64

section

variable (log : List Event) (event : Event)

theorem sentNonces_snoc : sentNonces (log ++ [event]) =
    sentNonces log ++ (event.exchange?.bind Exchange.nonce?).toList := by
  cases heard : event.exchange?.bind Exchange.nonce? <;> simp [sentNonces, heard]

theorem readings_snoc : readings (log ++ [event]) =
    readings log ++ (event.exchange?.bind Exchange.reading?).toList := by
  cases heard : event.exchange?.bind Exchange.reading? <;> simp [readings, heard]

end

variable {settings : Settings} {log : List Event} {event : Event} {world : World}

theorem Timely.of_snoc (timely : Timely (log ++ [event])) : Timely log where
  micros now member := by
    apply timely.micros now
    rw [readings_snoc]
    exact List.mem_append_left _ member
  few := by
    have few := timely.few
    rw [readings_snoc, List.length_append] at few
    omega

theorem Exchange.silent_of_plain {exchange : Exchange} (plain : exchange.request.isPlain) :
    exchange.nonce? = none ∧ exchange.reading? = none := by
  rcases exchange with ⟨request, answer⟩
  cases request with
  | coordinator credentials call =>
    cases credentials with
    | none => exact ⟨rfl, rfl⟩
    | some credentials => exact absurd plain (by simp [Request.isPlain])
  | signMessage message => exact absurd plain (by simp [Request.isPlain])
  | clock => exact absurd plain (by simp [Request.isPlain])
  | _ => exact ⟨rfl, rfl⟩

/-! ## The order of nonces -/

/-- The nonces are in order: those that were sent go up, and the one that is drawn and not sent is
above them. The counter stays so low that it can go up for every reading of the clock. -/
structure Numbered (log : List Event) (counter : NonceCounter) (stage : Stage) : Prop where
  increasing : (sentNonces log).Pairwise (· < ·)
  issued : ∀ nonce ∈ sentNonces log, nonce ≤ counter.last
  pending : ∀ nonce, stage.nonce? = some nonce →
    nonce ≤ counter.last ∧ ∀ earlier ∈ sentNonces log, earlier < nonce
  dated : ∀ now, stage.reading? = some now → now ∈ readings log
  room : counter.last + stage.reading?.toList.length < halfWord64 + (readings log).length

namespace Numbered

variable {later : List Event} {counter : NonceCounter} {stage next : Stage} {now : ClockReading}
  {nonce : Nat}

theorem empty : Numbered [] {} .idle where
  increasing := .nil
  issued _ member := absurd member List.not_mem_nil
  pending _ none := absurd none (by simp [Stage.nonce?])
  dated _ none := absurd none (by simp [Stage.reading?])
  room := by decide

/-- Nothing is disordered while neither an envelope is sent nor the clock read. A nonce may be given
up. -/
theorem silent (numbered : Numbered log counter stage) (sent : sentNonces later = sentNonces log)
    (read : readings later = readings log)
    (nonces : next.nonce? = stage.nonce? ∨ next.nonce? = none)
    (dates : next.reading? = stage.reading?) : Numbered later counter next where
  increasing := by
    rw [sent]
    exact numbered.increasing
  issued := by
    rw [sent]
    exact numbered.issued
  pending := by
    rw [sent]
    intro nonce isPending
    rcases nonces with same | none
    · exact numbered.pending nonce (same ▸ isPending)
    · rw [none] at isPending
      exact absurd isPending (by simp)
  dated := by
    rw [read, dates]
    exact numbered.dated
  room := by
    rw [read, dates]
    exact numbered.room

theorem date (numbered : Numbered log counter stage) (sent : sentNonces later = sentNonces log)
    (read : readings later = readings log ++ [now]) (nonces : next.nonce? = none)
    (undated : stage.reading? = none) (dates : next.reading? = some now) :
    Numbered later counter next where
  increasing := by
    rw [sent]
    exact numbered.increasing
  issued := by
    rw [sent]
    exact numbered.issued
  pending nonce isPending := by
    rw [nonces] at isPending
    exact absurd isPending (by simp)
  dated := by
    intro other isDate
    rw [dates] at isDate
    rw [read, Option.some.inj isDate]
    exact List.mem_append_right _ List.mem_cons_self
  room := by
    have room := numbered.room
    rw [undated, Option.toList_none, List.length_nil] at room
    rw [read, dates, List.length_append, Option.toList_some, List.length_singleton]
    omega

/-- A nonce that is drawn is above all that were drawn before. -/
theorem draw (numbered : Numbered log counter stage) (timely : Timely log)
    (sent : sentNonces later = sentNonces log) (read : readings later = readings log)
    (dates : stage.reading? = some now)
    (nonces : next.nonce? = some (counter.next now.micros)) (undated : next.reading? = none) :
    Numbered later (counter.advance now.micros) next := by
  have room := numbered.room
  rw [dates, Option.toList_some, List.length_singleton] at room
  have few := timely.few
  have early := timely.micros now (numbered.dated now dates)
  have above : counter.last < counter.next now.micros := by
    simp only [NonceCounter.next, NonceCounter.successor, Text.maxWord64]
    simp only [halfWord64] at room few
    omega
  have bounded : counter.next now.micros < halfWord64 + (readings log).length := by
    simp only [NonceCounter.next, NonceCounter.successor]
    omega
  exact {
    increasing := by
      rw [sent]
      exact numbered.increasing
    issued := by
      rw [sent]
      intro nonce member
      exact Nat.le_trans (numbered.issued nonce member) (Nat.le_of_lt above)
    pending := by
      intro nonce isPending
      rw [nonces] at isPending
      rw [sent, ← Option.some.inj isPending]
      refine ⟨Nat.le_refl _, ?_⟩
      intro earlier member
      exact Nat.lt_of_le_of_lt (numbered.issued earlier member) above
    dated := by
      intro other isDate
      rw [undated] at isDate
      exact absurd isDate (by simp)
    room := by
      rw [read, undated]
      exact bounded }

theorem send (numbered : Numbered log counter stage)
    (sent : sentNonces later = sentNonces log ++ [nonce]) (read : readings later = readings log)
    (pending : stage.nonce? = some nonce) (undated : stage.reading? = none) :
    Numbered later counter .idle := by
  rcases numbered.pending nonce pending with ⟨issued, last⟩
  exact {
    increasing := by
      rw [sent, List.pairwise_append]
      refine ⟨numbered.increasing, List.pairwise_singleton _ _, ?_⟩
      intro earlier member other isLast
      rw [List.mem_singleton.mp isLast]
      exact last earlier member
    issued := by
      rw [sent]
      intro other member
      rcases List.mem_append.mp member with early | isLast
      · exact numbered.issued other early
      · rw [List.mem_singleton.mp isLast]
        exact issued
    pending := by
      intro other none
      exact absurd none (by simp [Stage.nonce?])
    dated := by
      intro other none
      exact absurd none (by simp [Stage.reading?])
    room := by
      have room := numbered.room
      rw [undated] at room
      rw [read]
      exact room }

/-- The nonces stay in order whatever a step does to the token. -/
theorem passes {before after : NonceCounter} {holder further : Option Holder}
    (numbered : Numbered log before (Holder.stage holder)) (timely : Timely log)
    (passes : Holder.Passes settings holder before event.exchange? after further) :
    Numbered (log ++ [event]) after (Holder.stage further) := by
  have sent := sentNonces_snoc log event
  have read := readings_snoc log event
  generalize event.exchange? = exchange at sent read passes
  cases passes with
  | stays plain =>
    cases exchange with
    | none =>
      exact numbered.silent (sent.trans (List.append_nil _)) (read.trans (List.append_nil _))
        (Or.inl rfl) rfl
    | some exchange =>
      rcases Exchange.silent_of_plain (plain exchange rfl) with ⟨noNonce, noReading⟩
      rw [Option.bind_some, noNonce, Option.toList_none, List.append_nil] at sent
      rw [Option.bind_some, noReading, Option.toList_none, List.append_nil] at read
      exact numbered.silent sent read (Or.inl rfl) rfl
  | taken =>
    exact numbered.silent (sent.trans (List.append_nil _)) (read.trans (List.append_nil _))
      (Or.inl rfl) rfl
  | @givenBack _ index progress idle =>
    have stage : Holder.stage (some ⟨index, progress⟩) = .idle := idle
    rw [stage] at numbered
    exact numbered.silent (sent.trans (List.append_nil _)) (read.trans (List.append_nil _))
      (Or.inl rfl) rfl
  | moves moves =>
    cases moves with
    | draws draws =>
      rw [Option.bind_none, Option.toList_none, List.append_nil] at sent read
      cases draws with
      | leave => exact numbered.silent sent read (Or.inl rfl) rfl
      | draw => exact numbered.draw timely sent read rfl rfl rfl
    | reads reads =>
      cases reads with
      | plain plain =>
        rcases Exchange.silent_of_plain plain with ⟨noNonce, noReading⟩
        rw [Option.bind_some, noNonce, Option.toList_none, List.append_nil] at sent
        rw [Option.bind_some, noReading, Option.toList_none, List.append_nil] at read
        exact numbered.silent sent read (Or.inl rfl) rfl
      | start | date => exact numbered.date (sent.trans (List.append_nil _)) read rfl rfl rfl
      | send => exact numbered.send sent (read.trans (List.append_nil _)) rfl rfl
      | final | nameless | refused | deny =>
        exact numbered.silent (sent.trans (List.append_nil _)) (read.trans (List.append_nil _))
          (Or.inr rfl) rfl
      | grant =>
        exact numbered.silent (sent.trans (List.append_nil _)) (read.trans (List.append_nil _))
          (Or.inl rfl) rfl

end Numbered

/-! ## Runs -/

namespace World

/-- In every run a session keeps order, and its nonces are in order. -/
theorem Run.orderly {tableId : UInt32} (run : Run settings (opened tableId) log world) :
    ∃ holder, Orderly settings log world holder ∧
      (Timely log → Numbered log world.session.nonces (Holder.stage holder)) := by
  induction run with
  | refl => exact ⟨none, .opened settings tableId, fun _ => .empty⟩
  | snoc _ next hypothesis =>
    rcases hypothesis with ⟨holder, orderly, numbered⟩
    rcases orderly.step next with ⟨later, orderlyThen, passes⟩
    exact ⟨later, orderlyThen, fun timely =>
      (numbered timely.of_snoc).passes timely.of_snoc passes⟩

end World

end Holdem
