import Holdem.Ledger.Submission
import Mathlib.Data.Nat.Find

/-!
# The course of a submission

A submission moves real funds, so what it asks and what it concludes has to be known exactly. It is
run here against a respondent who answers in view of everything that was asked before. That covers
every sequence of answers, and everything that is asked is kept.

Up to the submission itself the first failure ends it. From then on the transaction is asked about
in rounds of a question and a pause. The first conclusive answer is the last to be asked for, and
after the last attempt there is no pause.
-/

namespace Holdem

/-- Someone who answers requests, in view of all that was asked before. -/
abbrev Respondent : Type := List Request → (request : Request) → request.Answer

/-- Answers a request, and keeps that it was asked. -/
def Respondent.respond {σ : Type} (respondent : Respondent) (request : Request) :
    StateT σ (StateM (List Request)) request.Answer :=
  fun state asked => ((respondent asked request, state), asked ++ [request])

namespace Procedure

variable {σ α : Type} (respondent : Respondent) (state : σ) (asked : List Request)

/-- Runs a procedure with a respondent, after what was asked before: what it comes to, and all that
was asked by then. -/
def runWith (procedure : Procedure σ α) : (Option α × σ) × List Request :=
  procedure.run respondent.respond state asked

@[simp] theorem runWith_finish (result : α) :
    (finish result : Procedure σ α).runWith respondent state asked =
      ((some result, state), asked) := rfl

@[simp] theorem runWith_ask (request : Request) (resume : request.Answer → Procedure σ α) :
    (ask request resume).runWith respondent state asked =
      (resume (respondent asked request)).runWith respondent state (asked ++ [request]) := rfl

end Procedure

/-! ## Watching -/

/-- Whether an answer says how a transaction ended. A question that fails is as good as pending. -/
def isConclusive : Except LedgerFault TransactionStatus → Bool
  | .ok .success | .ok (.failed _) => true
  | .ok .pending | .error _ => false

/-- Questions about a transaction, with a pause after each. -/
def rounds (delay : Nat) (hash : String) (count : Nat) : List Request :=
  (List.replicate count [.ledger (.status hash), .wait delay]).flatten

theorem rounds_succ (delay : Nat) (hash : String) (count : Nat) :
    rounds delay hash (count + 1) =
      [.ledger (.status hash), .wait delay] ++ rounds delay hash count := rfl

section

variable (respondent : Respondent) (delay : Nat) (hash : String) (before : List Request)

/-- The answer about a transaction after so many rounds. -/
def answerAfter (count : Nat) : Except LedgerFault TransactionStatus :=
  respondent (before ++ rounds delay hash count) (.ledger (.status hash))

/-- What is asked in watching a transaction with so many attempts, and what is concluded. -/
inductive Watching (attempts : Nat) : List Request → Except LedgerFault String → Prop
  | confirmed {count : Nat} (within : count < attempts)
      (silent : ∀ earlier < count,
        isConclusive (answerAfter respondent delay hash before earlier) = false)
      (succeeded : answerAfter respondent delay hash before count = .ok .success) :
      Watching attempts (rounds delay hash count ++ [.ledger (.status hash)]) (.ok hash)
  | rejected {count : Nat} {reason : String} (within : count < attempts)
      (silent : ∀ earlier < count,
        isConclusive (answerAfter respondent delay hash before earlier) = false)
      (failed : answerAfter respondent delay hash before count = .ok (.failed reason)) :
      Watching attempts (rounds delay hash count ++ [.ledger (.status hash)])
        (.error (.rejected hash reason))
  /-- No answer is conclusive, and the attempts are used up. -/
  | unconfirmed
      (silent : ∀ earlier < attempts,
        isConclusive (answerAfter respondent delay hash before earlier) = false) :
      Watching attempts (rounds delay hash (attempts - 1) ++ [.ledger (.status hash)])
        (.error (.timeout hash attempts))

end

section

variable {respondent : Respondent} {delay : Nat} {hash : String} {before asked : List Request}
  {attempts : Nat} {result : Except LedgerFault String}

theorem answerAfter_zero :
    answerAfter respondent delay hash before 0 = respondent before (.ledger (.status hash)) := by
  simp [answerAfter, rounds]

theorem answerAfter_succ (count : Nat) :
    answerAfter respondent delay hash before (count + 1) =
      answerAfter respondent delay hash
        (before ++ [.ledger (.status hash), .wait delay]) count := by
  rw [answerAfter, answerAfter, rounds_succ, List.append_assoc]

/-- However a transaction is answered about, watching it comes to something. -/
theorem exists_watching :
    ∃ asked result, Watching respondent delay hash before attempts asked result := by
  by_cases ends : ∃ count, count < attempts ∧
      isConclusive (answerAfter respondent delay hash before count) = true
  · rcases Nat.find_spec ends with ⟨within, conclusive⟩
    have silent : ∀ earlier < Nat.find ends,
        isConclusive (answerAfter respondent delay hash before earlier) = false := by
      intro earlier sooner
      have none := Nat.find_min ends sooner
      rw [not_and, Bool.not_eq_true] at none
      exact none (Nat.lt_trans sooner within)
    rcases answered : answerAfter respondent delay hash before (Nat.find ends) with
      fault | (_ | _ | reason)
    · rw [answered] at conclusive
      exact absurd conclusive Bool.false_ne_true
    · rw [answered] at conclusive
      exact absurd conclusive Bool.false_ne_true
    · exact ⟨_, _, .confirmed within silent answered⟩
    · exact ⟨_, _, .rejected within silent answered⟩
  · refine ⟨_, _, .unconfirmed ?_⟩
    intro earlier within
    rw [← Bool.not_eq_true]
    exact fun conclusive => ends ⟨earlier, within, conclusive⟩

/-- A hash is concluded only from an answer that the transaction succeeded. -/
theorem Watching.succeeded {found : String}
    (watching : Watching respondent delay hash before attempts asked (.ok found)) :
    ∃ earlier, before ++ asked = earlier ++ [.ledger (.status found)] ∧
      respondent earlier (.ledger (.status found)) = .ok .success := by
  cases watching with
  | confirmed within silent succeeded => exact ⟨_, (List.append_assoc ..).symm, succeeded⟩

end

namespace LedgerAccess

variable {σ : Type} {access : LedgerAccess} {respondent : Respondent} {hash : String}
  {before asked : List Request} {result : Except LedgerFault String}

/-- An answer that is not conclusive costs an attempt and a pause, unless it was the last. -/
theorem runWith_confirm_succ (state : σ) (left : Nat)
    (silent : isConclusive (respondent before (.ledger (.status hash))) = false) :
    (access.confirm hash (left + 1)).runWith respondent state before =
      if left = 0 then
        ((some (.error (.timeout hash access.watch.attempts)), state),
          before ++ [.ledger (.status hash)])
      else
        (access.confirm hash left).runWith respondent state
          (before ++ [.ledger (.status hash), .wait access.watch.delay]) := by
  simp only [confirm, Procedure.runWith_ask]
  generalize respondent before (.ledger (.status hash)) = answer at silent
  have again : Procedure.runWith respondent state (before ++ [.ledger (.status hash)])
      (if left = 0 then .finish (.error (.timeout hash access.watch.attempts))
        else .ask (.wait access.watch.delay) fun _ => access.confirm hash left) =
      if left = 0 then
        ((some (.error (.timeout hash access.watch.attempts)), state),
          before ++ [.ledger (.status hash)])
      else
        (access.confirm hash left).runWith respondent state
          (before ++ [.ledger (.status hash), .wait access.watch.delay]) := by
    split
    · rfl
    · rw [Procedure.runWith_ask, List.append_assoc]
      rfl
  rcases answer with fault | (_ | _ | reason)
  · exact again
  · exact again
  · exact absurd silent (by simp [isConclusive])
  · exact absurd silent (by simp [isConclusive])

/-- As long as no answer is conclusive, rounds are gone through while attempts are left. -/
theorem runWith_confirm_of_silent (state : σ) (left count : Nat)
    (silent : ∀ earlier < count,
      isConclusive (answerAfter respondent access.watch.delay hash before earlier) = false) :
    (access.confirm hash (left + 1 + count)).runWith respondent state before =
      (access.confirm hash (left + 1)).runWith respondent state
        (before ++ rounds access.watch.delay hash count) := by
  induction count generalizing before with
  | zero => simp [rounds]
  | succ count hypothesis =>
    have first : isConclusive (respondent before (.ledger (.status hash))) = false := by
      have first := silent 0 (Nat.succ_pos count)
      rwa [answerAfter_zero] at first
    have others : ∀ earlier < count, isConclusive (answerAfter respondent access.watch.delay hash
        (before ++ [.ledger (.status hash), .wait access.watch.delay]) earlier) = false := by
      intro earlier within
      rw [← answerAfter_succ]
      exact silent (earlier + 1) (Nat.succ_lt_succ within)
    rw [← Nat.add_assoc, runWith_confirm_succ state _ first, if_neg (by omega), hypothesis others,
      List.append_assoc, ← rounds_succ]

/-- Watching is what is done to await the confirmation of a transaction. -/
theorem runWith_awaitConfirmation (state : σ)
    (watching : Watching respondent access.watch.delay hash before access.watch.attempts asked
      result) :
    (access.awaitConfirmation hash).runWith respondent state before =
      ((some result, state), before ++ asked) := by
  -- the attempts are those in the silent rounds, the one that ends the watch, and the rest
  have go : ∀ count < access.watch.attempts, ∃ left, access.watch.attempts = left + 1 + count :=
    fun count within => ⟨access.watch.attempts - 1 - count, by omega⟩
  rw [awaitConfirmation]
  cases watching with
  | @confirmed count within silent succeeded =>
    rcases go count within with ⟨left, attempts⟩
    rw [answerAfter] at succeeded
    rw [attempts, runWith_confirm_of_silent state left count silent]
    simp [confirm, succeeded]
  | @rejected count reason within silent failed =>
    rcases go count within with ⟨left, attempts⟩
    rw [answerAfter] at failed
    rw [attempts, runWith_confirm_of_silent state left count silent]
    simp [confirm, failed]
  | unconfirmed silent =>
    have positive := access.watch.attempts_pos
    have earlier : ∀ earlier < access.watch.attempts - 1,
        isConclusive (answerAfter respondent access.watch.delay hash before earlier) = false :=
      fun earlier within => silent earlier (by omega)
    have attempts : 0 + 1 + (access.watch.attempts - 1) = access.watch.attempts := by omega
    have run := runWith_confirm_of_silent state 0 _ earlier
    rw [attempts] at run
    rw [run, runWith_confirm_succ state 0 (silent _ (by omega)), if_pos rfl, List.append_assoc]

end LedgerAccess

/-! ## Submitting -/

/-- What a submission asks in all, and its result. Each request follows upon what was asked before.
-/
inductive Submission (access : LedgerAccess) (source : Address) (invocation : Invocation)
    (respondent : Respondent) (attempts delay : Nat) :
    List Request → Except LedgerFault String → Prop
  | unbuilt {fault : LedgerFault}
      (built : respondent [] (.ledger (.build source invocation)) = .error fault) :
      Submission access source invocation respondent attempts delay
        [.ledger (.build source invocation)] (.error fault)
  | unsigned {envelope : String} {fault : WalletFault}
      (built : respondent [] (.ledger (.build source invocation)) = .ok envelope)
      (signed : respondent [.ledger (.build source invocation)]
        (.signTransaction envelope access.networkPassphrase) = .error fault) :
      Submission access source invocation respondent attempts delay
        [.ledger (.build source invocation), .signTransaction envelope access.networkPassphrase]
        (.error (.wallet fault))
  | unsubmitted {envelope signature : String} {fault : LedgerFault}
      (built : respondent [] (.ledger (.build source invocation)) = .ok envelope)
      (signed : respondent [.ledger (.build source invocation)]
        (.signTransaction envelope access.networkPassphrase) = .ok signature)
      (submitted : respondent
        [.ledger (.build source invocation), .signTransaction envelope access.networkPassphrase]
        (.ledger (.submit signature)) = .error fault) :
      Submission access source invocation respondent attempts delay
        [.ledger (.build source invocation), .signTransaction envelope access.networkPassphrase,
          .ledger (.submit signature)]
        (.error fault)
  | watched {envelope signature hash : String} {asked : List Request}
      {result : Except LedgerFault String}
      (built : respondent [] (.ledger (.build source invocation)) = .ok envelope)
      (signed : respondent [.ledger (.build source invocation)]
        (.signTransaction envelope access.networkPassphrase) = .ok signature)
      (submitted : respondent
        [.ledger (.build source invocation), .signTransaction envelope access.networkPassphrase]
        (.ledger (.submit signature)) = .ok hash)
      (watching : Watching respondent delay hash
        [.ledger (.build source invocation), .signTransaction envelope access.networkPassphrase,
          .ledger (.submit signature)] attempts asked result) :
      Submission access source invocation respondent attempts delay
        ([.ledger (.build source invocation), .signTransaction envelope access.networkPassphrase,
          .ledger (.submit signature)] ++ asked)
        result

namespace LedgerAccess

variable {σ : Type} {access : LedgerAccess} {source : Address} {invocation : Invocation}
  {respondent : Respondent} {asked : List Request} {result : Except LedgerFault String}

theorem exists_submission (access : LedgerAccess) (source : Address) (invocation : Invocation)
    (respondent : Respondent) :
    ∃ asked result, Submission access source invocation respondent access.watch.attempts
      access.watch.delay asked result := by
  rcases built : respondent [] (.ledger (.build source invocation)) with fault | envelope
  · exact ⟨_, _, .unbuilt built⟩
  rcases signed : respondent [.ledger (.build source invocation)]
    (.signTransaction envelope access.networkPassphrase) with fault | signature
  · exact ⟨_, _, .unsigned built signed⟩
  rcases submitted : respondent
    [.ledger (.build source invocation), .signTransaction envelope access.networkPassphrase]
    (.ledger (.submit signature)) with fault | hash
  · exact ⟨_, _, .unsubmitted built signed submitted⟩
  rcases exists_watching with ⟨asked, result, watching⟩
  exact ⟨_, _, .watched built signed submitted watching⟩

theorem runWith_submit (state : σ)
    (submission : Submission access source invocation respondent access.watch.attempts
      access.watch.delay asked result) :
    (access.submit source invocation).runWith respondent state [] =
      ((some result, state), asked) := by
  cases submission with
  | unbuilt built => simp [submit, built]
  | unsigned built signed => simp [submit, built, signed]
  | unsubmitted built signed submitted => simp [submit, built, signed, submitted]
  | watched built signed submitted watching =>
    have awaited := runWith_awaitConfirmation state watching
    simp [submit, built, signed, submitted, awaited]

/-- However it is answered, a submission that is watched for a number of attempts completes. It has
asked what a submission asks, and nothing else, with the result that then follows: a hash follows
only if the last thing asked was how its transaction stands, and the answer that it succeeded. -/
theorem runWith_submit_iff (network : String) (attempts delay : Nat) (source : Address)
    (invocation : Invocation) (respondent : Respondent) (state : σ) :
    let access : LedgerAccess :=
      { networkPassphrase := network, watch := .ofAttempts attempts delay }
    ∃ asked result,
      (access.submit source invocation).runWith respondent state [] =
        ((some result, state), asked) ∧
      (∀ askedThen conclusion,
        Submission access source invocation respondent (max 1 attempts) delay askedThen conclusion ↔
          askedThen = asked ∧ conclusion = result) ∧
      ∀ hash, result = .ok hash → ∃ earlier, asked = earlier ++ [.ledger (.status hash)] ∧
        respondent earlier (.ledger (.status hash)) = .ok .success := by
  intro access
  rcases access.exists_submission source invocation respondent with ⟨asked, result, submission⟩
  have run := runWith_submit state submission
  refine ⟨asked, result, run, ?_, ?_⟩
  · intro askedThen conclusion
    constructor
    · intro other
      have same := (runWith_submit state other).symm.trans run
      simp only [Prod.mk.injEq, Option.some.injEq, and_true] at same
      exact ⟨same.2, same.1⟩
    · rintro ⟨rfl, rfl⟩
      exact submission
  · rintro hash rfl
    cases submission with
    | watched _ _ _ watching => exact watching.succeeded

end LedgerAccess

end Holdem
