import Holdem.Procedure

/-!
# Submitting a contract call

Build, sign, submit, confirm. The first step that fails ends the submission. Once the transaction is
submitted its status is asked for until it is final or the attempts are used up; a question that
itself fails counts as an attempt, and running out of attempts is never taken for success.
-/

namespace Holdem

namespace LedgerAccess

variable {σ : Type}

/-- Watches a transaction for the attempts that are left. -/
def confirm (access : LedgerAccess) (hash : String) : Nat → Procedure σ (Except LedgerFault String)
  | 0 => .finish (.error (.timeout hash access.watch.attempts))
  | left + 1 =>
    .ask (.ledger (.status hash)) fun
      | .ok .success => .finish (.ok hash)
      | .ok (.failed reason) => .finish (.error (.rejected hash reason))
      | .ok .pending | .error _ =>
        if left = 0 then .finish (.error (.timeout hash access.watch.attempts))
        else .ask (.wait access.watch.delay) fun _ => access.confirm hash left

def awaitConfirmation (access : LedgerAccess) (hash : String) :
    Procedure σ (Except LedgerFault String) :=
  access.confirm hash access.watch.attempts

/-- Builds, signs and submits an invocation paid for by `source`, and watches it to its end. -/
def submit (access : LedgerAccess) (source : Address) (invocation : Invocation) :
    Procedure σ (Except LedgerFault String) :=
  .ask (.ledger (.build source invocation)) fun
    | .error fault => .finish (.error fault)
    | .ok envelope =>
      .ask (.signTransaction envelope access.networkPassphrase) fun
        | .error fault => .finish (.error (.wallet fault))
        | .ok signed =>
          .ask (.ledger (.submit signed)) fun
            | .error fault => .finish (.error fault)
            | .ok hash => access.awaitConfirmation hash

end LedgerAccess

end Holdem
