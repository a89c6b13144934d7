import Holdem.Coordinator.Call
import Holdem.Ledger.Basic

/-!
# Procedures

What the client does is written as a tree. A procedure changes the session's state in one piece, or
asks something of the outside and goes on with the answer, until it finishes. It cannot loop,
because a tree is finite on every path.

The state may change between a question and its answer, since polls are merged and other actions are
tried in the meantime. A change therefore never relies on what was read before a question: it is a
function of the state at its own moment. The two kinds of question that are answered without letting
anything else happen are marked by `Request.isImmediate`.
-/

namespace Holdem

structure ClockReading where
  /-- Microseconds since the epoch. -/
  micros : Nat
  /-- Seconds since the epoch. -/
  seconds : Int
  deriving DecidableEq

/-- What a procedure asks of the outside. -/
inductive Request where
  | coordinator (credentials : Option Credentials) (call : CoordinatorCall)
  | signMessage (message : String)
  | signTransaction (envelope : String) (networkPassphrase : String)
  | ledger (call : LedgerCall)
  /-- Let time pass, in milliseconds. -/
  | wait (milliseconds : Nat)
  | clock
  /-- The reply of a simulated player to a table. -/
  | reply (table : Table) (address : Address)

namespace Request

/-- The kind of answer to a request. -/
abbrev Answer : Request → Type
  | .coordinator _ call => Except CoordinatorFault call.Reply
  | .signMessage _ => Except WalletFault String
  | .signTransaction _ _ => Except WalletFault String
  | .ledger call => Except LedgerFault call.Reply
  | .wait _ => Unit
  | .clock => ClockReading
  | .reply _ _ => Action

/-- Whether nothing else can happen before the answer. -/
def isImmediate : Request → Bool
  | .clock | .reply _ _ => true
  | _ => false

end Request

/-- A procedure over a state, with its result. -/
inductive Procedure (σ α : Type) where
  | finish (result : α)
  /-- The next change has no meaning, and the procedure breaks off. -/
  | stuck
  /-- Changes the state, and goes on with the state before the change. -/
  | update (change : σ → σ) (resume : σ → Procedure σ α)
  /-- Asks a question, and goes on with the answer. -/
  | ask (request : Request) (resume : request.Answer → Procedure σ α)

namespace Procedure

variable {σ α β γ : Type}

def bind : Procedure σ α → (α → Procedure σ β) → Procedure σ β
  | .finish result, next => next result
  | .stuck, _ => .stuck
  | .update change resume, next => .update change fun state => (resume state).bind next
  | .ask request resume, next => .ask request fun answer => (resume answer).bind next

instance : Monad (Procedure σ) where
  pure := .finish
  bind := .bind

/-- Finishing changes nothing about what came before. -/
theorem bind_finish (procedure : Procedure σ α) : procedure.bind .finish = procedure := by
  induction procedure with
  | finish | stuck => rfl
  | update change resume hypothesis => simp only [bind, hypothesis]
  | ask request resume hypothesis => simp only [bind, hypothesis]

/-- Procedures run one after another group either way. -/
theorem bind_assoc (procedure : Procedure σ α) (next : α → Procedure σ β)
    (last : β → Procedure σ γ) :
    (procedure.bind next).bind last = procedure.bind fun result => (next result).bind last := by
  induction procedure with
  | finish | stuck => rfl
  | update change resume hypothesis => simp only [bind, hypothesis]
  | ask request resume hypothesis => simp only [bind, hypothesis]

def read : Procedure σ σ := .update id .finish

def modify (change : σ → σ) : Procedure σ Unit := .update change fun _ => .finish ()

/-- Changes the state and gives a result of the change; without one the procedure is stuck. -/
def step (change : σ → Option (σ × α)) : Procedure σ α :=
  .update (fun state => (change state).elim state Prod.fst) fun state =>
    match change state with
    | none => .stuck
    | some (_, result) => .finish result

def question (request : Request) : Procedure σ request.Answer := .ask request .finish

/-- Runs a procedure with someone who answers its questions, and who may change the state while
doing so. -/
def run {m : Type → Type} [Monad m] (answer : (request : Request) → StateT σ m request.Answer) :
    Procedure σ α → StateT σ m (Option α)
  | .finish result => pure (some result)
  | .stuck => pure none
  | .update change resume => do
    let state ← get
    set (change state)
    (resume state).run answer
  | .ask request resume => do
    let given ← answer request
    (resume given).run answer

end Procedure

end Holdem
