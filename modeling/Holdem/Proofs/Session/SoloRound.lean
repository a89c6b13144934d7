import Holdem.Proofs.Session.Operation
import Holdem.Proofs.Session.Settlement
import Holdem.Proofs.Session.Undivided
import Holdem.Proofs.Table.Level

/-!
# Rounds of a solo hand

A solo bet is answered within the same action, and the simulated opponent only folds, checks or
calls. At a level table that settles the hand or leaves the round closed, so the action always goes
on to the next street or the showdown.

A table rests at every moment at which somebody else can have a turn. Between the hero's bet and the
reply it does not, which is why the discipline of resting tables is upheld rather than kept: the
reply comes at once. Where a bet is accepted or a street is asked for, the table is not settled, so
it is level, and the polls that come in until the action has ended leave it level.
-/

namespace Holdem

namespace Settings

/-! ## What a bet and its reply come to -/

variable {settings : Settings} {table acted : Table} {action : Action} {opponent : Address}
  {moved : Chips}

end Settings

/-! ## The discipline of resting tables -/

section Jobs

variable {settings : Settings}

end Jobs

/-! ## Runs -/

namespace World

variable {settings : Settings} {tableId : UInt32} {log : List Event} {world : World}

end World

/-! ## A bet that is called -/

/-- The easy opponent replies, with a strong hand each time. -/
def Answers.calling : Answers
  | .reply table address => (Opponent.ofDifficulty .easy).respond .wrapping table address ⟨0.9, 0⟩
  | request => Answers.granting "" request

namespace World

/-- A hand is dealt and the hero bets. -/
def called : List Event × World :=
  scheduled solitary 7 (Move.alone (.user (.dispatch (.start []))) 0 15 .calling ++
    Move.alone (.user (.dispatch (.bet (.bet 100)))) 1 20 .calling)

end World

end Holdem
