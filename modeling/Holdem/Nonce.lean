import Holdem.Text.Integer

/-!
# Nonces

Every signed request carries a number above all earlier ones of its session. It is the clock reading
in microseconds, or one more than the last number when the clock has not passed it; beyond the
largest 64-bit number there is nothing to count to.
-/

namespace Holdem

/-- The counter of a session: the last number issued, zero before the first. -/
structure NonceCounter where
  last : Nat := 0
  deriving DecidableEq

namespace NonceCounter

/-- The number after the last one, held at the largest 64-bit number. -/
def successor (counter : NonceCounter) : Nat :=
  min (counter.last + 1) Text.maxWord64

/-- The next number for a clock reading. -/
def next (counter : NonceCounter) (now : Nat) : Nat :=
  max now counter.successor

/-- The counter after it has issued a number. -/
def advance (counter : NonceCounter) (now : Nat) : NonceCounter :=
  ⟨counter.next now⟩

def issue : NonceCounter → List Nat → List Nat
  | _, [] => []
  | counter, now :: later => counter.next now :: (counter.advance now).issue later

end NonceCounter

end Holdem
