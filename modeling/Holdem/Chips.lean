/-!
# Chips

Amounts of chips are signed words of 128 bits. Nothing checks the sum of two amounts, and a sum that
no word holds comes round from the other end. `Arithmetic` says how sums are kept: a program wraps
them, which is no different from exact sums as long as the amounts stay small.
-/

namespace Holdem

/-- An amount of chips, in stroops. -/
abbrev Chips := Int

/-- How sums and differences of amounts are kept. -/
inductive Arithmetic where
  /-- As they are. -/
  | exact
  /-- As words of 128 bits, without the bits that do not fit. -/
  | wrapping
  deriving DecidableEq

/-- What is kept of a sum or a difference. -/
def Arithmetic.wrap : Arithmetic → Int → Chips
  | .exact, sum => sum
  | .wrapping, sum => (BitVec.ofInt 128 sum).toInt

end Holdem
