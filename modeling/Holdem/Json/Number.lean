import Holdem.Text.Integer

/-!
# JSON numerals

A numeral is kept as it was written: its sign, the digits before and after the point and the
exponent. What it is worth depends on who reads it. A chip amount is an integer written without
point or exponent, of any size (`literal?`). A general value holds such an integer exactly only
within 64 bits and treats everything else as a double (`word?`, `double?`): minus zero, a fraction,
an exponent and a longer integer are therefore no integers there.
-/

namespace Holdem

structure Numeral where
  /-- Whether a minus sign stands in front. -/
  negative : Bool
  /-- The digits before the point, without leading zeros. -/
  whole : List Nat
  /-- The digits after the point, if there is one. -/
  fraction : Option (List Nat)
  /-- The exponent, if there is one. -/
  exponent : Option Int
  deriving DecidableEq

namespace Numeral

def valueOf (digits : List Nat) : Nat :=
  digits.foldl (fun value digit => 10 * value + digit) 0

def digitsOf (value : Nat) : List Nat :=
  (toString value).toList.map fun c => c.toNat - 48

def ofInt (value : Int) : Numeral :=
  ⟨value < 0, digitsOf value.natAbs, none, none⟩

/-- The exact integer of a numeral without point and exponent. -/
def literal? (numeral : Numeral) : Option Int :=
  match numeral.fraction, numeral.exponent with
  | none, none =>
    let value : Int := valueOf numeral.whole
    some (if numeral.negative then -value else value)
  | _, _ => none

/-- The integer that a 64-bit reader holds exactly: minus zero and longer integers are doubles. -/
def word? (numeral : Numeral) : Option Int := do
  let value ← numeral.literal?
  if numeral.negative then
    if value < 0 ∧ -0x8000000000000000 ≤ value then some value else none
  else
    if value ≤ Text.maxWord64 then some value else none

/-- Appends digits to a 64-bit significand as long as they fit, and gives the digits left over. -/
def absorb : Nat → List Nat → Nat × List Nat
  | significand, [] => (significand, [])
  | significand, digit :: rest =>
    if Text.maxWord64 < 10 * significand + digit then (significand, digit :: rest)
    else absorb (10 * significand + digit) rest

/-- The power of ten `10 ^ exponent` as a double. -/
def powerOfTen (exponent : Nat) : Float :=
  Float.ofScientific 1 false exponent

/-- Scales a double down by steps of `10 ^ 308`, then by the power of ten that is left. -/
def scaleDown : Nat → Float → Nat → Float
  | 0, value, exponent => value / powerOfTen exponent
  | steps + 1, value, exponent =>
    if exponent ≤ 308 then value / powerOfTen exponent
    else scaleDown steps (value / powerOfTen 308) (exponent - 308)

/-- Scales a double by a power of ten; a result beyond the largest double is refused. -/
def scale? (value : Float) (exponent : Int) : Option Float :=
  match exponent with
  | .ofNat up =>
    if up ≤ 308 then
      let scaled := value * powerOfTen up
      if scaled.isInf then none else some scaled
    else if value == 0.0 then some value
    else none
  | .negSucc down => some (scaleDown 4 value (min (down + 1) 1232))

/-- The double of a numeral, or nothing when it is out of range.

As many digits as fit 64 bits make the significand; those left before the point only count as zeros
and those left after it are dropped. -/
def double? (numeral : Numeral) : Option Float := do
  let (head, zeros) := absorb 0 numeral.whole
  let fraction := numeral.fraction.getD []
  let (significand, dropped) := absorb head fraction
  let exponent : Int := zeros.length - (fraction.length - dropped.length : Nat)
  let value ← scale? significand.toUInt64.toFloat (exponent + numeral.exponent.getD 0)
  some (if numeral.negative then -value else value)

/-- Whether a general value can hold the numeral. -/
def inRange (numeral : Numeral) : Bool :=
  numeral.word?.isSome || numeral.double?.isSome

end Numeral

end Holdem
