import Holdem.Text.Blank

/-!
# Decimal integers in text

An integer is written as ASCII digits after at most one sign. Any number of leading zeros is
allowed, a minus sign only where negative values exist, and nothing may stand before or after.

The digits are read from the left and the bound is checked at every digit, so a text with two faults
reports the one that comes first: `99999999999x` is too large for 32 bits before it is malformed.
-/

namespace Holdem.Text

/-- Why a text is not an integer of the wanted range. -/
inductive IntegerFault where
  | empty
  | invalidDigit
  | tooLarge
  | tooSmall
  deriving DecidableEq

def IntegerFault.message : IntegerFault → String
  | .empty => "cannot parse integer from empty string"
  | .invalidDigit => "invalid digit found in string"
  | .tooLarge => "number too large to fit in target type"
  | .tooSmall => "number too small to fit in target type"

def digit? (c : Char) : Option Nat :=
  if '0' ≤ c ∧ c ≤ '9' then some (c.toNat - 48) else none

/-- Reads digits on top of the value `value` of those already read. A value above `limit` is the
fault `excess`. -/
def magnitude (limit : Nat) (excess : IntegerFault) : List Char → Nat → Except IntegerFault Nat
  | [], value => .ok value
  | c :: rest, value =>
    match digit? c with
    | none => .error .invalidDigit
    | some digit =>
      if limit < 10 * value + digit then .error excess
      else magnitude limit excess rest (10 * value + digit)

def digits (limit : Nat) (excess : IntegerFault) : List Char → Except IntegerFault Nat
  | [] => .error .invalidDigit
  | c :: rest => magnitude limit excess (c :: rest) 0

/-- Reads an integer without negative values, at most `limit`. -/
def readNatural (limit : Nat) (text : String) : Except IntegerFault Nat :=
  match text.toList with
  | [] => .error .empty
  | '+' :: rest => digits limit .tooLarge rest
  | letters => digits limit .tooLarge letters

/-- Reads an integer between `-limit - 1` and `limit`. -/
def readInteger (limit : Nat) (text : String) : Except IntegerFault Int :=
  match text.toList with
  | [] => .error .empty
  | '+' :: rest => (digits limit .tooLarge rest).map Int.ofNat
  | '-' :: rest => (digits (limit + 1) .tooSmall rest).map fun value => -(value : Int)
  | letters => (digits limit .tooLarge letters).map Int.ofNat

def maxWord32 : Nat := 0xFFFFFFFF

def maxWord64 : Nat := 0xFFFFFFFFFFFFFFFF

/-- The largest chip amount a contract can hold: amounts are 128-bit integers. -/
def maxAmount : Nat := 0x7FFFFFFFFFFFFFFFFFFFFFFFFFFFFFFF

def count32? (text : String) : Option Nat :=
  (readNatural maxWord32 text).toOption

def count64? (text : String) : Option Nat :=
  (readNatural maxWord64 text).toOption

def amount? (text : String) : Option Int :=
  (readInteger maxAmount text).toOption

end Holdem.Text
