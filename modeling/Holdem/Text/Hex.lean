/-!
# Hexadecimal text

Bytes are written as two lower-case digits each and read in either letter case.
-/

namespace Holdem.Text

def hexDigit (value : Nat) : Char :=
  if value < 10 then Char.ofNat (48 + value) else Char.ofNat (87 + value)

/-- The value of a hexadecimal digit in either letter case. -/
def hexValue? (c : Char) : Option Nat :=
  if '0' ≤ c ∧ c ≤ '9' then some (c.toNat - 48)
  else if 'a' ≤ c ∧ c ≤ 'f' then some (c.toNat - 87)
  else if 'A' ≤ c ∧ c ≤ 'F' then some (c.toNat - 55)
  else none

def hexDigits (bytes : List UInt8) : List Char :=
  bytes.flatMap fun byte => [hexDigit (byte.toNat / 16), hexDigit (byte.toNat % 16)]

def toHex (bytes : List UInt8) : String :=
  String.ofList (hexDigits bytes)

/-- Reads pairs of digits; a half pair or another character refuses the whole. -/
def hexBytes? : List Char → Option (List UInt8)
  | [] => some []
  | [_] => none
  | high :: low :: rest => do
    let upper ← hexValue? high
    let lower ← hexValue? low
    let bytes ← hexBytes? rest
    some (UInt8.ofNat (16 * upper + lower) :: bytes)

def ofHex? (text : String) : Option (List UInt8) :=
  hexBytes? text.toList

end Holdem.Text
