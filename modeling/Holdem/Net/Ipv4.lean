import Holdem.Text.Hex

/-!
# Addresses of four bytes

An address is given as one to four numbers with dots between them. Each number but the last is a
byte, and the last fills the bytes that are left, so `127.1` is `127.0.0.1`. The normal form has
four decimal numbers.
-/

namespace Holdem

structure Ipv4 where
  value : UInt32
  deriving DecidableEq

namespace Ipv4

/-- The base of a number and its digits: `0x` starts a hexadecimal one, any other zero before a
digit an octal one. -/
def baseAndDigits : List Char → Nat × List Char
  | '0' :: 'x' :: rest | '0' :: 'X' :: rest => (16, rest)
  | '0' :: c :: rest => (8, c :: rest)
  | letters => (10, letters)

/-- Reads digits on top of a value. -/
def readDigits? (base : Nat) : List Char → Nat → Option Nat
  | [], value => some value
  | c :: rest, value => do
    let digit ← Text.hexValue? c
    if digit < base then readDigits? base rest (base * value + digit) else none

/-- Reads a number. One of which only the start is there is zero. -/
def readNumber? (letters : List Char) : Option Nat :=
  if letters.isEmpty then none
  else
    let (base, digits) := baseAndDigits letters
    readDigits? base digits 0

/-- The parts between the dots of a name, of which one at the end does not count. -/
def parts (letters : List Char) : List (List Char) :=
  let parts := letters.splitOnP (· = '.')
  if 1 < parts.length && parts.getLast? = some [] then parts.dropLast else parts

/-- Whether a name can only be an address: its last part is a number. A part of decimal digits is
one even where it has no value, as `09`. -/
def endsInNumber (letters : List Char) : Bool :=
  (parts letters).getLast?.any fun last =>
    (!last.isEmpty && last.all Char.isDigit) || (readNumber? last).isSome

def read? (letters : List Char) : Option Ipv4 := do
  let numbers ← (parts letters).mapM readNumber?
  let last ← numbers.getLast?
  let first := numbers.dropLast
  guard (first.length < 4 && first.all (· < 256) && last < 1 <<< (8 * (4 - first.length)))
  let value := first.foldl (fun value number => 256 * value + number) 0
  some ⟨UInt32.ofNat (value <<< (8 * (4 - first.length)) + last)⟩

def bytes (address : Ipv4) : List Nat :=
  let value := address.value.toNat
  [value >>> 24, (value >>> 16) % 256, (value >>> 8) % 256, value % 256]

def text (address : Ipv4) : String :=
  ".".intercalate (address.bytes.map toString)

end Ipv4

end Holdem
