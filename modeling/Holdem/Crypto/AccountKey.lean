/-!
# Account keys in text

Public keys and secret seeds are written in base 32 with a version byte in front, which decides the
first letter, and a checksum behind. Letters are capitals, there is no padding, and bits that fill
up the last letter are zero, so every key has one spelling.
-/

namespace Holdem.Crypto

/-- The letters of base 32, in the order of their values. -/
def base32Letters : List Char := "ABCDEFGHIJKLMNOPQRSTUVWXYZ234567".toList

/-- The bits of a value, the highest first. -/
def bitsOf (count value : Nat) : List Bool :=
  (List.range count).reverse.map value.testBit

/-- The value of bits, the highest first. -/
def valueOfBits (bits : List Bool) : Nat :=
  bits.foldl (fun value bit => 2 * value + bit.toNat) 0

/-- Cuts a list into whole pieces of `size` elements and what is left over. -/
def wholeChunks (size : Nat) : Nat → List α → List (List α) × List α
  | 0, rest => ([], rest)
  | count + 1, elements =>
    if elements.length < size then ([], elements)
    else
      let (more, rest) := wholeChunks size count (elements.drop size)
      (elements.take size :: more, rest)

def toBase32 (bytes : List UInt8) : String :=
  let bits := bytes.flatMap fun byte => bitsOf 8 byte.toNat
  let (whole, rest) := wholeChunks 5 bits.length bits
  let last := if rest.isEmpty then [] else [rest ++ List.replicate (5 - rest.length) false]
  String.ofList ((whole ++ last).map fun piece => base32Letters.getD (valueOfBits piece) 'A')

/-- Reads base 32. Less than a letter's worth of bits may be left over, and they have to be zero. -/
def ofBase32? (text : String) : Option (List UInt8) := do
  let values ← text.toList.mapM fun c => base32Letters.findIdx? (· = c)
  let bits := values.flatMap (bitsOf 5)
  let (whole, rest) := wholeChunks 8 bits.length bits
  if rest.length < 5 && rest.all (! ·) then
    some (whole.map fun piece => UInt8.ofNat (valueOfBits piece))
  else none

/-- Takes one bit of a byte into the checksum. -/
def checksumShift (value : UInt16) : UInt16 :=
  if value < 0x8000 then 2 * value else 2 * value ^^^ 0x1021

/-- The checksum of bytes: the cyclic code with polynomial `x¹⁶ + x¹² + x⁵ + 1`. -/
def checksum (bytes : List UInt8) : UInt16 :=
  bytes.foldl
    (fun value byte =>
      (List.range 8).foldl (fun value _ => checksumShift value) (value ^^^ 256 * byte.toUInt16))
    0

/-- The two bytes of a checksum, the lower one first. -/
def checksumBytes (bytes : List UInt8) : List UInt8 :=
  let value := checksum bytes
  [value.toUInt8, (value / 256).toUInt8]

inductive KeyKind where
  | account
  | seed
  deriving DecidableEq

/-- The version byte of a kind; it makes accounts start with `G` and seeds with `S`. -/
def KeyKind.version : KeyKind → UInt8
  | .account => 48
  | .seed => 144

def KeyKind.write (kind : KeyKind) (key : List UInt8) : String :=
  let body := kind.version :: key
  toBase32 (body ++ checksumBytes body)

/-- Reads a key of a kind: version, 32 bytes and checksum have to be right. -/
def KeyKind.read? (kind : KeyKind) (text : String) : Option (List UInt8) := do
  let bytes ← ofBase32? text
  let body := bytes.take (bytes.length - 2)
  let key := body.drop 1
  if bytes.length = 35 && bytes.drop 33 = checksumBytes body && body.head? = some kind.version then
    some key
  else none

end Holdem.Crypto
