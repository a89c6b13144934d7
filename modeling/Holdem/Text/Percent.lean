import Holdem.Text.Hex

/-!
# Encoded bytes in text

A character that may not stand for itself is written as its bytes, each a percent sign and two
digits. Reading undoes this for every such triple and takes all other characters as they are.
-/

namespace Holdem.Text

def bytesOf (c : Char) : List UInt8 := c.toString.toUTF8.toList

def capitalHexDigit (value : Nat) : Char :=
  if value < 10 then Char.ofNat (48 + value) else Char.ofNat (55 + value)

/-- A byte as a percent sign and two digits. -/
def percentByte (byte : UInt8) : List Char :=
  ['%', capitalHexDigit (byte.toNat / 16), capitalHexDigit (byte.toNat % 16)]

/-- Encodes control characters, characters outside ASCII and those in `reserved`. -/
def percentEncode (reserved : List Char) (letters : List Char) : String :=
  String.ofList <| letters.flatMap fun c =>
    if c.toNat < 0x20 || 0x7E < c.toNat || reserved.contains c then
      (bytesOf c).flatMap percentByte
    else [c]

/-- The bytes of a text in which bytes may be encoded. -/
def percentBytes : List Char → List UInt8
  | [] => []
  | '%' :: high :: low :: rest =>
    match hexValue? high, hexValue? low with
    | some upper, some lower => UInt8.ofNat (16 * upper + lower) :: percentBytes rest
    | _, _ => bytesOf '%' ++ percentBytes (high :: low :: rest)
  | c :: rest => bytesOf c ++ percentBytes rest

/-- Decodes a text, if its bytes are those of one. -/
def percentDecode? (letters : List Char) : Option String :=
  String.fromUTF8? (ByteArray.mk (percentBytes letters).toArray)

end Holdem.Text
