import Holdem.Net.HostName.MappingTable
import Holdem.Text.CharTable

/-!
# The mapping of host names

What a character of a name stands for: a small letter for its capital, a plain letter or digit for
one of special style or width, a dot for the full stops of other scripts, nothing for a character
that cannot be seen.
-/

namespace Holdem.HostName

/-- Characters outside ASCII that no name contains. -/
def forbidden : List Text.CodeRange := Text.CodeRange.table forbiddenRows

/-- Characters that are left out. -/
def ignored : List Text.CodeRange := Text.CodeRange.table ignoredRows

/-- Ranges that stand for other ranges. -/
def shifts : List Text.CodeShift := Text.CodeShift.table shiftRows

/-- The other characters that stand for something else. -/
def blocks : List Text.CodeBlock := Text.CodeBlock.table blockRows

/-- What a character stands for; a forbidden one stands for nothing at all. -/
def mapped? (c : Char) : Option (List Char) :=
  if c.toNat < 0x80 then some [c.toLower]
  else if Text.inTable forbidden c then none
  else if Text.inTable ignored c then some []
  else
    match shifts.findSome? (·.image? c) with
    | some image => some [image]
    | none => some ((blocks.findSome? (·.image? c)).getD [c])

/-- The ASCII characters that cannot stand in a name: blanks, control characters, and those that
have a meaning in an address. -/
def isReserved (c : Char) : Bool :=
  c.toNat ≤ 0x20 || c.toNat = 0x7F || "%#/:<>?@[\\]^|".toList.contains c

end Holdem.HostName
