import Holdem.Net.HostName.Mapping
import Holdem.Text.Direction
import Holdem.Text.Joining
import Holdem.Text.Punycode

/-!
# Host names

A host name consists of labels with dots between them. It may be given in any script and is sent in
ASCII: its characters are replaced by those they stand for, the whole is composed, and each label
that is not in ASCII is written in the form that starts with `xn--`. A label that is given in this
form has to be one that this library would write.
-/

namespace Holdem.HostName

/-- A label of a name: as it is sent, and as it is read. -/
structure Label where
  sent : List Char
  shown : List Char
  deriving DecidableEq

namespace Label

/-- How a label starts that stands for one in other characters. -/
def foreignStart : List Char := "xn--".toList

/-- Whether a label can be sent in its foreign form: it does not start with a mark, and every joiner
in it is of use. -/
def isSound (shown : List Char) : Bool :=
  !(shown.head?.any Text.isMark) && Text.joinersFit [] shown

/-- Whether characters are as the mapping leaves them. -/
def isSettled (shown : List Char) : Bool :=
  (shown.all fun c => mapped? c = some [c] && !isReserved c) && Text.composed shown = shown

/-- Reads a label of a mapped name. -/
def read? (letters : List Char) : Option Label :=
  if foreignStart.isPrefixOf letters then do
    let shown ← Text.Punycode.decode? (letters.drop foreignStart.length)
    guard (shown.any (0x80 ≤ ·.toNat) && isSettled shown && isSound shown)
    some { sent := letters, shown }
  else if letters.all (·.toNat < 0x80) then some { sent := letters, shown := letters }
  else do
    guard (isSound letters)
    some { sent := foreignStart ++ Text.Punycode.encode letters, shown := letters }

end Label

/-- The name as it is sent. If a part of it runs from right to left, every label has to keep to one
direction. -/
def sent? (letters : List Char) : Option String := do
  let mapped ← letters.mapM mapped?
  let name := Text.composed mapped.flatten
  guard (!name.any isReserved)
  let labels ← (name.splitOnP (· = '.')).mapM Label.read?
  guard (!(labels.any fun label => Text.hasTurn label.shown) ||
    labels.all fun label => Text.isOneWay label.shown)
  some (".".intercalate (labels.map fun label => String.ofList label.sent))

end Holdem.HostName
