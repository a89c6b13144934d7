import Holdem.Text.Mark

/-!
# The direction of writing

Scripts run from left to right or from right to left. Where both meet in one name, each of its
labels has to keep to one direction, or a reader could not tell which character comes first:
`isOneWay` is that rule. The tables tell apart the characters that a name can contain.
-/

namespace Holdem.Text

/-- Letters of the scripts that run from right to left. -/
def rightToLeftRows : List String :=
  ["5BE 5C0 5C3 5C6 5D0-5F4 608 60B 60D 61B-64A 66D-66F 671-6D5 6E5-6E6 6EE-6EF 6FA-710 712-72F",
   "74D-7A5 7B1-7EA 7F4-7F5 7FA 7FE-815 81A 824 828 830-858 85E-88F 8A0-8C9 200F FB1D FB1F-FD3D",
   "FD50-FDCE FDF0-FDFC FE70-FEFC 10800-1091B 10920-10A00 10A10-10A35 10A40-10AE4 10AEB-10B35",
   "10B40-10D23 10D40-10D4F 10D6E-10D8F 10E80-10EA9 10EAD-10ED8 10F00-10F45 10F51-10F81",
   "10F86-10FF6 1E800-1E8CF 1E900-1E943 1E94B-1EEBB"]

/-- Digits outside ASCII that run as those within it. -/
def europeanDigitRows : List String :=
  ["6F0-6F9 102E1-102FB"]

/-- Digits of the Arabic kind. -/
def arabicDigitRows : List String :=
  ["660-669 66B-66C 10D30-10D39 10E60-10E7E"]

/-- Characters outside ASCII that take the direction of those around them. -/
def neutralRows : List String :=
  ["A1-D7 F7 2B9-2BA 2C2-2CF 2D2-2ED 2EF-2FF 375 3F6 58A-58F 606-607 609-60A 60C 60E-60F 66A 6DE",
   "6E9 7F6-7F9 9F2-9F3 9FB AF1 BF3-BFA C78-C7E E3F F3A-F3D 1390-1399 1400 169B-169C 17DB",
   "17F0-180A 1940-1945 19DE-19FF 200C-20C0 2104-214D 218A-2335 237B-2394 2396-2426 2440-26AB",
   "26AD-27FF 2900-2B95 2B97-2BFF 2CE5-2CEA 2CF9-2CFF 2E00-3004 3008-3020 3030 3037 303D-303F",
   "30A0 30FB 31C0-31E3 4DC0-4DFF A490-A4C6 A60D-A60F A673 A67E-A67F A700-A721 A788 A828-A82B",
   "A838-A839 A874-A877 AB6A-AB6B FD3E-FD4F FDCF-FDFF FE45-FE46 10101 10140-1018C 10190-101A0",
   "1091F 10B39-10B3F 11052-11065 11660-1166C 11FD5-11FF1 16FE2 1D1E9-1D241 1D245 1D300-1D356",
   "1E2FF 1EEF0-1F12F 1F16D-1F16F 1F1AD 1F260-1F6D7 1F6DC-1F776 1F77B-1F8B1 1F900-1FA53",
   "1FA60-1FA88 1FA90-1FABD 1FABF-1FAC5 1FACE-1FADB 1FAE0-1FAE8 1FAF0-1FBCA"]

/-- How a character behaves among others as to direction. -/
inductive Direction where
  | leftToRight
  | rightToLeft
  | europeanDigit
  | arabicDigit
  | neutral
  | mark
  deriving DecidableEq

namespace Direction

/-- The tables of the directions outside ASCII; what is in none of them runs from left to right. -/
def tables : List (Direction × List CodeRange) :=
  [(.mark, nonspacingMarks), (.rightToLeft, CodeRange.table rightToLeftRows),
    (.europeanDigit, CodeRange.table europeanDigitRows),
    (.arabicDigit, CodeRange.table arabicDigitRows), (.neutral, CodeRange.table neutralRows)]

def of (c : Char) : Direction :=
  if c.toNat < 0x80 then
    if c.isAlpha then .leftToRight else if c.isDigit then .europeanDigit else .neutral
  else ((tables.find? fun (_, ranges) => inTable ranges c).map (·.1)).getD .leftToRight

/-- Whether a text with such a character runs from right to left, or may. -/
def turns (direction : Direction) : Bool :=
  direction = .rightToLeft || direction = .arabicDigit

end Direction

/-- Whether a text has a character that runs from right to left. -/
def hasTurn (letters : List Char) : Bool :=
  letters.any fun c => (Direction.of c).turns

/-- Whether a text keeps to the direction of its first character. One from left to right contains
nothing that runs the other way and ends in a letter or digit; one from right to left has no letter
of the other kind, digits of one kind only, and ends in a letter or digit too. Marks at the end do
not count. -/
def isOneWay (letters : List Char) : Bool :=
  let directions := letters.map Direction.of
  let last := (dropEnd (Direction.of · = .mark) letters).getLast?.map Direction.of
  match directions.head? with
  | some .leftToRight =>
    (directions.all fun direction => !direction.turns) &&
      (last = some .leftToRight || last = some .europeanDigit)
  | some .rightToLeft =>
    !directions.contains .leftToRight &&
      !(directions.contains .europeanDigit && directions.contains .arabicDigit) &&
      last ≠ some .neutral
  | _ => letters.isEmpty

end Holdem.Text
