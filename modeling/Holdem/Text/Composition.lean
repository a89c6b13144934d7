import Holdem.Text.CharTable
import Holdem.Text.CompositionTable

/-!
# Composed text

A letter with a mark can be written as one character or as two, and several marks in more than one
order. `composed` picks one way: every character is taken apart, the marks after each letter are put
in order, and then each letter takes in the marks that it has a composed character with.
-/

namespace Holdem.Text

/-- A composed character and the two that it consists of. -/
structure ComposedChar where
  whole : Char
  first : Char
  second : Char
  deriving DecidableEq

/-- The composed characters but for the Korean syllables. -/
def composedChars : List ComposedChar :=
  (CodeBlock.table pairRows).flatMap fun block =>
    block.entries.filterMap fun
      | (whole, [first, second]) => some { whole, first, second }
      | _ => none

/-- Takes a Korean syllable apart: a final from the rest, or else the vowel from the initial. -/
def splitSyllable? (c : Char) : Option (Char × Char) :=
  let index := c.toNat - 0xAC00
  if c.toNat < 0xAC00 || 0xD7A3 < c.toNat then none
  else if index % 28 = 0 then
    some (Char.ofNat (0x1100 + index / 588), Char.ofNat (0x1161 + index / 28 % 21))
  else some (Char.ofNat (c.toNat - index % 28), Char.ofNat (0x11A7 + index % 28))

/-- The Korean syllable of an initial and a vowel, or of a syllable without a final and a final. -/
def joinSyllable? (first second : Char) : Option Char :=
  let initial := first.toNat - 0x1100
  let index := first.toNat - 0xAC00
  if 0x1100 ≤ first.toNat && initial < 19 && 0x1161 ≤ second.toNat && second.toNat < 0x1176 then
    some (Char.ofNat (0xAC00 + (initial * 21 + (second.toNat - 0x1161)) * 28))
  else if 0xAC00 ≤ first.toNat && first.toNat ≤ 0xD7A3 && index % 28 = 0 && 0x11A7 < second.toNat &&
      second.toNat < 0x11C3 then
    some (Char.ofNat (first.toNat + (second.toNat - 0x11A7)))
  else none

def split? (c : Char) : Option (Char × Char) :=
  if c.toNat < 0xC0 then none
  else splitSyllable? c <|>
    (composedChars.find? (·.whole = c)).map fun composed => (composed.first, composed.second)

def join? (first second : Char) : Option Char :=
  if second.toNat < 0x80 then none
  else joinSyllable? first second <|>
    (composedChars.find? fun composed => composed.first = first && composed.second = second).map
      (·.whole)

/-- Takes a character apart in up to `steps` steps. -/
def apart : Nat → Char → List Char
  | 0, c => [c]
  | steps + 1, c =>
    match split? c with
    | some (first, second) => apart steps first ++ [second]
    | none => [c]

/-- The most marks that a composed character takes in. -/
def mostMarks : Nat := 3

def markPlaces : List (Nat × List CodeRange) :=
  markPlaceRows.map fun (place, row) => (place, CodeRange.table [row])

/-- The place of a mark among those after one letter; other characters have the place zero. -/
def markPlace (c : Char) : Nat :=
  if c.toNat < 0x300 then 0
  else ((markPlaces.find? fun (_, ranges) => inTable ranges c).map (·.1)).getD 0

/-- Puts a character after others, the last one first, but a mark before the marks of a later
place. -/
def insertMark (c : Char) : List Char → List Char
  | [] => [c]
  | last :: others =>
    if markPlace c ≠ 0 && markPlace c < markPlace last then last :: insertMark c others
    else c :: last :: others

/-- Every character taken apart and the marks in order. -/
def decomposed (letters : List Char) : List Char :=
  ((letters.flatMap (apart mostMarks)).foldl (fun done c => insertMark c done) []).reverse

/-- Composes a text in order: `letter` takes in what follows, `marks` are the marks after it that it
has not taken in, the last one first. A mark is out of reach behind one of its own place. -/
def composeAfter (letter : Char) (marks : List Char) : List Char → List Char
  | [] => letter :: marks.reverse
  | c :: rest =>
    let reachable := marks.head?.all fun last => markPlace last < markPlace c
    match if reachable then join? letter c else none with
    | some whole => composeAfter whole marks rest
    | none =>
      if markPlace c = 0 then letter :: marks.reverse ++ composeAfter c [] rest
      else composeAfter letter (c :: marks) rest

def composed (letters : List Char) : List Char :=
  let pieces := decomposed letters
  match pieces.dropWhile fun c => markPlace c ≠ 0 with
  | [] => pieces
  | letter :: rest =>
    pieces.takeWhile (fun c => markPlace c ≠ 0) ++ composeAfter letter [] rest

end Holdem.Text
