import Holdem.Text.Blank
import Holdem.Text.Hex

/-!
# Tables of characters

What a standard says of characters outside ASCII is data. It is kept in rows of text that name every
character by its hexadecimal code, and read once. Four kinds of item stand in these rows, with
blanks between them:

* `41-5A` is a range, and a code alone is a range of one;
* `41-5A>61` is a range whose characters stand for those from `61` on, one for one;
* `100-12E/2>101` is such a range of every second character;
* `A8:20+308,61` is a block: the characters from `A8` on stand for the texts after the colon, here
  the first for two characters and the next for one.
-/

namespace Holdem.Text

def hexNumber (digits : List Char) : Nat :=
  digits.foldl (fun value digit => 16 * value + (hexValue? digit).getD 0) 0

def tableItems (rows : List String) : List (List Char) :=
  rows.flatMap fun row => (words row).map String.toList

/-- A range of codes, with both its ends. -/
structure CodeRange where
  first : Nat
  last : Nat
  deriving DecidableEq

namespace CodeRange

def ofItem (item : List Char) : CodeRange :=
  match cut '-' item with
  | (first, []) => ⟨hexNumber first, hexNumber first⟩
  | (first, last) => ⟨hexNumber first, hexNumber last⟩

def table (rows : List String) : List CodeRange :=
  (tableItems rows).map ofItem

def holds (range : CodeRange) (c : Char) : Bool :=
  range.first ≤ c.toNat && c.toNat ≤ range.last

end CodeRange

def inTable (table : List CodeRange) (c : Char) : Bool :=
  table.any (·.holds c)

/-- A range whose characters, `step` apart, stand for those from `image` on. -/
structure CodeShift where
  range : CodeRange
  step : Nat
  image : Nat
  deriving DecidableEq

namespace CodeShift

def ofItem (item : List Char) : CodeShift :=
  let (source, image) := cut '>' item
  let (range, step) := cut '/' source
  { range := .ofItem range
    step := if step.isEmpty then 1 else hexNumber step
    image := hexNumber image }

def table (rows : List String) : List CodeShift :=
  (tableItems rows).map ofItem

def image? (shift : CodeShift) (c : Char) : Option Char :=
  if shift.range.holds c && (c.toNat - shift.range.first) % shift.step = 0 then
    some (Char.ofNat (shift.image + (c.toNat - shift.range.first)))
  else none

end CodeShift

/-- Characters that follow each other and the texts they stand for. -/
structure CodeBlock where
  first : Nat
  images : List (List Char)
  deriving DecidableEq

namespace CodeBlock

def ofItem (item : List Char) : CodeBlock :=
  let (first, images) := cut ':' item
  { first := hexNumber first
    images := (images.splitOnP (· = ',')).map fun image =>
      (image.splitOnP (· = '+')).map fun code => Char.ofNat (hexNumber code) }

def table (rows : List String) : List CodeBlock :=
  (tableItems rows).map ofItem

def image? (block : CodeBlock) (c : Char) : Option (List Char) :=
  if block.first ≤ c.toNat then block.images[c.toNat - block.first]? else none

/-- The characters of a block with their texts. -/
def entries (block : CodeBlock) : List (Char × List Char) :=
  block.images.zipIdx.map fun (image, offset) => (Char.ofNat (block.first + offset), image)

end CodeBlock

end Holdem.Text
