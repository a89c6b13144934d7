/-!
# Names in ASCII

A name of any characters is written in ASCII as its ASCII characters, a hyphen, and one number for
each other character. In the order of their codes these characters are put into the name, and each
number counts the places, over all codes and positions, that were passed over since the one before.
The numbers have digits to the base 36, lowest first, and a digit below the threshold of its place
ends the number; the thresholds adapt to the size of the numbers so far.
-/

namespace Holdem.Text.Punycode

/-- The digit of a value: letters first, then `0` to `9`. -/
def digit (value : Nat) : Char :=
  if value < 26 then Char.ofNat (97 + value) else Char.ofNat (22 + value)

def value? (c : Char) : Option Nat :=
  if 'a' ≤ c ∧ c ≤ 'z' then some (c.toNat - 97)
  else if 'A' ≤ c ∧ c ≤ 'Z' then some (c.toNat - 65)
  else if '0' ≤ c ∧ c ≤ '9' then some (c.toNat - 22)
  else none

/-- The threshold of the digit at a place. -/
def threshold (bias place : Nat) : Nat :=
  max 1 (min 26 (36 * (place + 1) - bias))

theorem threshold_pos (bias place : Nat) : 0 < threshold bias place := by
  unfold threshold
  omega

/-- How often a number is divided before it is small, and the small number. -/
def reduce (number : Nat) : Nat × Nat :=
  if 455 < number then
    let (times, small) := reduce (number / 35)
    (times + 1, small)
  else (0, number)
termination_by number
decreasing_by exact Nat.div_lt_self (by omega) (by omega)

/-- The bias after a number that puts in the character number `count`. The first number says the
least of those to come. -/
def adapt (number count : Nat) (isFirst : Bool) : Nat :=
  let damped := if isFirst then number / 700 else number / 2
  let (times, small) := reduce (damped + damped / count)
  36 * times + 36 * small / (small + 38)

/-- The digits of a number from a place on. -/
def digits (bias place number : Nat) : List Char :=
  let limit := threshold bias place
  if number < limit then [digit number]
  else
    digit (limit + (number - limit) % (36 - limit)) ::
      digits bias (place + 1) ((number - limit) / (36 - limit))
termination_by number
decreasing_by
  have := threshold_pos bias place
  have := Nat.div_le_self (number - threshold bias place) (36 - threshold bias place)
  omega

structure Progress where
  /-- The digits so far. -/
  written : List Char := []
  /-- The places passed over since the last number. -/
  passed : Nat := 0
  bias : Nat := 72
  /-- How many characters the name has so far. -/
  count : Nat

/-- Passes over a character, or writes it if it is the one whose turn it is. -/
def Progress.visit (basic code : Nat) (progress : Progress) (c : Char) : Progress :=
  if c.toNat < code then { progress with passed := progress.passed + 1 }
  else if c.toNat = code then
    { written := progress.written ++ digits progress.bias 0 progress.passed
      passed := 0
      bias := adapt progress.passed (progress.count + 1) (progress.count = basic)
      count := progress.count + 1 }
  else progress

/-- Writes the characters of the given codes, which ascend from `next` on. -/
def Progress.run (letters : List Char) (basic : Nat) : List Nat → Nat → Progress → Progress
  | [], _, progress => progress
  | code :: codes, next, progress =>
    let passed := progress.passed + (code - next) * (progress.count + 1)
    let progress := letters.foldl (Progress.visit basic code) { progress with passed }
    run letters basic codes (code + 1) { progress with passed := progress.passed + 1 }

def encode (letters : List Char) : List Char :=
  let plain := letters.filter (·.toNat < 0x80)
  let codes := (letters.map Char.toNat).filter (0x80 ≤ ·)
  let progress := Progress.run letters plain.length codes.mergeSort.eraseDups 0x80
    { count := plain.length }
  (if plain.isEmpty then [] else plain ++ ['-']) ++ progress.written

/-- Reads a number whose digit at `place` counts `weight`, on top of `number`. What it leaves of the
text is shorter. -/
def readNumber? (bias place weight number : Nat) :
    (letters : List Char) → Option (Nat × { rest : List Char // rest.length < letters.length })
  | [] => none
  | c :: rest => do
    let value ← value? c
    let number := number + value * weight
    if value < threshold bias place then some (number, ⟨rest, Nat.lt_succ_self _⟩)
    else
      let (number, ⟨rest', shorter⟩) ←
        readNumber? bias (place + 1) (weight * (36 - threshold bias place)) number rest
      some (number, ⟨rest', Nat.lt_succ_of_lt shorter⟩)

/-- Puts the characters that numbers tell of into a name. `code` is the code of the last one and
`place` the place after it. -/
def insertAll (bias code place : Nat) (name letters : List Char) : Option (List Char) :=
  if letters.isEmpty then some name
  else
    match readNumber? bias 0 1 0 letters with
    | none => none
    | some (number, ⟨rest, _⟩) =>
      let count := name.length + 1
      let code' := code + (place + number) / count
      let place' := (place + number) % count
      if code'.isValidChar then
        insertAll (adapt number count (place = 0)) code' (place' + 1)
          (name.insertIdx place' (Char.ofNat code')) rest
      else none
termination_by letters.length

def decode? (letters : List Char) : Option (List Char) :=
  let after := (letters.reverse.takeWhile (· ≠ '-')).reverse
  let plain := letters.take (letters.length - after.length - 1)
  if plain.any (0x80 ≤ ·.toNat) then none
  else insertAll 72 0x80 0 plain (if plain.isEmpty then letters else after)

end Holdem.Text.Punycode
