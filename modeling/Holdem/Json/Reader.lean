import Holdem.Json.Basic
import Holdem.Text.Hex

/-!
# Reading JSON text

One function per clause of the grammar, on the characters that are left. Each gives what it read and
what is left after it.

A string is read in two steps: first the pieces that stand in the literal, where an escape `\uXXXX`
may name half of a surrogate pair, then the characters that they make (`characters?`). A half
without its partner keeps the grammar and has no text.
-/

namespace Holdem.Json

/-- Space, tab, line feed and carriage return may stand between tokens. -/
def isGap (c : Char) : Bool :=
  c = ' ' || c = '\t' || c = '\n' || c = '\r'

/-- What is left after the gap in front. -/
def afterGap (letters : List Char) : List Char :=
  letters.dropWhile isGap

/-- What stands in a string literal: a character, or one half of a surrogate pair. -/
inductive Piece where
  | character (c : Char)
  | half (unit : Nat)

/-- The character that a backslash and this letter stand for. -/
def escaped? : Char → Option Char
  | '"' => some '"'
  | '\\' => some '\\'
  | '/' => some '/'
  | 'b' => some '\x08'
  | 'f' => some '\x0c'
  | 'n' => some '\n'
  | 'r' => some '\r'
  | 't' => some '\t'
  | _ => none

/-- The piece of the escape `\u` with four hexadecimal digits. -/
def unitPiece? (first second third fourth : Char) : Option Piece := do
  let unit := 4096 * (← Text.hexValue? first) + 256 * (← Text.hexValue? second) +
    16 * (← Text.hexValue? third) + (← Text.hexValue? fourth)
  some (if 0xD800 ≤ unit ∧ unit < 0xE000 then .half unit else .character (Char.ofNat unit))

/-- The pieces of a string literal after its opening quote. -/
def pieces : List Char → Option (List Piece × List Char)
  | [] => none
  | '"' :: rest => some ([], rest)
  | '\\' :: 'u' :: first :: second :: third :: fourth :: rest => do
    let piece ← unitPiece? first second third fourth
    let (more, left) ← pieces rest
    some (piece :: more, left)
  | '\\' :: letter :: rest => do
    let c ← escaped? letter
    let (more, left) ← pieces rest
    some (.character c :: more, left)
  | c :: rest =>
    if c.toNat < 0x20 then none
    else do
      let (more, left) ← pieces rest
      some (.character c :: more, left)

/-- The characters of a literal: a leading half with its trailing half is one character. -/
def characters? : List Piece → Option (List Char)
  | [] => some []
  | .character c :: rest => (characters? rest).map (c :: ·)
  | .half leading :: .half trailing :: rest =>
    if leading < 0xDC00 ∧ 0xDC00 ≤ trailing then
      (characters? rest).map
        (Char.ofNat (0x10000 + 1024 * (leading - 0xD800) + (trailing - 0xDC00)) :: ·)
    else none
  | .half _ :: _ => none

def stringTail (letters : List Char) : Option (Option String × List Char) := do
  let (found, left) ← pieces letters
  some ((characters? found).map String.ofList, left)

/-- The digits in front and what is left after them. -/
def digitRun (letters : List Char) : List Nat × List Char :=
  ((letters.takeWhile Char.isDigit).map fun c => c.toNat - 48, letters.dropWhile Char.isDigit)

/-- The digits before the point: one zero, or digits that start with another one. -/
def wholePart (letters : List Char) : Option (List Nat × List Char) :=
  match digitRun letters with
  | ([], _) => none
  | (0 :: _ :: _, _) => none
  | (found, left) => some (found, left)

/-- The point and the digits after it, if there is a point. -/
def fractionPart : List Char → Option (Option (List Nat) × List Char)
  | '.' :: rest =>
    match digitRun rest with
    | ([], _) => none
    | (found, left) => some (some found, left)
  | letters => some (none, letters)

/-- The digits of an exponent after its sign. -/
def exponentDigits (negative : Bool) (letters : List Char) : Option (Option Int × List Char) :=
  match digitRun letters with
  | ([], _) => none
  | (found, left) =>
    let value : Int := Numeral.valueOf found
    some (some (if negative then -value else value), left)

def exponentPart : List Char → Option (Option Int × List Char)
  | c :: rest =>
    if c = 'e' || c = 'E' then
      match rest with
      | '+' :: rest => exponentDigits false rest
      | '-' :: rest => exponentDigits true rest
      | rest => exponentDigits false rest
    else some (none, c :: rest)
  | [] => some (none, [])

def numeral (letters : List Char) : Option (Numeral × List Char) := do
  let (negative, letters) := match letters with
    | '-' :: rest => (true, rest)
    | letters => (false, letters)
  let (whole, letters) ← wholePart letters
  let (fraction, letters) ← fractionPart letters
  let (exponent, letters) ← exponentPart letters
  some (⟨negative, whole, fraction, exponent⟩, letters)

mutual

def value : Nat → List Char → Option (Json × List Char)
  | 0, _ => none
  | fuel + 1, letters =>
    match afterGap letters with
    | 'n' :: 'u' :: 'l' :: 'l' :: rest => some (.null, rest)
    | 't' :: 'r' :: 'u' :: 'e' :: rest => some (.bool true, rest)
    | 'f' :: 'a' :: 'l' :: 's' :: 'e' :: rest => some (.bool false, rest)
    | '"' :: rest => do
      let (content, left) ← stringTail rest
      some (.string content, left)
    | '[' :: rest =>
      match afterGap rest with
      | ']' :: left => some (.array [], left)
      | _ => do
        let (found, left) ← items fuel rest
        some (.array found, left)
    | '{' :: rest =>
      match afterGap rest with
      | '}' :: left => some (.object [], left)
      | _ => do
        let (found, left) ← members fuel rest
        some (.object found, left)
    | letters => do
      let (found, left) ← numeral letters
      some (.number found, left)

def items : Nat → List Char → Option (List Json × List Char)
  | 0, _ => none
  | fuel + 1, letters => do
    let (first, left) ← value fuel letters
    match afterGap left with
    | ',' :: rest => do
      let (more, left) ← items fuel rest
      some (first :: more, left)
    | ']' :: left => some ([first], left)
    | _ => none

def members : Nat → List Char → Option (List (Option String × Json) × List Char)
  | 0, _ => none
  | fuel + 1, letters =>
    match afterGap letters with
    | '"' :: rest => do
      let (key, left) ← stringTail rest
      match afterGap left with
      | ':' :: rest => do
        let (first, left) ← value fuel rest
        match afterGap left with
        | ',' :: rest => do
          let (more, left) ← members fuel rest
          some ((key, first) :: more, left)
        | '}' :: left => some ([(key, first)], left)
        | _ => none
      | _ => none
    | _ => none

end

/-- Reads a whole text as one tree; only a gap may follow it.

Every clause consumes a character or hands its characters to a clause that does, so twice the length
is enough fuel. -/
def parse (source : String) : Option Json :=
  let letters := source.toList
  match value (2 * letters.length + 2) letters with
  | some (json, left) => if (afterGap left).isEmpty then some json else none
  | none => none

/-- Reads a whole text as a general value. -/
def parseValue (source : String) : Option Json :=
  (parse source).filter isValue

end Holdem.Json
