import Holdem.Text.Hex
import Holdem.Text.Integer

/-!
# Addresses of eight groups

An address is eight groups of up to four hexadecimal digits with colons between them. The last two
groups may be four decimal bytes instead, and two colons without a group between them stand, once,
for as many groups of zero as are missing, at least one. The normal form writes the first longest
run of two or more zeros in that way.
-/

namespace Holdem

structure Ipv6 where
  groups : Vector UInt16 8
  deriving DecidableEq

namespace Ipv6

def readGroup? (letters : List Char) : Option Nat := do
  guard (!letters.isEmpty && letters.length ≤ 4)
  letters.foldlM (fun value c => return 16 * value + (← Text.hexValue? c)) 0

/-- Reads a decimal byte without needless zeros. -/
def readByte? (letters : List Char) : Option Nat := do
  guard (letters.length ≤ 1 || letters.head? ≠ some '0')
  (Text.digits 255 .tooLarge letters).toOption

/-- Reads four decimal bytes as two groups. -/
def readBytes? (letters : List Char) : Option (List Nat) := do
  let bytes ← (letters.splitOnP (· = '.')).mapM readByte?
  match bytes with
  | [a, b, c, d] => some [256 * a + b, 256 * c + d]
  | _ => none

/-- Reads groups. Those at the end of the address may end in bytes. -/
def readGroups? (isEnd : Bool) (letters : List Char) : Option (List Nat) :=
  if letters.isEmpty then some []
  else do
    let parts := letters.splitOnP (· = ':')
    let last ← parts.getLast?
    let first ← parts.dropLast.mapM readGroup?
    if isEnd && last.contains '.' then return first ++ (← readBytes? last)
    else return first ++ [← readGroup? last]

/-- What stands before and after the first two colons that follow each other. -/
def splitGap? : List Char → Option (List Char × List Char)
  | ':' :: ':' :: rest => some ([], rest)
  | c :: rest => (splitGap? rest).map fun (before, after) => (c :: before, after)
  | [] => none

/-- Nothing but the two colons is lost. -/
theorem eq_append_of_splitGap? {letters before after : List Char}
    (split : splitGap? letters = some (before, after)) :
    letters = before ++ ':' :: ':' :: after := by
  fun_induction splitGap? letters generalizing before with
  | case1 => simp_all
  | case2 c rest _ ih =>
    obtain ⟨⟨start, rest'⟩, inner, same⟩ := Option.map_eq_some_iff.1 split
    obtain ⟨rfl, rfl⟩ := Prod.mk.inj same
    simp [ih inner]
  | case3 => simp at split

def readAll? (letters : List Char) : Option (List Nat) :=
  match splitGap? letters with
  | none => readGroups? true letters
  | some (before, after) => do
    let before ← readGroups? false before
    let after ← readGroups? true after
    guard (before.length + after.length < 8)
    some (before ++ List.replicate (8 - (before.length + after.length)) 0 ++ after)

def read? (letters : List Char) : Option Ipv6 := do
  let groups := (← readAll? letters).map UInt16.ofNat
  if eight : groups.length = 8 then some ⟨⟨groups.toArray, by simpa using eight⟩⟩ else none

/-- How many zeros a list starts with. -/
def zerosAtStart (groups : List Nat) : Nat := (groups.takeWhile (· = 0)).length

/-- Where the first longest run of zeros starts and how long it is. -/
def longestRun (groups : List Nat) : Nat × Nat :=
  (List.range groups.length).foldl
    (fun (start, length) index =>
      let here := zerosAtStart (groups.drop index)
      if length < here then (index, here) else (start, length))
    (0, 0)

def groupsText (groups : List Nat) : String :=
  ":".intercalate (groups.map fun group => String.ofList (Nat.toDigits 16 group))

def text (address : Ipv6) : String :=
  let groups := address.groups.toList.map UInt16.toNat
  let (start, length) := longestRun groups
  if length < 2 then groupsText groups
  else groupsText (groups.take start) ++ "::" ++ groupsText (groups.drop (start + length))

end Ipv6

end Holdem
