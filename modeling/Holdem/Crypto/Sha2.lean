/-!
# The SHA-2 digests

SHA-256 and SHA-512 are one construction over words of two widths: the message is padded to whole
blocks, each block is stretched into a schedule of words, and each word of the schedule turns the
eight words of the state once.

The constants of both are the leading fractional bits of roots of the first primes. They are
computed from that rule, and the narrow digest takes the upper half of the wide constants.
-/

namespace Holdem.Crypto

/-- The largest number of at most `bits` bits whose power is not above `value`, found bit by bit. -/
def integerRoot (degree value bits : Nat) : Nat :=
  (List.range bits).reverse.foldl
    (fun root bit =>
      let larger := root + 1 <<< bit
      if Nat.pow larger degree ≤ value then larger else root) 0

/-- The first 64 fractional bits of the root of a number. -/
def fractionalRoot (degree value : Nat) : Nat :=
  integerRoot degree (value <<< (64 * degree)) 70 % 0x10000000000000000

/-- Whether no smaller number above one divides a number. -/
def isPrime (value : Nat) : Bool :=
  1 < value && (List.range value).all fun divisor => divisor < 2 || value % divisor ≠ 0

/-- The primes that the constants are made from. -/
def primes : List Nat :=
  (List.range 410).filter isPrime

/-- The amounts of three rotations, or of two rotations and a shift. -/
structure Turns where
  first : Nat
  second : Nat
  third : Nat

/-- A member of the family, over words of `width` bits. -/
structure Sha2 (width : Nat) where
  /-- How many words a block is stretched into. -/
  rounds : Nat
  /-- Turns of the first state word. -/
  headTurns : Turns
  /-- Turns of the fifth state word. -/
  middleTurns : Turns
  /-- Turns of the schedule word fifteen steps back. -/
  earlyTurns : Turns
  /-- Turns of the schedule word two steps back. -/
  lateTurns : Turns

/-- The words that a digest turns. -/
structure Sha2State (width : Nat) where
  a : BitVec width
  b : BitVec width
  c : BitVec width
  d : BitVec width
  e : BitVec width
  f : BitVec width
  g : BitVec width
  h : BitVec width

namespace Sha2

variable {width : Nat}

/-- The upper bits of a 64-bit constant. -/
def constant (width bits : Nat) : BitVec width :=
  BitVec.ofNat width (bits >>> (64 - width))

def rotations (turns : Turns) (word : BitVec width) : BitVec width :=
  word.rotateRight turns.first ^^^ word.rotateRight turns.second ^^^ word.rotateRight turns.third

/-- The exclusive or of two rotations and a shift. -/
def rotationsAndShift (turns : Turns) (word : BitVec width) : BitVec width :=
  word.rotateRight turns.first ^^^ word.rotateRight turns.second ^^^ (word >>> turns.third)

/-- The schedule of a block: each step gives the oldest word of the window and appends a new one. -/
def schedule (sha : Sha2 width) : Nat → List (BitVec width) → List (BitVec width)
  | 0, _ => []
  | steps + 1, window =>
    let next := rotationsAndShift sha.lateTurns (window.getD 14 0) + window.getD 9 0 +
      rotationsAndShift sha.earlyTurns (window.getD 1 0) + window.getD 0 0
    window.getD 0 0 :: schedule sha steps (window.drop 1 ++ [next])

/-- One turn of the state with a schedule word and a constant. -/
def turn (sha : Sha2 width) (state : Sha2State width) (word constant : BitVec width) :
    Sha2State width :=
  let choice := (state.e &&& state.f) ^^^ (~~~state.e &&& state.g)
  let majority := (state.a &&& state.b) ^^^ (state.a &&& state.c) ^^^ (state.b &&& state.c)
  let first := state.h + rotations sha.middleTurns state.e + choice + constant + word
  let second := rotations sha.headTurns state.a + majority
  { a := first + second, b := state.a, c := state.b, d := state.c
    e := state.d + first, f := state.e, g := state.f, h := state.g }

def add (first second : Sha2State width) : Sha2State width :=
  { a := first.a + second.a, b := first.b + second.b, c := first.c + second.c
    d := first.d + second.d, e := first.e + second.e, f := first.f + second.f
    g := first.g + second.g, h := first.h + second.h }

def roundConstants (sha : Sha2 width) : List (BitVec width) :=
  (primes.take sha.rounds).map fun prime => constant width (fractionalRoot 3 prime)

def initial (width : Nat) : Sha2State width :=
  match (primes.take 8).map fun prime => constant width (fractionalRoot 2 prime) with
  | [a, b, c, d, e, f, g, h] => ⟨a, b, c, d, e, f, g, h⟩
  | _ => ⟨0, 0, 0, 0, 0, 0, 0, 0⟩

def compress (sha : Sha2 width) (constants : List (BitVec width)) (state : Sha2State width)
    (block : List (BitVec width)) : Sha2State width :=
  let turned := ((schedule sha sha.rounds block).zip constants).foldl
    (fun state (word, constant) => turn sha state word constant) state
  add state turned

def bytesOf (count value : Nat) : List UInt8 :=
  (List.range count).reverse.map fun place => UInt8.ofNat (value >>> (8 * place))

/-- The number of a list of bytes, the highest first. -/
def numberOf (bytes : List UInt8) : Nat :=
  bytes.foldl (fun value byte => 256 * value + byte.toNat) 0

/-- Cuts a list into pieces of `size` elements; `count` bounds their number. -/
def chunks (size : Nat) : Nat → List α → List (List α)
  | 0, _ => []
  | _, [] => []
  | count + 1, elements => elements.take size :: chunks size count (elements.drop size)

/-- The message with a one bit, zeros and its length in bits, up to whole blocks. -/
def padded (width : Nat) (message : List UInt8) : List UInt8 :=
  let block := 2 * width
  let zeros := (2 * block - 1 - width / 4 - message.length % block) % block
  message ++ 0x80 :: List.replicate zeros 0 ++ bytesOf (width / 4) (8 * message.length)

def blocks (width : Nat) (message : List UInt8) : List (List (BitVec width)) :=
  let bytes := padded width message
  let words := (chunks (width / 8) bytes.length bytes).map fun word =>
    BitVec.ofNat width (numberOf word)
  chunks 16 words.length words

def digest (sha : Sha2 width) (message : List UInt8) : List UInt8 :=
  let constants := roundConstants sha
  let final := (blocks width message).foldl (compress sha constants) (initial width)
  [final.a, final.b, final.c, final.d, final.e, final.f, final.g, final.h].flatMap fun word =>
    bytesOf (width / 8) word.toNat

end Sha2

def sha256Rules : Sha2 32 where
  rounds := 64
  headTurns := ⟨2, 13, 22⟩
  middleTurns := ⟨6, 11, 25⟩
  earlyTurns := ⟨7, 18, 3⟩
  lateTurns := ⟨17, 19, 10⟩

def sha512Rules : Sha2 64 where
  rounds := 80
  headTurns := ⟨28, 34, 39⟩
  middleTurns := ⟨14, 18, 41⟩
  earlyTurns := ⟨1, 8, 7⟩
  lateTurns := ⟨19, 61, 6⟩

def sha256 (message : List UInt8) : List UInt8 := sha256Rules.digest message

def sha512 (message : List UInt8) : List UInt8 := sha512Rules.digest message

def utf8 (text : String) : List UInt8 := text.toUTF8.toList

end Holdem.Crypto
