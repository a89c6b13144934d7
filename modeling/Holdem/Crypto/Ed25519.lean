import Holdem.Crypto.Sha2

/-!
# Ed25519 signatures

The signature scheme over the twisted Edwards curve `-x² + y² = 1 + d x² y²` modulo `2²⁵⁵ - 19`.
Points are kept in extended coordinates, so that the addition law needs no inversion and no case for
equal points.

Two choices of the verifier are visible from outside. The scalar of a signature has to be reduced,
and the point of the signature is compared as bytes, so only its one canonical spelling verifies. A
public key may be given with an unreduced ordinate; it stands for the reduced one.
-/

namespace Holdem.Crypto.Ed25519

def fieldPrime : Nat := (1 <<< 255) - 19

def groupOrder : Nat := (1 <<< 252) + 27742317777372353535851937790883648493

def powerMod (base exponent modulus : Nat) : Nat :=
  if h : exponent = 0 then 1 % modulus
  else
    let half := powerMod (base * base % modulus) (exponent / 2) modulus
    if exponent % 2 = 1 then base * half % modulus else half
termination_by exponent
decreasing_by omega

def inverse (value : Nat) : Nat := powerMod value (fieldPrime - 2) fieldPrime

def sub (first second : Nat) : Nat := (first + (fieldPrime - second % fieldPrime)) % fieldPrime

def mul (first second : Nat) : Nat := first * second % fieldPrime

def add (first second : Nat) : Nat := (first + second) % fieldPrime

/-- The curve's constant, `-121665 / 121666`. -/
def curveConstant : Nat := mul (sub 0 121665) (inverse 121666)

/-- A square root of minus one. -/
def rootOfMinusOne : Nat := powerMod 2 ((fieldPrime - 1) / 4) fieldPrime

/-- A point in extended coordinates: the abscissa is `x / z`, the ordinate `y / z`, and `t` is
`x y / z`. -/
structure Point where
  x : Nat
  y : Nat
  z : Nat
  t : Nat

namespace Point

def neutral : Point := ⟨0, 1, 1, 0⟩

def plus (first second : Point) : Point :=
  let a := mul (sub first.y first.x) (sub second.y second.x)
  let b := mul (add first.y first.x) (add second.y second.x)
  let c := mul (mul first.t (mul 2 curveConstant)) second.t
  let d := mul (mul 2 first.z) second.z
  let e := sub b a
  let f := sub d c
  let g := add d c
  let h := add b a
  ⟨mul e f, mul g h, mul f g, mul e h⟩

def negate (point : Point) : Point := ⟨sub 0 point.x, point.y, point.z, sub 0 point.t⟩

/-- A multiple of a point, for a factor below `2 ^ 256`. -/
def times (factor : Nat) (point : Point) : Point :=
  (List.range 256).reverse.foldl
    (fun sum bit =>
      let doubled := sum.plus sum
      if factor.testBit bit then doubled.plus point else doubled)
    neutral

/-- The bytes of a number, the lowest first. -/
def bytesOf (count value : Nat) : List UInt8 :=
  (List.range count).map fun place => UInt8.ofNat (value >>> (8 * place))

/-- The number of a list of bytes, the lowest first. -/
def numberOf (bytes : List UInt8) : Nat :=
  bytes.foldr (fun byte value => byte.toNat + 256 * value) 0

/-- The 32 bytes of a point: its ordinate, with the parity of the abscissa in the highest bit. -/
def encode (point : Point) : List UInt8 :=
  let scale := inverse point.z
  let x := mul point.x scale
  let y := mul point.y scale
  bytesOf 32 (y + (x % 2) <<< 255)

/-- A root of `u / v` with even parity, if there is one. -/
def rootOfRatio? (u v : Nat) : Option Nat :=
  let v3 := mul (mul v v) v
  let v7 := mul (mul v3 v3) v
  let root := mul (mul u v3) (powerMod (mul u v7) ((fieldPrime - 5) / 8) fieldPrime)
  let check := mul v (mul root root)
  let found :=
    if check = u % fieldPrime then some root
    else if check = sub 0 u then some (mul root rootOfMinusOne)
    else none
  found.map fun root => if root % 2 = 0 then root else sub 0 root

/-- The point that 32 bytes stand for. -/
def decode? (bytes : List UInt8) : Option Point :=
  let number := numberOf bytes
  let y := number % (1 <<< 255) % fieldPrime
  let square := mul y y
  (rootOfRatio? (sub square 1) (add (mul curveConstant square) 1)).map fun root =>
    let x := if number.testBit 255 then sub 0 root else root
    ⟨x, y, 1, mul x y⟩

end Point

/-- The base point, whose ordinate is four fifths. -/
def basePoint : Point :=
  (Point.decode? (Point.bytesOf 32 (mul 4 (inverse 5)))).getD .neutral

/-- The parts of the digest of a secret seed: the scalar, and the bytes that blind signatures. -/
def expand (seed : List UInt8) : Nat × List UInt8 :=
  let digest := sha512 seed
  let number := Point.numberOf (digest.take 32)
  (number % (1 <<< 254) / 8 * 8 + (1 <<< 254), digest.drop 32)

def publicKey (seed : List UInt8) : List UInt8 :=
  (basePoint.times (expand seed).1).encode

def scalarOf (parts : List (List UInt8)) : Nat :=
  Point.numberOf (sha512 parts.flatten) % groupOrder

/-- The signature of a message: 32 bytes of a point and 32 bytes of a scalar. -/
def sign (seed message : List UInt8) : List UInt8 :=
  let (secret, blind) := expand seed
  let nonce := scalarOf [blind, message]
  let commitment := (basePoint.times nonce).encode
  let challenge := scalarOf [commitment, publicKey seed, message]
  commitment ++ Point.bytesOf 32 ((nonce + challenge * secret) % groupOrder)

/-- Whether 64 bytes are a signature of a message under a public key. -/
def verify (key message signature : List UInt8) : Bool :=
  match Point.decode? key with
  | none => false
  | some point =>
    let commitment := signature.take 32
    let scalar := Point.numberOf (signature.drop 32)
    let challenge := scalarOf [commitment, key, message]
    signature.length = 64 && scalar < groupOrder &&
      ((basePoint.times scalar).plus (point.negate.times challenge)).encode = commitment

end Holdem.Crypto.Ed25519
