import DeviceSecurity.Curve.Modular
import DeviceSecurity.Hash.Sha512

/-!
# Signatures over the Edwards curve

The curve `y² - x² = 1 + d x² y²` over the prime field of `2²⁵⁵ - 19`. A point travels as its `y`,
least byte first, with the parity of its `x` in the highest bit. A signature is a point and a
number; it is valid for a public point when the number's multiple of the base point is the point of
the signature plus the multiple of the public point that the digest of all three determines.
-/

namespace DeviceSecurity.Ed25519

/-- The prime of the field, `2^255 - 19`. -/
def prime : Nat := 0x7fffffffffffffffffffffffffffffffffffffffffffffffffffffffffffffed

/-- The order of the base point. -/
def order : Nat := 0x1000000000000000000000000000000014def9dea2f79cd65812631a5cf5d3ed

/-- The coefficient `d` of the equation, `-121665 / 121666`. -/
def coefficient : Nat := (prime - 121665) * Modular.inverse prime 121666 % prime

/-- A point in extended coordinates: `x / z`, `y / z` and `t = x y / z`. -/
structure EdwardsPoint where
  x : Nat
  y : Nat
  z : Nat
  t : Nat
deriving DecidableEq, Repr

namespace EdwardsPoint

/-- The point with affine coordinates. -/
def ofAffine (x y : Nat) : EdwardsPoint := ⟨x, y, 1, x * y % prime⟩

/-- The neutral point. -/
def zero : EdwardsPoint := ofAffine 0 1

/-- The sum of two points; the formula holds for all of them. -/
def add (p q : EdwardsPoint) : EdwardsPoint :=
  let a := Modular.sub prime p.y p.x * Modular.sub prime q.y q.x % prime
  let b := (p.y + p.x) * (q.y + q.x) % prime
  let c := p.t * (2 * coefficient) % prime * q.t % prime
  let d := 2 * p.z * q.z % prime
  let e := Modular.sub prime b a
  let f := Modular.sub prime d c
  let g := (d + c) % prime
  let h := (b + a) % prime
  ⟨e * f % prime, g * h % prime, f * g % prime, e * h % prime⟩

/-- The opposite point. -/
def neg (p : EdwardsPoint) : EdwardsPoint :=
  { p with x := (prime - p.x) % prime, t := (prime - p.t) % prime }

/-- Doubles `acc` for each of the `n` lowest bits of `k`, highest first, adding `p` for the
ones. -/
def mulBits (k : Nat) (p : EdwardsPoint) : (n : Nat) → (acc : EdwardsPoint) → EdwardsPoint
  | 0, acc => acc
  | n + 1, acc =>
    let twice := acc.add acc
    mulBits k p n (if k.testBit n then twice.add p else twice)

/-- The `k`-fold sum of a point. -/
def mul (k : Nat) (p : EdwardsPoint) : EdwardsPoint := mulBits k p (k.log2 + 1) zero

/-- The number that bytes spell, least first. -/
def littleEndian (b : Bytes) : Nat := Bytes.toNat b.reverse

/-- The value of the bit that holds a parity, `2^255`. -/
def parityBit : Nat := 0x8000000000000000000000000000000000000000000000000000000000000000

/-- The encoding of a point. -/
def encode (p : EdwardsPoint) : Bytes :=
  let inverse := Modular.inverse prime p.z
  let x := p.x * inverse % prime
  let y := p.y * inverse % prime
  (Bytes.ofNat 32 (y + x % 2 * parityBit)).reverse

/-- A square root, if there is one. -/
def sqrt? (a : Nat) : Option Nat :=
  let root := Modular.pow prime a ((prime + 3) / 8)
  let other := root * Modular.pow prime 2 ((prime - 1) / 4) % prime
  if root * root % prime = a % prime then some root
  else if other * other % prime = a % prime then some other
  else none

/-- The point that an encoding stands for. -/
def decode? (b : Bytes) : Option EdwardsPoint := do
  if b.length ≠ 32 then none
  let n := littleEndian b
  let y := n % parityBit % prime
  let square := y * y % prime
  let x ← sqrt? ((square + prime - 1) * Modular.inverse prime (coefficient * square + 1) % prime)
  return ofAffine (if x % 2 = n / parityBit then x else (prime - x) % prime) y

end EdwardsPoint

/-- The base point: `y` is `4 / 5` and `x` is even. -/
def base : EdwardsPoint :=
  .ofAffine 0x216936d3cd6e53fec0a4e231fdd6dc5c692cc7609525a7b2c9562d608f25d51a
    0x6666666666666666666666666666666666666666666666666666666666666658

/-- Whether a signature over a message is valid for an encoded public point. -/
def isValid (key message signature : Bytes) : Bool :=
  let point := signature.take 32
  let scalar := EdwardsPoint.littleEndian (signature.drop 32)
  match EdwardsPoint.decode? key with
  | some q =>
    let k := EdwardsPoint.littleEndian (Sha512.digest (point ++ key ++ message)) % order
    signature.length = 64 && scalar < order &&
      ((base.mul scalar).add (q.neg.mul k)).encode == point
  | none => false

end DeviceSecurity.Ed25519
