import DeviceSecurity.Curve.Basic
import DeviceSecurity.Curve.Modular

/-!
# Points

The curves are given by `y² = x³ - 3x + b` over a prime field, with a generator of prime order.
A point is the point at infinity or a pair of coordinates; `add` and `mul` are the group law in
affine form, and the encodings are those of SEC 1: compressed, uncompressed and compact.
-/

namespace DeviceSecurity

/-- A point: at infinity, or with coordinates. -/
inductive Point where
  | infinity
  | affine (x y : Nat)
deriving DecidableEq, Repr

namespace Curve

/-! ## Constants -/

/-- The prime of the field: `2^256 - 2^224 + 2^192 + 2^96 - 1`, `2^384 - 2^128 - 2^96 + 2^32 - 1` or
`2^521 - 1`. -/
def prime : Curve → Nat
  | p256 => 0xffffffff00000001000000000000000000000000ffffffffffffffffffffffff
  | p384 =>
    0xfffffffffffffffffffffffffffffffffffffffffffffffffffffffffffffffeffffffff0000000000000000ffffffff
  | p521 =>
    0x1ffffffffffffffffffffffffffffffffffffffffffffffffffffffffffffffffffffffffffffffffffffffffffffffffffffffffffffffffffffffffffffffffff

/-- The constant term of the equation. -/
def coefficient : Curve → Nat
  | p256 => 0x5ac635d8aa3a93e7b3ebbd55769886bc651d06b0cc53b0f63bce3c3e27d2604b
  | p384 =>
    0xb3312fa7e23ee7e4988e056be3f82d19181d9c6efe8141120314088f5013875ac656398d8a2ed19d2a85c8edd3ec2aef
  | p521 =>
    0x0051953eb9618e1c9a1f929a21a0b68540eea2da725b99b315f3b8b489918ef109e156193951ec7e937b1652c0bd3bb1bf073573df883d2c34f1ef451fd46b503f00

/-- The order of the generator. -/
def order : Curve → Nat
  | p256 => 0xffffffff00000000ffffffffffffffffbce6faada7179e84f3b9cac2fc632551
  | p384 =>
    0xffffffffffffffffffffffffffffffffffffffffffffffffc7634d81f4372ddf581a0db248b0a77aecec196accc52973
  | p521 =>
    0x01fffffffffffffffffffffffffffffffffffffffffffffffffffffffffffffffffa51868783bf2f966b7fcc0148f709a5d03bb5c9b8899c47aebb6fb71e91386409

/-- The generator. -/
def generator : Curve → Point
  | p256 => .affine
      0x6b17d1f2e12c4247f8bce6e563a440f277037d812deb33a0f4a13945d898c296
      0x4fe342e2fe1a7f9b8ee7eb4a7c0f9e162bce33576b315ececbb6406837bf51f5
  | p384 => .affine
      0xaa87ca22be8b05378eb1c71ef320ad746e1d3b628ba79b9859f741e082542a385502f25dbf55296c3a545e3872760ab7
      0x3617de4a96262c6f5d9e98bf9292dc29f8f41dbd289a147ce9da3113b5f0b8c00a60b1ce1d7e819d7a431d7c90ea0e5f
  | p521 => .affine
      0x00c6858e06b70404e9cd9e3ecb662395b4429c648139053fb521f828af606b4d3dbaa14b5e77efe75928fe1dc127a2ffa8de3348b3c1856a429bf97e7e31c2e5bd66
      0x011839296a789a3bc0045c8a5fb42c7d1bd998f54449579b446817afbd17273e662c97ee72995ef42640c550b9013fad0761353c7086a272c24088be94769fd16650

/-! ## The equation -/

/-- The right-hand side `x³ - 3x + b` of the equation. -/
def rhs (c : Curve) (x : Nat) : Nat :=
  (x * x % c.prime * x + (c.prime - 3) * x + c.coefficient) % c.prime

/-- Whether a pair of numbers below the prime satisfies the equation. -/
def contains (c : Curve) (x y : Nat) : Bool :=
  x < c.prime && y < c.prime && y * y % c.prime == c.rhs x

/-! ## The group law -/

/-- The third point on the line through `(x₁, y₁)` with the given slope and `x₂`, reflected. -/
def chord (c : Curve) (slope x₁ y₁ x₂ : Nat) : Point :=
  let x := (slope * slope + 2 * c.prime - x₁ - x₂) % c.prime
  .affine x (Modular.sub c.prime (slope * Modular.sub c.prime x₁ x % c.prime) y₁)

/-- Twice a point. -/
def double (c : Curve) : Point → Point
  | .infinity => .infinity
  | .affine x y =>
    if y = 0 then .infinity
    else
      let slope := (3 * (x * x + c.prime - 1)) % c.prime * Modular.inverse c.prime (2 * y) % c.prime
      c.chord slope x y x

/-- The sum of two points. -/
def add (c : Curve) : Point → Point → Point
  | .infinity, q => q
  | p, .infinity => p
  | .affine x₁ y₁, .affine x₂ y₂ =>
    if x₁ = x₂ then
      if y₁ = y₂ then c.double (.affine x₁ y₁) else .infinity
    else
      let run := Modular.sub c.prime x₂ x₁
      let slope := Modular.sub c.prime y₂ y₁ * Modular.inverse c.prime run % c.prime
      c.chord slope x₁ y₁ x₂

/-- Doubles `acc` for each of the `n` lowest bits of `k`, highest first, adding `p` for the ones. -/
def mulBits (c : Curve) (k : Nat) (p : Point) : (n : Nat) → (acc : Point) → Point
  | 0, acc => acc
  | n + 1, acc =>
    let twice := c.double acc
    mulBits c k p n (if k.testBit n then c.add twice p else twice)

/-- The `k`-fold sum of a point. -/
def mul (c : Curve) (k : Nat) (p : Point) : Point := c.mulBits k p (k.log2 + 1) .infinity

/-- As `mulBits`, for two scalars and two points at once. -/
def mulAddBits (c : Curve) (k l : Nat) (p q sum : Point) : (n : Nat) → (acc : Point) → Point
  | 0, acc => acc
  | n + 1, acc =>
    let twice := c.double acc
    let next :=
      match k.testBit n, l.testBit n with
      | false, false => twice
      | true, false => c.add twice p
      | false, true => c.add twice q
      | true, true => c.add twice sum
    mulAddBits c k l p q sum n next

/-- The sum of the `k`-fold of `p` and the `l`-fold of `q`. -/
def mulAdd (c : Curve) (k : Nat) (p : Point) (l : Nat) (q : Point) : Point :=
  c.mulAddBits k l p q (c.add p q) (max k.log2 l.log2 + 1) .infinity

/-! ## Encodings -/

/-- A coordinate as bytes. -/
def fieldBytes (c : Curve) (x : Nat) : Bytes := Bytes.ofNat c.fieldSize x

@[simp] theorem length_fieldBytes (c : Curve) (x : Nat) :
    (c.fieldBytes x).length = c.fieldSize := by
  simp [fieldBytes]

/-- The uncompressed encoding of a point; the point at infinity is a single zero. -/
def encode (c : Curve) : Point → Bytes
  | .infinity => [0x00]
  | .affine x y => 0x04 :: c.fieldBytes x ++ c.fieldBytes y

/-- The compressed encoding of a point: the parity of `y`, and `x`. -/
def compress (c : Curve) : Point → Bytes
  | .infinity => [0x00]
  | .affine x y => (if y % 2 = 1 then 0x03 else 0x02) :: c.fieldBytes x

/-- The point with the given `x` whose `y` has the given parity. -/
def decompress (c : Curve) (x : Nat) (odd : Bool) : Option Point :=
  if x < c.prime then
    match Modular.sqrt? c.prime (c.rhs x) with
    | some y => some (.affine x (if (y % 2 == 1) == odd then y else (c.prime - y) % c.prime))
    | none => none
  else none

/-- The point with the smaller `y` of two opposite points. -/
def smaller (c : Curve) : Point → Point
  | .infinity => .infinity
  | .affine x y => .affine x (min y ((c.prime - y) % c.prime))

/-- The point with coordinates that an encoding stands for. The tag tells the form: uncompressed,
compressed with even or odd `y`, or compact, which means the smaller `y`. -/
def decode (c : Curve) : Bytes → Option Point
  | [] => none
  | tag :: rest =>
    let x := Bytes.toNat (rest.take c.fieldSize)
    if tag = 0x04 then
      let y := Bytes.toNat (rest.drop c.fieldSize)
      if rest.length = 2 * c.fieldSize ∧ c.contains x y then some (.affine x y) else none
    else if rest.length = c.fieldSize then
      if tag = 0x02 then c.decompress x false
      else if tag = 0x03 then c.decompress x true
      else if tag = 0x05 then (c.decompress x false).map c.smaller
      else none
    else none

/-- The first coordinate as bytes; zeros for the point at infinity. -/
def firstCoordinate (c : Curve) : Point → Bytes
  | .infinity => c.fieldBytes 0
  | .affine x _ => c.fieldBytes x

end Curve

end DeviceSecurity
