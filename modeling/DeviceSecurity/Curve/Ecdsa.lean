import DeviceSecurity.Curve.Point

/-!
# ECDSA signatures

A signature over a digest is a pair of numbers below the order of the generator. It is valid for a
public point when the sum of multiples of generator and point that the numbers determine has the
first number as its first coordinate, modulo the order.
-/

namespace DeviceSecurity

/-- A signature. -/
structure EcdsaSignature where
  r : Nat
  s : Nat
deriving DecidableEq, Repr

namespace EcdsaSignature

/-- The number that a digest stands for: its leading bits, as many as the order has. -/
def digestNumber (c : Curve) (digest : Bytes) : Nat :=
  let excess := 8 * digest.length - (c.order.log2 + 1)
  Bytes.toNat digest / Nat.pow 2 excess

/-- Whether a signature over a digest is valid for a public point. -/
def isValid (c : Curve) (key : Point) (digest : Bytes) (signature : EcdsaSignature) : Bool :=
  let n := c.order
  if signature.r = 0 ∨ n ≤ signature.r ∨ signature.s = 0 ∨ n ≤ signature.s then false
  else
    let w := Modular.inverse n signature.s
    let u₁ := digestNumber c digest * w % n
    let u₂ := signature.r * w % n
    match c.mulAdd u₁ c.generator u₂ key with
    | .infinity => false
    | .affine x _ => x % n == signature.r

end EcdsaSignature

end DeviceSecurity
