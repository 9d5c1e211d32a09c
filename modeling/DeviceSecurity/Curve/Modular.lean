/-!
# Arithmetic modulo a prime

Powers, inverses and square roots of residues, which are natural numbers below the modulus. Each
function is a loop over the bits of an exponent or over the steps of Euclid's algorithm.
-/

namespace DeviceSecurity.Modular

/-- The difference of two residues. -/
def sub (p a b : Nat) : Nat := (a + p - b) % p

/-- `b` to the exponent whose bits below `n` are those of `e`, times `acc` squared `n` times. -/
def powBits (p b e : Nat) : (n : Nat) → (acc : Nat) → Nat
  | 0, acc => acc
  | n + 1, acc =>
    let square := acc * acc % p
    powBits p b e n (if e.testBit n then square * b % p else square)

/-- The power `b ^ e` modulo `p`. -/
def pow (p b e : Nat) : Nat := powBits p b e (e.log2 + 1) (1 % p)

/-- Euclid's algorithm on the remainders `r₀` and `r₁`, with the multiples of the argument that
they are congruent to; at most `steps` steps. The result is the multiple for the last remainder
before zero. -/
def euclid : (steps : Nat) → (r₀ r₁ : Nat) → (t₀ t₁ : Int) → Int
  | 0, _, _, t₀, _ => t₀
  | steps + 1, r₀, r₁, t₀, t₁ =>
    if r₁ = 0 then t₀
    else euclid steps r₁ (r₀ % r₁) t₁ (t₀ - ↑(r₀ / r₁) * t₁)

/-- The inverse of a residue prime to `p`. -/
def inverse (p a : Nat) : Nat :=
  ((euclid (2 * (p.log2 + 2)) p (a % p) 0 1) % (p : Int)).toNat

/-- A square root modulo a prime that leaves 3 modulo 4, if there is one. -/
def sqrt? (p a : Nat) : Option Nat :=
  let root := pow p a ((p + 1) / 4)
  if root * root % p = a % p then some root else none

end DeviceSecurity.Modular
