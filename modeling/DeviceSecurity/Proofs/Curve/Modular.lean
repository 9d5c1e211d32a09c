import DeviceSecurity.Curve.Modular
import Mathlib.FieldTheory.Finite.Basic
import Mathlib.Tactic.LinearCombination

/-!
# Residues in the field

The arithmetic of residues is that of `ZMod p`: differences and powers for any modulus, inverses for
a prime one. Euclid's algorithm halves the product of its two remainders with every step, so that
its steps suffice. Square roots are found for all squares modulo a prime that leaves 3 modulo 4.
-/

namespace DeviceSecurity.Modular

variable {p : ℕ}

theorem cast_sub {a b : ℕ} (h : b ≤ a + p) : ((sub p a b : ℕ) : ZMod p) = a - b := by
  rw [sub, ZMod.natCast_mod, Nat.cast_sub h, Nat.cast_add, ZMod.natCast_self, add_zero]

/-! ## Powers -/

theorem mod_two_pow_succ (e n : ℕ) : e % 2 ^ (n + 1) = 2 ^ n * (e.testBit n).toNat + e % 2 ^ n := by
  rw [Nat.toNat_testBit, Nat.mod_pow_succ, add_comm]

theorem cast_powBits (b e n acc : ℕ) :
    ((powBits p b e n acc : ℕ) : ZMod p) = (acc : ZMod p) ^ 2 ^ n * (b : ZMod p) ^ (e % 2 ^ n) := by
  induction n generalizing acc with
  | zero => simp [powBits, Nat.mod_one]
  | succ n ih =>
    rw [powBits, ih, mod_two_pow_succ, pow_add, pow_succ, pow_mul']
    cases e.testBit n
    · simp [ZMod.natCast_mod, sq]
    · simp [ZMod.natCast_mod, sq, mul_pow, mul_assoc, pow_add]

/-- Squaring and multiplying computes the power. -/
theorem cast_pow (b e : ℕ) : ((pow p b e : ℕ) : ZMod p) = (b : ZMod p) ^ e := by
  have he : e % 2 ^ (e.log2 + 1) = e := Nat.mod_eq_of_lt Nat.lt_log2_self
  rw [pow, cast_powBits, he, ZMod.natCast_mod, Nat.cast_one, one_pow, one_mul]

theorem powBits_lt (hp : 0 < p) (b e n : ℕ) {acc : ℕ} (hacc : acc < p) :
    powBits p b e n acc < p := by
  induction n generalizing acc with
  | zero => exact hacc
  | succ n ih =>
    rw [powBits]
    split_ifs
    · exact ih (Nat.mod_lt _ hp)
    · exact ih (Nat.mod_lt _ hp)

theorem pow_lt (hp : 0 < p) (b e : ℕ) : pow p b e < p := powBits_lt hp b e _ (Nat.mod_lt 1 hp)

/-! ## Inverses -/

/-- With enough steps Euclid's algorithm finds the multiple that is the greatest common divisor of
its remainders. -/
theorem cast_euclid (a : ZMod p) {steps r₀ r₁ : ℕ} {t₀ t₁ : ℤ} (hlt : r₁ < r₀)
    (hsteps : r₀ * r₁ < 2 ^ steps) (h₀ : (r₀ : ZMod p) = t₀ * a) (h₁ : (r₁ : ZMod p) = t₁ * a) :
    (euclid steps r₀ r₁ t₀ t₁ : ZMod p) * a = (Nat.gcd r₀ r₁ : ℕ) := by
  induction steps generalizing r₀ r₁ t₀ t₁ with
  | zero =>
    have hzero : r₁ = 0 := by
      rcases Nat.mul_eq_zero.mp (Nat.lt_one_iff.mp hsteps) with h | h <;> omega
    rw [euclid, hzero, Nat.gcd_zero_right, h₀]
  | succ steps ih =>
    rw [euclid]
    split_ifs with hzero
    · rw [hzero, Nat.gcd_zero_right, h₀]
    · have hpos : 0 < r₁ := Nat.pos_of_ne_zero hzero
      have hdiv : r₁ * (r₀ / r₁) + r₀ % r₁ = r₀ := Nat.div_add_mod r₀ r₁
      -- the next remainder is at most half of the one before the last
      have hhalf : 2 * (r₀ % r₁) ≤ r₀ := by
        have hmod : r₀ % r₁ < r₁ := Nat.mod_lt _ hpos
        have hone : r₁ * 1 ≤ r₁ * (r₀ / r₁) :=
          Nat.mul_le_mul_left _ (Nat.div_pos hlt.le hpos)
        omega
      have hproduct : r₁ * (r₀ % r₁) < 2 ^ steps := by
        have := Nat.mul_le_mul_left r₁ hhalf
        rw [pow_succ, mul_comm r₀] at hsteps
        rw [mul_left_comm] at this
        omega
      have hnext : ((r₀ % r₁ : ℕ) : ZMod p) = (t₀ - ↑(r₀ / r₁) * t₁ : ℤ) * a := by
        have hcast := congrArg (Nat.cast (R := ZMod p)) hdiv
        rw [Nat.cast_add, Nat.cast_mul, h₀, h₁] at hcast
        rw [Int.cast_sub, Int.cast_mul, Int.cast_natCast]
        linear_combination hcast
      rw [ih (Nat.mod_lt _ hpos) hproduct h₁ hnext, Nat.gcd_comm r₁, ← Nat.gcd_rec, Nat.gcd_comm]

/-- Modulo a prime every residue but zero has its inverse. -/
theorem cast_inverse [Fact p.Prime] {a : ℕ} (ha : (a : ZMod p) ≠ 0) :
    ((inverse p a : ℕ) : ZMod p) = (a : ZMod p)⁻¹ := by
  have hprime : p.Prime := Fact.out
  have hlt : a % p < p := Nat.mod_lt _ hprime.pos
  have hsteps : p * (a % p) < 2 ^ (2 * (p.log2 + 2)) := by
    have hp : p < 2 ^ (p.log2 + 2) :=
      Nat.lt_log2_self.trans (Nat.pow_lt_pow_right one_lt_two (by omega))
    rw [two_mul, pow_add]
    exact Nat.mul_lt_mul'' hp (hlt.trans hp)
  have hgcd : Nat.gcd p (a % p) = 1 := by
    rw [Nat.gcd_comm, ← Nat.gcd_rec]
    refine (Nat.Prime.coprime_iff_not_dvd hprime).mpr fun hdvd => ha ?_
    exact (ZMod.natCast_eq_zero_iff a p).mpr hdvd
  have heuclid : (euclid (2 * (p.log2 + 2)) p (a % p) 0 1 : ZMod p) * a = (Nat.gcd p (a % p) : ℕ) :=
    cast_euclid (a : ZMod p) hlt hsteps
      (by rw [ZMod.natCast_self, Int.cast_zero, zero_mul])
      (by rw [ZMod.natCast_mod, Int.cast_one, one_mul])
  rw [hgcd, Nat.cast_one] at heuclid
  have hnonneg : (0 : ℤ) ≤ euclid (2 * (p.log2 + 2)) p (a % p) 0 1 % p :=
    Int.emod_nonneg _ (by exact_mod_cast hprime.ne_zero)
  have hcast : ((inverse p a : ℕ) : ZMod p) =
      (euclid (2 * (p.log2 + 2)) p (a % p) 0 1 : ZMod p) := by
    rw [inverse, ← Int.cast_natCast, Int.toNat_of_nonneg hnonneg, ZMod.intCast_mod]
  rw [hcast]
  exact eq_inv_of_mul_eq_one_left heuclid

/-! ## Square roots -/

/-- What is found is a residue, and its square is the argument. -/
theorem of_sqrt?_eq_some (hp : 0 < p) {a root : ℕ} (h : sqrt? p a = some root) :
    root < p ∧ (root : ZMod p) ^ 2 = a := by
  unfold sqrt? at h
  dsimp only at h
  split_ifs at h with hsquare
  obtain rfl := Option.some.inj h
  refine ⟨pow_lt hp _ _, ?_⟩
  rw [sq, ← Nat.cast_mul]
  exact (ZMod.natCast_eq_natCast_iff' _ _ _).mpr hsquare

/-- Modulo a prime that leaves 3 modulo 4 every square has its root found: to the exponent
`(p + 1) / 4` it is the root up to the sign. -/
theorem exists_sqrt? [Fact p.Prime] (hp : p % 4 = 3) {a : ℕ} {y : ZMod p} (h : y ^ 2 = a) :
    ∃ root, sqrt? p a = some root := by
  have hexponent : 2 * ((p + 1) / 4) * 2 = p + 1 := by omega
  have hsquare : ((pow p a ((p + 1) / 4) * pow p a ((p + 1) / 4) : ℕ) : ZMod p) = a := by
    calc ((pow p a ((p + 1) / 4) * pow p a ((p + 1) / 4) : ℕ) : ZMod p)
        = (y ^ (2 * ((p + 1) / 4))) ^ 2 := by rw [Nat.cast_mul, cast_pow, ← h, ← pow_mul, ← sq]
      _ = y ^ p * y := by rw [← pow_mul, hexponent, pow_succ]
      _ = y ^ 2 := by rw [ZMod.pow_card, sq]
      _ = a := h
  exact ⟨_, if_pos ((ZMod.natCast_eq_natCast_iff' _ _ _).mp hsquare)⟩

end DeviceSecurity.Modular
