import DeviceSecurity.Cipher.Gcm
import Mathlib.RingTheory.AdjoinRoot
import Mathlib.Algebra.Field.ZMod
import Mathlib.Tactic.ComputeDegree
import Mathlib.Tactic.LinearCombination

/-!
# Blocks as polynomials

A block spells a polynomial over the field of two elements, its most significant bit the constant
term (`poly`). Its residue modulo `x^128 + x^7 + x^2 + x + 1` determines the block (`value`), and
of the operations on blocks exclusive or is the addition of residues and `mul` their
multiplication (`value_xor`, `value_mul`). Both polynomials are irreducible definitions: of their
128 terms nothing should ever be compared by unfolding.
-/

namespace DeviceSecurity.Gcm

open Polynomial

/-! ## Polynomials -/

/-- The coefficient that a bit stands for. -/
def coefficient (bit : Bool) : ZMod 2 := if bit then 1 else 0

theorem coefficient_xor (a b : Bool) :
    coefficient (a ^^ b) = coefficient a + coefficient b := by
  cases a <;> cases b <;> decide

theorem coefficient_injective : Function.Injective coefficient := by decide

/-- The lowest `n` bits of a block as a polynomial, the highest of them the constant term. -/
noncomputable def lowPoly (v : Block) : (n : ℕ) → (ZMod 2)[X]
  | 0 => 0
  | n + 1 => C (coefficient (v.getLsbD n)) + X * lowPoly v n

/-- The bits of a block as a polynomial, the most significant one the constant term. -/
@[irreducible]
noncomputable def poly (v : Block) : (ZMod 2)[X] := lowPoly v 128

theorem coeff_lowPoly (v : Block) (n i : ℕ) :
    (lowPoly v n).coeff i = coefficient (decide (i < n) && v.getLsbD (n - 1 - i)) := by
  induction n generalizing i with
  | zero => simp [lowPoly, coefficient]
  | succ n ih =>
    cases i with
    | zero => simp [lowPoly]
    | succ i =>
      rw [lowPoly, coeff_add, coeff_C_succ, zero_add, coeff_X_mul, ih]
      congr 3
      · simp
      · omega

theorem coeff_poly (v : Block) (i : ℕ) : (poly v).coeff i = coefficient (v.getMsbD i) := by
  unfold poly BitVec.getMsbD
  exact coeff_lowPoly v 128 i

theorem poly_xor (v w : Block) : poly (v ^^^ w) = poly v + poly w := by
  ext i
  rw [coeff_add, coeff_poly, coeff_poly, coeff_poly, BitVec.getMsbD_xor, coefficient_xor]

theorem poly_injective : Function.Injective poly := by
  intro v w h
  refine BitVec.eq_of_getMsbD_eq fun i _ => coefficient_injective ?_
  rw [← coeff_poly, ← coeff_poly, h]

/-- The block of the power `x^k`. -/
def power (k : ℕ) : Block := BitVec.twoPow 128 (127 - k)

theorem poly_power {k : ℕ} (hk : k < 128) : poly (power k) = X ^ k := by
  ext i
  rw [coeff_poly, power, BitVec.getMsbD_twoPow, coeff_X_pow]
  have hposition : 128 - (127 - k) - 1 = k := by omega
  simp [coefficient, hposition, show 127 - k < 128 by omega]

/-- A shift loses the coefficient of the highest power. -/
theorem X_mul_poly (v : Block) :
    X * poly v = poly (v >>> 1) + C (coefficient (v.getLsbD 0)) * X ^ 128 := by
  ext i
  rw [coeff_add, coeff_C_mul_X_pow, coeff_poly, BitVec.getMsbD_ushiftRight]
  cases i with
  | zero => simp [coefficient]
  | succ i =>
    rw [coeff_X_mul, coeff_poly]
    by_cases hlast : i + 1 = 128
    · obtain rfl : i = 127 := by omega
      simp [BitVec.getMsbD, coefficient]
    · rw [if_neg hlast, add_zero]
      by_cases hi : i + 1 < 128
      · simp [hi]
      · rw [BitVec.getMsbD_of_ge v i (by omega)]
        simp [hi]

/-! ## Residues -/

/-- The polynomial that products are reduced by. -/
@[irreducible]
noncomputable def modulus : (ZMod 2)[X] := X ^ 128 + X ^ 7 + X ^ 2 + X + 1

theorem monic_modulus : modulus.Monic := by
  unfold modulus
  monicity!

theorem natDegree_modulus : modulus.natDegree = 128 := by
  unfold modulus
  compute_degree!

theorem degree_poly_lt (v : Block) : (poly v).degree < modulus.degree := by
  rw [degree_eq_natDegree monic_modulus.ne_zero, natDegree_modulus]
  refine (degree_lt_iff_coeff_zero _ 128).mpr fun i hi => ?_
  rw [coeff_poly, BitVec.getMsbD_of_ge v i hi]
  rfl

theorem poly_reduction : poly reduction = X ^ 7 + X ^ 2 + X + 1 := by
  have hbits : reduction = power 7 ^^^ power 2 ^^^ power 1 ^^^ power 0 := by decide
  rw [hbits, poly_xor, poly_xor, poly_xor, poly_power (by omega), poly_power (by omega),
    poly_power (by omega), poly_power (by omega), pow_one, pow_zero]

theorem modulus_eq : modulus = X ^ 128 + poly reduction := by
  unfold modulus
  rw [poly_reduction, add_assoc, add_assoc, add_assoc, add_assoc, add_assoc]

/-- The product with `x`, before and after its reduction. -/
theorem X_mul_poly_eq (v : Block) :
    X * poly v = poly (timesX v) + C (coefficient (v.getLsbD 0)) * modulus := by
  rw [X_mul_poly, timesX]
  cases v.getLsbD 0 with
  | false => simp [coefficient]
  | true =>
    rw [if_pos rfl, poly_xor, modulus_eq, coefficient, if_pos rfl, C_1]
    generalize poly reduction = tail
    linear_combination -CharTwo.add_self_eq_zero tail

/-- The residue that a block stands for. -/
noncomputable def value (v : Block) : AdjoinRoot modulus := AdjoinRoot.mk modulus (poly v)

theorem value_xor (v w : Block) : value (v ^^^ w) = value v + value w := by
  rw [value, poly_xor, map_add, value, value]

theorem value_power {k : ℕ} (hk : k < 128) :
    value (power k) = AdjoinRoot.root modulus ^ k := by
  rw [value, poly_power hk, map_pow, AdjoinRoot.mk_X]

@[simp] theorem value_zero : value 0 = 0 := by
  have h := value_xor 0 0
  rw [BitVec.xor_self] at h
  exact left_eq_add.mp h

theorem value_injective : Function.Injective value := by
  intro v w h
  have hsum : value (v ^^^ w) = 0 := by
    rw [value_xor, h, ← value_xor, BitVec.xor_self]
    exact value_zero
  have hdvd : modulus ∣ poly (v ^^^ w) := AdjoinRoot.mk_eq_zero.mp hsum
  have hzero := eq_zero_of_dvd_of_degree_lt hdvd (degree_poly_lt (v ^^^ w))
  rw [poly_xor] at hzero
  exact poly_injective (CharTwo.add_eq_zero.mp hzero)

theorem value_timesX (v : Block) : value (timesX v) = AdjoinRoot.root modulus * value v := by
  have h := congrArg (AdjoinRoot.mk modulus) (X_mul_poly_eq v)
  rw [map_add, map_mul, map_mul, AdjoinRoot.mk_X, AdjoinRoot.mk_self, mul_zero, add_zero] at h
  exact h.symm

/-- What `mulBits` adds is the product with the bits it has not yet read. -/
theorem value_mulBits (x : Block) (n : ℕ) (v z : Block) :
    value (mulBits x n v z) = value z + AdjoinRoot.mk modulus (lowPoly x n) * value v := by
  induction n generalizing v z with
  | zero => simp [mulBits, lowPoly]
  | succ n ih =>
    have hbit : value (if x.getLsbD n then z ^^^ v else z) =
        value z + AdjoinRoot.mk modulus (C (coefficient (x.getLsbD n))) * value v := by
      cases x.getLsbD n with
      | false => simp [coefficient]
      | true => simp [coefficient, value_xor]
    rw [mulBits, ih, hbit, value_timesX, lowPoly, map_add, map_mul, AdjoinRoot.mk_X]
    ring

/-- Blocks are multiplied as residues are. -/
theorem value_mul (x y : Block) : value (mul x y) = value x * value y := by
  rw [mul, value_mulBits, value_zero, zero_add]
  unfold value poly
  rfl

end DeviceSecurity.Gcm
