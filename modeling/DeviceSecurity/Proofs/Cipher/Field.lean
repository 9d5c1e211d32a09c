import DeviceSecurity.Proofs.Cipher.Polynomial
import Mathlib.FieldTheory.Finite.Extension

/-!
# The field that tags are computed in

The polynomial `x^128 + x^7 + x^2 + x + 1` is irreducible (`irreducible_modulus`), which Rabin's
test shows with the multiplication of blocks itself: squaring takes `x` back to itself after 128
times, and what 64 times make of it differs from `x` by an invertible block. So the residues are a
field, and multiplying by a block other than zero keeps different blocks apart
(`mul_right_cancel`).
-/

namespace DeviceSecurity.Gcm

open Polynomial

/-! ## Squares -/

/-- A block times itself. -/
def square (v : Block) : Block := mul v v

/-- The block of the power `x^(2^64)`. -/
def halfway : Block := 0x6f9945a9e519a7229d4c1ad657f8a686#128

theorem iterate_square_power : square^[64] (power 1) = halfway := by decide +kernel

theorem iterate_square_halfway : square^[64] halfway = power 1 := by decide +kernel

theorem value_power_one : value (power 1) = AdjoinRoot.root modulus := by
  rw [value_power (by omega), pow_one]

theorem value_iterate_square (n : ℕ) :
    value (square^[n] (power 1)) = AdjoinRoot.root modulus ^ 2 ^ n := by
  induction n with
  | zero => simp [value_power_one]
  | succ n ih => rw [Function.iterate_succ_apply', square, value_mul, ih, ← sq, ← pow_mul, pow_succ]

/-! ## Rabin's test

The exponents stay variables in these lemmas: the powers themselves have too many factors to be
compared by unfolding them. -/

theorem modulus_dvd_of_iterate_square {n : ℕ} (h : square^[n] (power 1) = power 1) :
    modulus ∣ X ^ 2 ^ n - X := by
  have hroot : AdjoinRoot.root modulus ^ 2 ^ n = AdjoinRoot.root modulus := by
    rw [← value_iterate_square, h, value_power_one]
  rw [← AdjoinRoot.mk_eq_zero, map_sub, map_pow, AdjoinRoot.mk_X, hroot, sub_self]

theorem isCoprime_of_iterate_square {n : ℕ} {v : Block}
    (h : mul v (square^[n] (power 1) ^^^ power 1) = power 0) :
    IsCoprime modulus (X ^ 2 ^ n - X) := by
  have hone : AdjoinRoot.mk modulus (poly v * (X ^ 2 ^ n + X)) = 1 :=
    calc AdjoinRoot.mk modulus (poly v * (X ^ 2 ^ n + X))
        = value v * (value (square^[n] (power 1)) + value (power 1)) := by
          rw [value_iterate_square, value_power_one, map_mul, map_add, map_pow, AdjoinRoot.mk_X,
            value]
      _ = 1 := by rw [← value_xor, ← value_mul, h, value_power (by omega), pow_zero]
  rw [← sub_eq_zero, ← map_one (AdjoinRoot.mk modulus), ← map_sub, AdjoinRoot.mk_eq_zero] at hone
  obtain ⟨q, hq⟩ := hone
  refine ⟨-q, poly v, ?_⟩
  rw [CharTwo.sub_eq_add]
  linear_combination hq

theorem modulus_dvd : modulus ∣ X ^ 2 ^ 128 - X := by
  have hfull : square^[64 + 64] (power 1) = power 1 := by
    rw [Function.iterate_add_apply, iterate_square_power, iterate_square_halfway]
  exact modulus_dvd_of_iterate_square hfull

theorem isCoprime_modulus : IsCoprime modulus (X ^ 2 ^ 64 - X) := by
  have hinverse : mul 0x180da934bf53158251c13dbb149f5279#128 (halfway ^^^ power 1) = power 0 := by
    decide +kernel
  rw [← iterate_square_power] at hinverse
  exact isCoprime_of_iterate_square hinverse

/-- A factor of the modulus has a degree that divides 128 but, as no power below `2^128` will do,
not 64. -/
theorem natDegree_of_dvd_modulus {f : (ZMod 2)[X]} (hf : Irreducible f) (hdvd : f ∣ modulus) :
    f.natDegree = 128 := by
  have hlong : f.natDegree ∣ 128 := by
    rw [hf.natDegree_dvd_iff_dvd_X_pow_card_pow_sub_X, Nat.card_zmod]
    exact hdvd.trans modulus_dvd
  have hshort : ¬ f.natDegree ∣ 64 := by
    rw [hf.natDegree_dvd_iff_dvd_X_pow_card_pow_sub_X, Nat.card_zmod]
    exact fun h => hf.not_isUnit (isCoprime_modulus.isUnit_of_dvd' hdvd h)
  rw [show 128 = 2 ^ 7 from rfl, Nat.dvd_prime_pow Nat.prime_two] at hlong
  obtain ⟨k, hk, hdegree⟩ := hlong
  -- of the divisors of 128 only 128 itself does not divide 64
  have hseven : k = 7 := by
    by_contra hne
    have hsix : f.natDegree ∣ 2 ^ 6 := hdegree ▸ pow_dvd_pow 2 (by omega)
    exact hshort hsix
  rw [hdegree, hseven]
  rfl

theorem irreducible_modulus : Irreducible modulus := by
  have hpositive : 0 < modulus.natDegree := by
    rw [natDegree_modulus]
    omega
  obtain ⟨f, hf, hdvd⟩ := exists_irreducible_of_natDegree_pos hpositive
  refine (associated_of_dvd_of_natDegree_le hdvd monic_modulus.ne_zero ?_).irreducible hf
  rw [natDegree_modulus, natDegree_of_dvd_modulus hf hdvd]

instance : Fact (Irreducible modulus) := ⟨irreducible_modulus⟩

/-! ## Cancellation -/

theorem value_eq_zero {v : Block} : value v = 0 ↔ v = 0 := by
  rw [← value_zero, value_injective.eq_iff]

theorem mul_zero_right (y : Block) : mul y 0 = 0 := by
  rw [← value_eq_zero, value_mul, value_zero, mul_zero]

theorem mul_right_cancel {h y y' : Block} (hh : h ≠ 0) (heq : mul y h = mul y' h) : y = y' := by
  have hvalue := congrArg value heq
  rw [value_mul, value_mul] at hvalue
  exact value_injective (mul_right_cancel₀ (mt value_eq_zero.mp hh) hvalue)

end DeviceSecurity.Gcm
