import DeviceSecurity.Proofs.Curve.Modular
import DeviceSecurity.Proofs.Curve.Primes
import Mathlib.AlgebraicGeometry.EllipticCurve.Affine.Point

/-!
# The group of a curve

The points that the arithmetic of a curve works on are those of the curve over the prime field, and
the arithmetic is the group law: `ofGroup` writes an element of the group with coordinates that are
residues, and `add`, `double` and `mul` commute with it.
-/

open WeierstrassCurve

namespace DeviceSecurity.Curve

variable (c : Curve)

/-- The curve `y² = x³ - 3x + b` over the prime field. -/
abbrev weierstrass : WeierstrassCurve.Affine (ZMod c.prime) := ⟨0, 0, 0, -3, c.coefficient⟩

/-- The point whose coordinates are those of an element of the group, as residues. -/
def ofGroup : c.weierstrass.Point → Point
  | .zero => .infinity
  | .some x y _ => .affine x.val y.val

theorem ofGroup_zero : c.ofGroup 0 = .infinity := rfl

variable {c}

theorem discriminant_ne_zero : c.weierstrass.Δ ≠ 0 := by
  have hΔ : c.weierstrass.Δ =
      ((432 * (4 + (c.prime - 1) * c.coefficient ^ 2) : ℕ) : ZMod c.prime) := by
    have hpred : ((c.prime - 1 : ℕ) : ZMod c.prime) = -1 := by
      rw [Nat.cast_sub c.prime_prime.one_le, ZMod.natCast_self, Nat.cast_one, zero_sub]
    simp only [WeierstrassCurve.Δ, WeierstrassCurve.b₂, WeierstrassCurve.b₄, WeierstrassCurve.b₆,
      WeierstrassCurve.b₈, Nat.cast_mul, Nat.cast_add, Nat.cast_pow, hpred]
    push_cast
    ring
  rw [hΔ, ne_eq, ZMod.natCast_eq_zero_iff]
  cases c <;> decide +kernel

/-! ## Residues -/

theorem val_le (x : ZMod c.prime) : x.val ≤ c.prime := (ZMod.val_lt x).le

/-- A residue is the value of what it is congruent to. -/
theorem eq_val_of_cast {a : ℕ} {x : ZMod c.prime} (hlt : a < c.prime)
    (h : (a : ZMod c.prime) = x) : a = x.val := by
  rw [← h, ZMod.val_natCast_of_lt hlt]

theorem sub_lt (a b : ℕ) : Modular.sub c.prime a b < c.prime := Nat.mod_lt _ c.prime_prime.pos

/-- Nothing but zero is its own negative. -/
theorem eq_neg_self_iff {y : ZMod c.prime} : y = -y ↔ y = 0 := by
  have htwo : (2 : ZMod c.prime) ≠ 0 := by
    have hcast : ((2 : ℕ) : ZMod c.prime) ≠ 0 := by
      rw [ne_eq, ZMod.natCast_eq_zero_iff]
      cases c <;> decide +kernel
    exact_mod_cast hcast
  rw [eq_neg_iff_add_eq_zero, ← two_mul, mul_eq_zero, or_iff_right htwo]

/-! ## The equation -/

theorem cast_rhs (x : ℕ) :
    ((c.rhs x : ℕ) : ZMod c.prime) = (x : ZMod c.prime) ^ 3 - 3 * x + c.coefficient := by
  have hthree : 3 ≤ c.prime := by cases c <;> decide +kernel
  rw [rhs, ZMod.natCast_mod, Nat.cast_add, Nat.cast_add, Nat.cast_mul, Nat.cast_mul,
    Nat.cast_sub hthree, ZMod.natCast_mod, ZMod.natCast_self]
  push_cast
  ring

/-- What is compared as numbers is the equation in the field. -/
theorem sq_eq_iff {x y : ℕ} : (y : ZMod c.prime) ^ 2 = (x : ZMod c.prime) ^ 3 - 3 * x +
    c.coefficient ↔ y * y % c.prime = c.rhs x := by
  have hrhs : c.rhs x % c.prime = c.rhs x := Nat.mod_mod _ _
  rw [← cast_rhs, sq, ← Nat.cast_mul, ZMod.natCast_eq_natCast_iff', hrhs]

theorem equation_iff {x y : ℕ} :
    c.weierstrass.Equation (x : ZMod c.prime) y ↔ y * y % c.prime = c.rhs x := by
  rw [← sq_eq_iff, Affine.equation_iff]
  constructor <;> intro h <;> linear_combination h

/-- The pairs that a curve contains are the coordinates of the elements of its group. -/
theorem contains_iff {x y : ℕ} :
    c.contains x y = true ↔ ∃ P : c.weierstrass.Point, c.ofGroup P = .affine x y := by
  simp only [contains, Bool.and_eq_true, decide_eq_true_eq, beq_iff_eq]
  constructor
  · rintro ⟨⟨hx, hy⟩, h⟩
    have hnonsingular := (Affine.equation_iff_nonsingular_of_Δ_ne_zero
      discriminant_ne_zero).mp (equation_iff.mpr h)
    refine ⟨.some _ _ hnonsingular, ?_⟩
    rw [ofGroup, ZMod.val_natCast_of_lt hx, ZMod.val_natCast_of_lt hy]
  · rintro ⟨P, hP⟩
    cases P with
    | zero => cases hP
    | some u v h =>
      obtain ⟨rfl, rfl⟩ : u.val = x ∧ v.val = y := by simpa [ofGroup] using hP
      refine ⟨⟨ZMod.val_lt u, ZMod.val_lt v⟩, equation_iff.mp ?_⟩
      rw [ZMod.natCast_zmod_val, ZMod.natCast_zmod_val]
      exact h.1

/-! ## The group law -/

/-- The line with the slope of two points meets the curve in their sum, reflected. -/
theorem chord_eq {x₁ y₁ x₂ y₂ : ZMod c.prime} {h₁ : c.weierstrass.Nonsingular x₁ y₁}
    {h₂ : c.weierstrass.Nonsingular x₂ y₂} (hxy : ¬(x₁ = x₂ ∧ y₁ = c.weierstrass.negY x₂ y₂))
    {slope : ℕ} (hslope : (slope : ZMod c.prime) = c.weierstrass.slope x₁ x₂ y₁ y₂) :
    c.chord slope x₁.val y₁.val x₂.val = c.ofGroup (.some x₁ y₁ h₁ + .some x₂ y₂ h₂) := by
  rw [Affine.Point.add_some hxy]
  generalize hx : (slope * slope + 2 * c.prime - x₁.val - x₂.val) % c.prime = x
  have hxlt : x < c.prime := hx ▸ Nat.mod_lt _ c.prime_prime.pos
  have hxcast : (x : ZMod c.prime) =
      c.weierstrass.addX x₁ x₂ (c.weierstrass.slope x₁ x₂ y₁ y₂) := by
    have hle₁ := val_le x₁
    have hle₂ := val_le x₂
    rw [← hx, ZMod.natCast_mod, Nat.cast_sub (by omega), Nat.cast_sub (by omega)]
    simp only [Nat.cast_add, Nat.cast_mul, ZMod.natCast_self, ZMod.natCast_val, ZMod.cast_id', id,
      hslope, Affine.addX]
    ring
  have hxval := eq_val_of_cast hxlt hxcast
  have hyval : Modular.sub c.prime (slope * Modular.sub c.prime x₁.val x % c.prime) y₁.val =
      (c.weierstrass.addY x₁ x₂ y₁ (c.weierstrass.slope x₁ x₂ y₁ y₂)).val := by
    refine eq_val_of_cast (sub_lt _ _) ?_
    rw [Modular.cast_sub ((val_le y₁).trans (Nat.le_add_left _ _)), ZMod.natCast_mod, Nat.cast_mul,
      Modular.cast_sub (hxlt.le.trans (Nat.le_add_left _ _)), hxcast, hslope]
    simp only [ZMod.natCast_val, ZMod.cast_id', id, Affine.addY, Affine.negAddY, Affine.negY]
    ring
  rw [chord, hx, hyval, hxval]
  rfl

theorem double_ofGroup (P : c.weierstrass.Point) : c.double (c.ofGroup P) = c.ofGroup (P + P) := by
  cases P with
  | zero => rfl
  | some x y h =>
    show (if y.val = 0 then Point.infinity else _) = _
    have hneg : c.weierstrass.negY x y = -y := by simp
    by_cases hy : y = 0
    · have hself : y = c.weierstrass.negY x y := by rw [hneg, hy, neg_zero]
      rw [Affine.Point.add_self_of_Y_eq hself, if_pos ((ZMod.val_eq_zero y).mpr hy)]
      rfl
    · have hne : y ≠ c.weierstrass.negY x y := by rwa [hneg, ne_eq, eq_neg_self_iff]
      have hcast : ((2 * y.val : ℕ) : ZMod c.prime) = y - c.weierstrass.negY x y := by
        rw [hneg, Nat.cast_mul, ZMod.natCast_val, ZMod.cast_id', id]
        push_cast
        ring
      have htwice : ((2 * y.val : ℕ) : ZMod c.prime) ≠ 0 := by rwa [hcast, sub_ne_zero]
      rw [if_neg (mt (ZMod.val_eq_zero y).mp hy)]
      refine chord_eq (fun hxy => hne hxy.2) ?_
      rw [Affine.slope_of_Y_ne rfl hne, ← hcast, div_eq_mul_inv, ← Modular.cast_inverse htwice,
        ZMod.natCast_mod, Nat.cast_mul, ZMod.natCast_mod, Nat.cast_mul,
        Nat.cast_sub (c.prime_prime.one_le.trans (Nat.le_add_left _ _))]
      simp only [Nat.cast_add, Nat.cast_mul, Nat.cast_one, Nat.cast_ofNat, ZMod.natCast_self,
        ZMod.natCast_val, ZMod.cast_id', id]
      ring

/-- Elements with the same first coordinate are equal or opposite. -/
theorem eq_or_eq_neg {x y₁ y₂ : ZMod c.prime} (h₁ : c.weierstrass.Nonsingular x y₁)
    (h₂ : c.weierstrass.Nonsingular x y₂) : y₁ = y₂ ∨ y₁ = c.weierstrass.negY x y₂ :=
  Affine.Y_eq_of_X_eq h₁.1 h₂.1 rfl

theorem add_ofGroup (P Q : c.weierstrass.Point) :
    c.add (c.ofGroup P) (c.ofGroup Q) = c.ofGroup (P + Q) := by
  cases P with
  | zero => rw [← Affine.Point.zero_def, zero_add]; rfl
  | some x₁ y₁ h₁ =>
    cases Q with
    | zero => rw [← Affine.Point.zero_def, add_zero]; rfl
    | some x₂ y₂ h₂ =>
      show (if x₁.val = x₂.val then
        if y₁.val = y₂.val then c.double (.affine x₁.val y₁.val) else Point.infinity else _) = _
      by_cases hx : x₁ = x₂
      · subst hx
        rw [if_pos rfl]
        by_cases hy : y₁ = y₂
        · subst hy
          rw [if_pos rfl]
          exact double_ofGroup (.some x₁ y₁ h₁)
        · have hopposite := (eq_or_eq_neg h₁ h₂).resolve_left hy
          rw [if_neg fun h => hy (ZMod.val_injective _ h), Affine.Point.add_of_Y_eq rfl hopposite]
          rfl
      · have hrun : ((Modular.sub c.prime x₂.val x₁.val : ℕ) : ZMod c.prime) = x₂ - x₁ := by
          rw [Modular.cast_sub ((val_le x₁).trans (Nat.le_add_left _ _))]
          simp
        have hrise : ((Modular.sub c.prime y₂.val y₁.val : ℕ) : ZMod c.prime) = y₂ - y₁ := by
          rw [Modular.cast_sub ((val_le y₁).trans (Nat.le_add_left _ _))]
          simp
        rw [if_neg fun h => hx (ZMod.val_injective _ h)]
        refine chord_eq (fun hxy => hx hxy.1) ?_
        have hne : ((Modular.sub c.prime x₂.val x₁.val : ℕ) : ZMod c.prime) ≠ 0 := by
          rw [hrun]
          exact sub_ne_zero.mpr (Ne.symm hx)
        rw [Affine.slope_of_X_ne hx, ZMod.natCast_mod, Nat.cast_mul, Modular.cast_inverse hne, hrun,
          hrise, ← div_eq_mul_inv, ← neg_sub y₁, ← neg_sub x₁, neg_div_neg_eq]

/-- Doubling and adding computes the multiple. -/
theorem mulBits_ofGroup (k n : ℕ) (P A : c.weierstrass.Point) :
    c.mulBits k (c.ofGroup P) n (c.ofGroup A) = c.ofGroup (2 ^ n • A + (k % 2 ^ n) • P) := by
  induction n generalizing A with
  | zero => simp [mulBits, Nat.mod_one]
  | succ n ih =>
    have hsum : 2 ^ (n + 1) • A + (k % 2 ^ (n + 1)) • P =
        2 ^ n • (A + A + (k.testBit n).toNat • P) + (k % 2 ^ n) • P := by
      rw [Modular.mod_two_pow_succ, pow_succ, mul_nsmul', two_nsmul, add_nsmul, mul_nsmul',
        ← add_assoc, ← nsmul_add]
    rw [hsum, mulBits, double_ofGroup]
    cases k.testBit n with
    | false => rw [if_neg Bool.false_ne_true, ih, Bool.toNat_false, zero_nsmul, add_zero]
    | true => rw [if_pos rfl, add_ofGroup, ih, Bool.toNat_true, one_nsmul]

theorem mul_ofGroup (k : ℕ) (P : c.weierstrass.Point) :
    c.mul k (c.ofGroup P) = c.ofGroup (k • P) := by
  have hk : k % 2 ^ (k.log2 + 1) = k := Nat.mod_eq_of_lt Nat.lt_log2_self
  rw [mul, ← ofGroup_zero, mulBits_ofGroup, nsmul_zero, zero_add, hk]

end DeviceSecurity.Curve
