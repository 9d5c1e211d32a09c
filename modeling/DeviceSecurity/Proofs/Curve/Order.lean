import DeviceSecurity.Proofs.Curve.Group
import Mathlib.GroupTheory.OrderOfElement

/-!
# The order of the generators

No multiple of a generator below its order is the point at infinity. The order times the generator
is computed in Jacobian coordinates, without divisions: as long as the last coordinate is not zero
no step has met a special case of the group law, so that it is enough to look at the last one.
-/

open WeierstrassCurve

namespace DeviceSecurity

/-- A point in Jacobian coordinates: `x / z²` and `y / z³`. -/
structure JacobianPoint where
  x : ℕ
  y : ℕ
  z : ℕ

namespace JacobianPoint

/-- A residue that is the negative of another one. -/
def neg (p a : ℕ) : ℕ := p - a % p

/-- Twice a point. -/
def double (p : ℕ) (t : JacobianPoint) : JacobianPoint :=
  let zz := t.z * t.z % p
  let yy := t.y * t.y % p
  let s := 4 * t.x * yy % p
  let m := 3 * (t.x + zz) * (t.x + neg p zz) % p
  let x := (m * m + 2 * neg p s) % p
  ⟨x, (m * (s + neg p x) + 8 * neg p (yy * yy)) % p, 2 * t.y * t.z % p⟩

/-- The sum of a point and another one in affine coordinates. -/
def addAffine (p : ℕ) (t : JacobianPoint) (x₂ y₂ : ℕ) : JacobianPoint :=
  let zz := t.z * t.z % p
  let h := (x₂ * zz + neg p t.x) % p
  let r := (y₂ * zz * t.z + neg p t.y) % p
  let hh := h * h % p
  let v := t.x * hh % p
  let hhh := hh * h % p
  let x := (r * r + neg p hhh + 2 * neg p v) % p
  ⟨x, (r * (v + neg p x) + neg p (t.y * hhh)) % p, t.z * h % p⟩

/-- The `k`-fold of a point in affine coordinates, for `k` of one bit more than `bits`. -/
def multiple (p x y : ℕ) : (bits k : ℕ) → JacobianPoint
  | 0, _ => ⟨x, y, 1⟩
  | bits + 1, k =>
    let twice := double p (multiple p x y bits (k / 2))
    if k % 2 = 1 then twice.addAffine p x y else twice

/-! ## In the field -/

section Cast

variable {p : ℕ}

theorem cast_double_z (t : JacobianPoint) : ((double p t).z : ZMod p) = 2 * t.y * t.z := by
  simp [double, ZMod.natCast_mod]

variable [NeZero p]

theorem cast_neg (a : ℕ) : ((neg p a : ℕ) : ZMod p) = -a := by
  rw [neg, Nat.cast_sub (Nat.mod_lt _ (NeZero.pos p)).le, ZMod.natCast_self, ZMod.natCast_mod,
    zero_sub]

theorem cast_double_x (t : JacobianPoint) : ((double p t).x : ZMod p) =
    (3 * ((t.x : ZMod p) + t.z ^ 2) * (t.x - t.z ^ 2)) ^ 2 - 8 * t.x * t.y ^ 2 := by
  simp only [double, ZMod.natCast_mod, Nat.cast_add, Nat.cast_mul, Nat.cast_ofNat, cast_neg]
  ring

theorem cast_double_y (t : JacobianPoint) : ((double p t).y : ZMod p) =
    3 * ((t.x : ZMod p) + t.z ^ 2) * (t.x - t.z ^ 2) *
      (4 * t.x * t.y ^ 2 - ((double p t).x : ZMod p)) - 8 * t.y ^ 4 := by
  have hy : (double p t).y = (3 * (t.x + t.z * t.z % p) * (t.x + neg p (t.z * t.z % p)) % p *
      (4 * t.x * (t.y * t.y % p) % p + neg p (double p t).x) +
      8 * neg p (t.y * t.y % p * (t.y * t.y % p))) % p := rfl
  rw [hy]
  simp only [ZMod.natCast_mod, Nat.cast_add, Nat.cast_mul, Nat.cast_ofNat, cast_neg]
  ring

variable (t : JacobianPoint) (x₂ y₂ : ℕ)

theorem cast_addAffine_z : ((addAffine p t x₂ y₂).z : ZMod p) =
    t.z * (x₂ * (t.z : ZMod p) ^ 2 - t.x) := by
  simp only [addAffine, ZMod.natCast_mod, Nat.cast_add, Nat.cast_mul, cast_neg]
  ring

theorem cast_addAffine_x : ((addAffine p t x₂ y₂).x : ZMod p) =
    (y₂ * (t.z : ZMod p) ^ 3 - t.y) ^ 2 - (x₂ * (t.z : ZMod p) ^ 2 - t.x) ^ 3 -
      2 * t.x * (x₂ * (t.z : ZMod p) ^ 2 - t.x) ^ 2 := by
  simp only [addAffine, ZMod.natCast_mod, Nat.cast_add, Nat.cast_mul, Nat.cast_ofNat, cast_neg]
  ring

theorem cast_addAffine_y : ((addAffine p t x₂ y₂).y : ZMod p) =
    (y₂ * (t.z : ZMod p) ^ 3 - t.y) *
      (t.x * (x₂ * (t.z : ZMod p) ^ 2 - t.x) ^ 2 - ((addAffine p t x₂ y₂).x : ZMod p)) -
      t.y * (x₂ * (t.z : ZMod p) ^ 2 - t.x) ^ 3 := by
  have hy : (addAffine p t x₂ y₂).y =
      ((y₂ * (t.z * t.z % p) * t.z + neg p t.y) % p *
        (t.x * ((x₂ * (t.z * t.z % p) + neg p t.x) % p * ((x₂ * (t.z * t.z % p) + neg p t.x) % p) %
          p) % p + neg p (addAffine p t x₂ y₂).x) +
        neg p (t.y * ((x₂ * (t.z * t.z % p) + neg p t.x) % p *
          ((x₂ * (t.z * t.z % p) + neg p t.x) % p) % p *
          ((x₂ * (t.z * t.z % p) + neg p t.x) % p) % p))) % p := rfl
  rw [hy]
  simp only [ZMod.natCast_mod, Nat.cast_add, Nat.cast_mul, cast_neg]
  ring

end Cast

/-! ## Soundness -/

variable {c : Curve}

/-- Unless its last coordinate is zero, a point in Jacobian coordinates is this element of the
group. -/
def Represents (t : JacobianPoint) (P : c.weierstrass.Point) : Prop :=
  (t.z : ZMod c.prime) ≠ 0 → ∃ x y h, P = .some x y h ∧
    (t.x : ZMod c.prime) = x * (t.z : ZMod c.prime) ^ 2 ∧
    (t.y : ZMod c.prime) = y * (t.z : ZMod c.prime) ^ 3

theorem Represents.double {t : JacobianPoint} {P : c.weierstrass.Point} (h : t.Represents P) :
    (double c.prime t).Represents (P + P) := by
  intro hz'
  rw [cast_double_z] at hz'
  have hz : (t.z : ZMod c.prime) ≠ 0 := fun hz => hz' (by rw [hz, mul_zero])
  obtain ⟨x, y, hxy, rfl, hx, hy⟩ := h hz
  have hy0 : y ≠ 0 := by
    rintro rfl
    rw [hy, zero_mul, mul_zero, zero_mul] at hz'
    exact hz' rfl
  have hneg : c.weierstrass.negY x y = -y := by simp
  have hne : y ≠ c.weierstrass.negY x y := by rwa [hneg, ne_eq, Curve.eq_neg_self_iff]
  have hslope : c.weierstrass.slope x x y y * (2 * y) = 3 * x ^ 2 - 3 := by
    rw [Affine.slope_of_Y_ne rfl hne, hneg]
    have htwo : y - -y ≠ 0 := sub_ne_zero.mpr (by rwa [hneg] at hne)
    rw [div_mul_eq_mul_div, div_eq_iff htwo]
    ring
  generalize hℓ : c.weierstrass.slope x x y y = ℓ at hslope
  have htangent : 3 * ((t.x : ZMod c.prime) + t.z ^ 2) * (t.x - t.z ^ 2) = ℓ * (2 * t.y * t.z) := by
    rw [hx, hy]
    linear_combination (-(t.z : ZMod c.prime) ^ 4) * hslope
  have hx' : ((JacobianPoint.double c.prime t).x : ZMod c.prime) =
      c.weierstrass.addX x x ℓ * (2 * t.y * t.z) ^ 2 := by
    rw [cast_double_x, htangent, hx, hy, Affine.addX]
    ring
  refine ⟨_, _, _, Affine.Point.add_self_of_Y_ne hne, ?_, ?_⟩
  · rw [hℓ, cast_double_z, hx']
  · rw [hℓ, cast_double_y, cast_double_z, htangent, hx', hx, hy]
    simp only [Affine.addY, Affine.negAddY, Affine.negY]
    ring

/-- Before a point and another one are added the last coordinate of the sum tells that their first
coordinates differ. -/
theorem Represents.addAffine {t : JacobianPoint} {P : c.weierstrass.Point} (h : t.Represents P)
    {x₂ y₂ : ℕ} (h₂ : c.weierstrass.Nonsingular x₂ y₂) :
    (addAffine c.prime t x₂ y₂).Represents (P + .some x₂ y₂ h₂) := by
  intro hz'
  rw [cast_addAffine_z] at hz'
  have hz : (t.z : ZMod c.prime) ≠ 0 := fun hz => hz' (by rw [hz, zero_mul])
  obtain ⟨x, y, hxy, rfl, hx, hy⟩ := h hz
  have hne : x ≠ x₂ := by
    rintro rfl
    rw [hx, sub_self, mul_zero] at hz'
    exact hz' rfl
  have hslope : c.weierstrass.slope x x₂ y y₂ * (x₂ - x) = y₂ - y := by
    rw [Affine.slope_of_X_ne hne, ← neg_sub x, mul_neg, div_mul_cancel₀ _ (sub_ne_zero.mpr hne),
      neg_sub]
  generalize hℓ : c.weierstrass.slope x x₂ y y₂ = ℓ at hslope
  have hrise : y₂ * (t.z : ZMod c.prime) ^ 3 - t.y =
      ℓ * (t.z * (x₂ * (t.z : ZMod c.prime) ^ 2 - t.x)) := by
    rw [hx, hy]
    linear_combination (-(t.z : ZMod c.prime) ^ 3) * hslope
  have hx' : ((JacobianPoint.addAffine c.prime t x₂ y₂).x : ZMod c.prime) =
      c.weierstrass.addX x x₂ ℓ * (t.z * (x₂ * (t.z : ZMod c.prime) ^ 2 - t.x)) ^ 2 := by
    rw [cast_addAffine_x, hrise, hx, Affine.addX]
    ring
  refine ⟨_, _, _, Affine.Point.add_of_X_ne hne, ?_, ?_⟩
  · rw [hℓ, cast_addAffine_z, hx']
  · rw [hℓ, cast_addAffine_y, cast_addAffine_z, hrise, hx', hx, hy]
    simp only [Affine.addY, Affine.negAddY, Affine.negY]
    ring

theorem represents_multiple {x y : ℕ} (h : c.weierstrass.Nonsingular x y) {bits k : ℕ}
    (hk : k / 2 ^ bits = 1) :
    (multiple c.prime x y bits k).Represents (k • (.some x y h : c.weierstrass.Point)) := by
  induction bits generalizing k with
  | zero =>
    obtain rfl : k = 1 := by simpa using hk
    refine fun _ => ⟨x, y, h, one_nsmul _, ?_, ?_⟩ <;> simp [multiple]
  | succ bits ih =>
    have hhalf : k / 2 / 2 ^ bits = 1 := by rwa [Nat.div_div_eq_div_mul, ← Nat.pow_succ']
    have htwice := (ih hhalf).double
    rw [← two_nsmul, ← mul_nsmul'] at htwice
    rw [multiple]
    split_ifs with hodd
    · have hsum : k = 2 * (k / 2) + 1 := by omega
      rw [hsum, succ_nsmul, ← hsum]
      exact htwice.addAffine h
    · have hsum : 2 * (k / 2) = k := by omega
      rwa [hsum] at htwice

end JacobianPoint

/-! ## The generators -/

namespace Curve

open JacobianPoint

/-- The coordinates of the generator. -/
def generatorCoordinates (c : Curve) : ℕ × ℕ :=
  match c.generator with
  | .infinity => (0, 0)
  | .affine x y => (x, y)

theorem generator_eq (c : Curve) :
    c.generator = .affine c.generatorCoordinates.1 c.generatorCoordinates.2 := by
  cases c <;> rfl

theorem nonsingular_generator (c : Curve) :
    c.weierstrass.Nonsingular c.generatorCoordinates.1 c.generatorCoordinates.2 := by
  refine (Affine.equation_iff_nonsingular_of_Δ_ne_zero discriminant_ne_zero).mp ?_
  refine equation_iff.mpr ?_
  cases c <;> decide +kernel

/-- The generator as an element of the group. -/
def base (c : Curve) : c.weierstrass.Point := .some _ _ c.nonsingular_generator

theorem ofGroup_base (c : Curve) : c.ofGroup c.base = c.generator := by
  have hlt : c.generatorCoordinates.1 < c.prime ∧ c.generatorCoordinates.2 < c.prime := by
    cases c <;> decide +kernel
  rw [generator_eq, base, ofGroup, ZMod.val_natCast_of_lt hlt.1, ZMod.val_natCast_of_lt hlt.2]

/-- Whether a point in Jacobian coordinates is the opposite of the generator. -/
def isOppositeOfGenerator (c : Curve) (t : JacobianPoint) : Bool :=
  t.z % c.prime != 0 && t.x == c.generatorCoordinates.1 * t.z ^ 2 % c.prime &&
    (t.y + c.generatorCoordinates.2 * t.z ^ 3) % c.prime == 0

theorem pred_order_smul_base (c : Curve) : (c.order - 1) • c.base = -c.base := by
  have hbits : (c.order - 1) / 2 ^ c.order.log2 = 1 := by cases c <;> decide +kernel
  have hopposite : c.isOppositeOfGenerator (multiple c.prime c.generatorCoordinates.1
      c.generatorCoordinates.2 c.order.log2 (c.order - 1)) = true := by
    cases c <;> decide +kernel
  have hrepresents := represents_multiple c.nonsingular_generator hbits
  generalize multiple c.prime _ _ _ _ = t at hopposite hrepresents
  simp only [isOppositeOfGenerator, Bool.and_eq_true, bne_iff_ne, beq_iff_eq] at hopposite
  obtain ⟨⟨hz, hx⟩, hy⟩ := hopposite
  have hz : (t.z : ZMod c.prime) ≠ 0 := by
    rwa [ne_eq, ZMod.natCast_eq_zero_iff, Nat.dvd_iff_mod_eq_zero]
  obtain ⟨x, y, h, heq, htx, hty⟩ := hrepresents hz
  have hx : x = c.generatorCoordinates.1 := by
    rw [hx, ZMod.natCast_mod, Nat.cast_mul, Nat.cast_pow] at htx
    exact (mul_right_cancel₀ (pow_ne_zero 2 hz) htx).symm
  have hy : y = -c.generatorCoordinates.2 := by
    have hcast : ((t.y + c.generatorCoordinates.2 * t.z ^ 3 : ℕ) : ZMod c.prime) = 0 := by
      rwa [ZMod.natCast_eq_zero_iff, Nat.dvd_iff_mod_eq_zero]
    rw [Nat.cast_add, Nat.cast_mul, Nat.cast_pow, hty, ← add_mul] at hcast
    exact eq_neg_of_add_eq_zero_left ((mul_eq_zero_iff_right (pow_ne_zero 3 hz)).mp hcast)
  subst hx hy
  rw [base, heq, Affine.Point.neg_some, Affine.Point.some.injEq]
  exact ⟨rfl, by simp⟩

theorem order_smul_base (c : Curve) : c.order • c.base = 0 := by
  have hsum : c.order = c.order - 1 + 1 := (Nat.sub_add_cancel c.prime_order.one_le).symm
  rw [hsum, succ_nsmul, pred_order_smul_base, neg_add_cancel]

theorem addOrderOf_base (c : Curve) : addOrderOf c.base = c.order :=
  have : Fact c.order.Prime := ⟨c.prime_order⟩
  addOrderOf_eq_prime c.order_smul_base (Affine.Point.some_ne_zero _)

/-- No multiple of the generator below its order is the point at infinity. -/
theorem smul_base_ne_zero (c : Curve) {k : ℕ} (hpos : 0 < k) (hlt : k < c.order) :
    k • c.base ≠ 0 := by
  intro h
  have hdvd := addOrderOf_dvd_iff_nsmul_eq_zero.mpr h
  rw [c.addOrderOf_base] at hdvd
  exact absurd (Nat.le_of_dvd hpos hdvd) (not_le.mpr hlt)

end Curve

end DeviceSecurity
