import DeviceSecurity.Proofs.Curve.PeerKey

/-!
# Only points become keys

Whatever bytes a peer sends, the key that is read from them is a point of the curve asked for, with
coordinates below the prime, and every refusal is that of an invalid key (`ofBytes_only_points`).
A point is found from its first coordinate alone as well: of the two roots, which are opposite, the
parity names one, because the prime is odd, and the compact form the smaller one. All forms lead to
coordinates that satisfy the equation, so that a scalar is never multiplied with anything else
(`SharedSecret.agreeBy_congr`).
-/

namespace DeviceSecurity

namespace Curve

variable {c : Curve} {x y z : ℕ} {p : Point} {odd : Bool} {b : Bytes}

/-- The coordinates of a point of the curve: numbers below the prime that satisfy its equation. -/
structure IsPoint (c : Curve) (x y : ℕ) : Prop where
  x_lt : x < c.prime
  y_lt : y < c.prime
  equation : (y : ZMod c.prime) ^ 2 = (x : ZMod c.prime) ^ 3 - 3 * x + c.coefficient

theorem contains_iff_isPoint : c.contains x y = true ↔ c.IsPoint x y := by
  simp only [contains, Bool.and_eq_true, decide_eq_true_eq, beq_iff_eq, ← sq_eq_iff]
  constructor
  · rintro ⟨⟨hx, hy⟩, hequation⟩
    exact ⟨hx, hy, hequation⟩
  · rintro ⟨hx, hy, hequation⟩
    exact ⟨⟨hx, hy⟩, hequation⟩

/-! ## Opposite points -/

theorem cast_opposite (hy : y < c.prime) :
    (((c.prime - y) % c.prime : ℕ) : ZMod c.prime) = -y := by
  rw [ZMod.natCast_mod, Nat.cast_sub hy.le, ZMod.natCast_self, zero_sub]

theorem IsPoint.opposite (h : c.IsPoint x y) : c.IsPoint x ((c.prime - y) % c.prime) where
  x_lt := h.x_lt
  y_lt := Nat.mod_lt _ c.prime_prime.pos
  equation := by rw [cast_opposite h.y_lt, neg_sq, h.equation]

/-- Points with the same first coordinate are equal or opposite. -/
theorem IsPoint.eq_or_opposite (h : c.IsPoint x y) (h' : c.IsPoint x z) :
    z = y ∨ z = (c.prime - y) % c.prime := by
  have hsquares : (z : ZMod c.prime) ^ 2 = (y : ZMod c.prime) ^ 2 :=
    h'.equation.trans h.equation.symm
  rcases sq_eq_sq_iff_eq_or_eq_neg.mp hsquares with heq | hneg
  · left
    rw [eq_val_of_cast h'.y_lt heq, ZMod.val_natCast_of_lt h.y_lt]
  · right
    rw [eq_val_of_cast h'.y_lt (hneg.trans (cast_opposite h.y_lt).symm),
      ZMod.val_natCast_of_lt h.opposite.y_lt]

/-! ## Points from their first coordinate -/

/-- Every root that is found is the second coordinate of a point. -/
theorem isPoint_of_sqrt? (hx : x < c.prime) (h : Modular.sqrt? c.prime (c.rhs x) = some y) :
    c.IsPoint x y := by
  obtain ⟨hlt, hsquare⟩ := Modular.of_sqrt?_eq_some c.prime_prime.pos h
  exact ⟨hx, hlt, by rw [hsquare, cast_rhs]⟩

theorem isPoint_of_decompress (h : c.decompress x odd = some p) :
    ∃ y, p = .affine x y ∧ c.IsPoint x y := by
  unfold decompress at h
  split_ifs at h with hx
  cases hroot : Modular.sqrt? c.prime (c.rhs x) with
  | none => simp [hroot] at h
  | some root =>
    have hpoint := isPoint_of_sqrt? hx hroot
    simp only [hroot, Option.some.injEq] at h
    refine ⟨_, h.symm, ?_⟩
    split_ifs
    · exact hpoint
    · exact hpoint.opposite

theorem isPoint_min (h : c.IsPoint x y) : c.IsPoint x (min y ((c.prime - y) % c.prime)) := by
  rcases min_choice y ((c.prime - y) % c.prime) with hmin | hmin
  · rwa [hmin]
  · rw [hmin]
    exact h.opposite

/-- What an encoding stands for, in any of its forms, is a point of the curve. -/
theorem isPoint_of_decode (h : c.decode b = some p) : ∃ x y, p = .affine x y ∧ c.IsPoint x y := by
  cases b with
  | nil => cases h
  | cons tag rest =>
    unfold decode at h
    dsimp only at h
    split_ifs at h with _ huncompressed
    · obtain rfl := Option.some.inj h
      exact ⟨_, _, rfl, contains_iff_isPoint.mp huncompressed.2⟩
    · exact ⟨_, isPoint_of_decompress h⟩
    · exact ⟨_, isPoint_of_decompress h⟩
    · obtain ⟨q, hq, rfl⟩ := Option.map_eq_some_iff.mp h
      obtain ⟨y, rfl, hpoint⟩ := isPoint_of_decompress hq
      exact ⟨_, _, rfl, isPoint_min hpoint⟩

/-- A coordinate in the fixed width of the curve, the highest byte first. -/
structure IsCoordinate (c : Curve) (b : Bytes) (x : ℕ) : Prop where
  length_eq : b.length = c.fieldSize
  toNat_eq : Bytes.toNat b = x

theorem isCoordinate_fieldBytes (hx : x < c.prime) : c.IsCoordinate (c.fieldBytes x) x :=
  ⟨c.length_fieldBytes x, toNat_fieldBytes hx⟩

end Curve

namespace PeerKey

variable {c : Curve} {x y : ℕ} {b : Bytes} {key : PeerKey} {fault : Error}

theorem ofBytes_uncompressed (h : c.IsPoint x y) :
    ofBytes c (pointBytes ⟨c, .affine x y⟩) = .ok ⟨c, .affine x y⟩ := by
  have hcarries : Carries (pointBytes ⟨c, .affine x y⟩) (pointBytes ⟨c, .affine x y⟩) :=
    .bare (by decide)
  have hdecode := Curve.decode_encode_affine (Curve.contains_iff_isPoint.mpr h)
  exact ofBytes_eq_ok.mpr ⟨_, hcarries, hdecode, rfl⟩

theorem isPoint_of_ofBytes (h : ofBytes c b = .ok key) :
    ∃ x y, key = ⟨c, .affine x y⟩ ∧ c.IsPoint x y := by
  obtain ⟨point, -, hdecode, hcurve⟩ := ofBytes_eq_ok.mp h
  obtain ⟨x, y, hxy, hpoint⟩ := Curve.isPoint_of_decode hdecode
  obtain ⟨curve, q⟩ := key
  obtain rfl : curve = c := hcurve
  obtain rfl : q = .affine x y := hxy
  exact ⟨x, y, rfl, hpoint⟩

theorem invalidPeerKey_of_ofBytes (h : ofBytes c b = .error fault) :
    ∃ message, fault = .invalidPeerKey message := by
  cases ofBytes_eq_error.mp h with
  | empty => exact ⟨_, rfl⟩
  | badInfo => exact ⟨_, rfl⟩
  | notOnCurve => exact ⟨_, rfl⟩

end PeerKey

namespace SharedSecret

variable {c : Curve} {b : Bytes}

/-- Agreement where a peer's point is multiplied in some way or other. -/
def agreeBy (multiply : Point → Point) (c : Curve) (peer : Bytes) : Except Error SharedSecret := do
  let key ← PeerKey.ofBytes c peer
  let secret := c.firstCoordinate (multiply key.point)
  if secret.all (· == 0) then
    throw (.agreementFailure ("unexpected " ++ c.name ++ " output"))
  return ⟨c, secret⟩

/-- Multiplying by the scalar of a key pair is what its agreement does. -/
theorem agreeBy_mul (n : ℕ) : agreeBy (c.mul n) c b = agree ⟨c, n⟩ b := by
  cases hkey : PeerKey.ofBytes c b with
  | error fault => rw [agreeBy, agree, hkey, error_bind, error_bind]
  | ok key =>
    rw [agree_of_ofBytes hkey, agreeBy, hkey, ok_bind]
    rfl

/-- Only what becomes of the points of the curve counts. -/
theorem agreeBy_congr {multiply multiply' : Point → Point}
    (h : ∀ x y, c.IsPoint x y → multiply (.affine x y) = multiply' (.affine x y)) :
    agreeBy multiply c b = agreeBy multiply' c b := by
  cases hkey : PeerKey.ofBytes c b with
  | error fault => rw [agreeBy, agreeBy, hkey, error_bind, error_bind]
  | ok key =>
    obtain ⟨x, y, rfl, hpoint⟩ := PeerKey.isPoint_of_ofBytes hkey
    rw [agreeBy, agreeBy, hkey, ok_bind, ok_bind, h x y hpoint]

end SharedSecret

namespace PeerKey

/-- The keys that are read are the points of the curve. Each of them is written as a tag and both
coordinates and read back from that, and whatever else is sent is an invalid key. So agreement takes
no notice of how anything but the points of the curve is multiplied. -/
theorem ofBytes_only_points (c : Curve) :
    (∀ key, (∃ b, ofBytes c b = .ok key) ↔ ∃ x y, key = ⟨c, .affine x y⟩ ∧ c.IsPoint x y) ∧
    (∀ x y, c.IsPoint x y → ∃ xs ys, pointBytes ⟨c, .affine x y⟩ = 0x04 :: (xs ++ ys) ∧
      c.IsCoordinate xs x ∧ c.IsCoordinate ys y ∧
      ofBytes c (0x04 :: (xs ++ ys)) = .ok ⟨c, .affine x y⟩) ∧
    (∀ b fault, ofBytes c b = .error fault → ∃ message, fault = .invalidPeerKey message) ∧
    ∀ n multiply, (∀ x y, c.IsPoint x y → multiply (.affine x y) = c.mul n (.affine x y)) →
      ∀ b, SharedSecret.agree ⟨c, n⟩ b = SharedSecret.agreeBy multiply c b := by
  refine ⟨fun key => ⟨?_, ?_⟩, fun x y hpoint => ?_, fun b fault => invalidPeerKey_of_ofBytes,
    fun n multiply h b => ?_⟩
  · rintro ⟨b, hkey⟩
    exact isPoint_of_ofBytes hkey
  · rintro ⟨x, y, rfl, hpoint⟩
    exact ⟨_, ofBytes_uncompressed hpoint⟩
  · refine ⟨c.fieldBytes x, c.fieldBytes y, rfl, ?_, ?_, ofBytes_uncompressed hpoint⟩
    · exact Curve.isCoordinate_fieldBytes hpoint.x_lt
    · exact Curve.isCoordinate_fieldBytes hpoint.y_lt
  · rw [← SharedSecret.agreeBy_mul]
    exact SharedSecret.agreeBy_congr fun x y hpoint => (h x y hpoint).symm

end PeerKey

end DeviceSecurity
