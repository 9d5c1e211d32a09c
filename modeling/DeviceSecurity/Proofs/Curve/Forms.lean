import DeviceSecurity.Proofs.Curve.ValidKey

/-!
# The forms of a key

A key is written as its point in full, as its point compressed to the first coordinate and the
parity of the second, or as a `SubjectPublicKeyInfo`. All three carry an encoding of the one point
(`PeerKey.exists_carries`): of the two roots for a first coordinate, which Euler's criterion finds
because the primes leave 3 modulo 4, only one has the parity, and the header of each curve declares
the lengths that its points have. So the forms are interchangeable for every key pair, and none is
taken for a key of another curve (`PeerKey.ofBytes_of_isEncoding`).
-/

namespace DeviceSecurity

namespace Curve

variable {c : Curve} {x y : ℕ}

theorem prime_mod_four (c : Curve) : c.prime % 4 = 3 := by
  cases c <;> decide +kernel

/-- Of a root and its opposite the one with the parity of `y` is `y`, if either is. -/
theorem ite_parity_eq (hy : y < c.prime) {root : ℕ}
    (h : root = y ∨ root = (c.prime - y) % c.prime) :
    (if (root % 2 == 1) == (y % 2 == 1) then root else (c.prime - root) % c.prime) = y := by
  have hmod := c.prime_mod_four
  rcases h with rfl | rfl
  · simp
  · rcases Nat.eq_zero_or_pos y with rfl | hpos
    · simp
    · -- the prime is odd, so that the opposite has the other parity
      have hroot : (c.prime - y) % c.prime = c.prime - y := Nat.mod_eq_of_lt (by omega)
      have hparity : ((c.prime - y) % 2 == 1) ≠ (y % 2 == 1) := by
        rw [ne_eq, Bool.eq_iff_iff, beq_iff_eq, beq_iff_eq]
        omega
      rw [hroot, if_neg (by simpa using hparity), Nat.sub_sub_self hy.le, Nat.mod_eq_of_lt hy]

/-- A point is found from its first coordinate and the parity of the second. -/
theorem decompress_parity (h : c.IsPoint x y) :
    c.decompress x (y % 2 == 1) = some (.affine x y) := by
  have hsquare : (y : ZMod c.prime) ^ 2 = (c.rhs x : ℕ) := h.equation.trans (cast_rhs x).symm
  obtain ⟨root, hroot⟩ := Modular.exists_sqrt? c.prime_mod_four hsquare
  have hroots := h.eq_or_opposite (isPoint_of_sqrt? h.x_lt hroot)
  simp only [decompress, if_pos h.x_lt, hroot, ite_parity_eq h.y_lt hroots]

theorem decode_compress (h : c.IsPoint x y) :
    c.decode (c.compress (.affine x y)) = some (.affine x y) := by
  have htake : (c.fieldBytes x).take c.fieldSize = c.fieldBytes x :=
    List.take_of_length_le (c.length_fieldBytes x).le
  have hdecompress := decompress_parity h
  rw [compress, decode, htake, toNat_fieldBytes h.x_lt]
  by_cases hodd : y % 2 = 1
  · rw [hodd] at hdecompress
    simpa [hodd] using hdecompress
  · have heven : (y % 2 == 1) = false := by simpa using hodd
    rw [heven] at hdecompress
    simpa [hodd] using hdecompress

theorem isPoint_generator (c : Curve) :
    c.IsPoint c.generatorCoordinates.1 c.generatorCoordinates.2 := by
  rw [← contains_iff_isPoint]
  cases c <;> decide +kernel

end Curve

namespace PeerKey

variable {c c' : Curve} {x y : ℕ} {b b' point : Bytes} {p : Point}

/-- The forms in which a key is written. -/
inductive IsEncoding (key : PeerKey) : Bytes → Prop
  | uncompressed : IsEncoding key key.pointBytes
  | compressed : IsEncoding key (key.curve.compress key.point)
  | info : IsEncoding key key.spkiBytes

theorem carries_compress (c : Curve) (p : Point) : Carries (c.compress p) (c.compress p) := by
  cases p with
  | infinity => exact .bare (by decide)
  | affine x y =>
    rw [Curve.compress]
    split_ifs
    · exact .bare (by decide)
    · exact .bare (by decide)

/-- Behind the header of its curve a point is carried. -/
theorem carries_spkiPrefix (hlength : b.length = c.pointSize) : Carries (c.spkiPrefix ++ b) b := by
  obtain ⟨rest, spki, hinfo, hread, rfl⟩ := Curve.exists_read?_spki hlength
  rw [hinfo]
  exact .info hread

/-- Every form carries an encoding of the point. -/
theorem exists_carries (h : c.IsPoint x y) (hb : IsEncoding ⟨c, .affine x y⟩ b) :
    ∃ point, Carries b point ∧ c.decode point = some (.affine x y) := by
  have huncompressed := Curve.decode_encode_affine (Curve.contains_iff_isPoint.mpr h)
  cases hb with
  | uncompressed => exact ⟨_, .bare (by decide), huncompressed⟩
  | compressed => exact ⟨_, carries_compress c _, Curve.decode_compress h⟩
  | info => exact ⟨_, carries_spkiPrefix (c.length_encode_affine x y), huncompressed⟩

/-- What carries a point of another curve is refused as such. -/
theorem ofBytes_of_other_curve (hcarries : Carries b point) (hdecode : c.decode point = some p)
    (hcurve : c' ≠ c) : ofBytes c' b = .error (.invalidPeerKey ("not a point on " ++ c'.name)) := by
  refine ofBytes_eq_error.mpr (.notOnCurve hcarries ?_)
  cases hother : c'.decode point with
  | none => rfl
  | some q => exact absurd (Curve.eq_of_decode hother hdecode) hcurve

/-- What carries one point is the same to every curve. -/
theorem ofBytes_congr {point' : Bytes} (hcarries : Carries b point) (hcarries' : Carries b' point')
    (hdecode : c.decode point = some p) (hdecode' : c.decode point' = some p) (c' : Curve) :
    ofBytes c' b = ofBytes c' b' := by
  by_cases hcurve : c' = c
  · subst hcurve
    rw [ofBytes_of_carries hcarries, ofBytes_of_carries hcarries', ofPointBytes, ofPointBytes,
      hdecode, hdecode']
  · rw [ofBytes_of_other_curve hcarries hdecode hcurve,
      ofBytes_of_other_curve hcarries' hdecode' hcurve]

/-- A point of a curve is read from each of its forms. To agree with one form is to agree with any
other, whatever the key pair, and no form is that of a point on another curve. -/
theorem ofBytes_of_isEncoding (hpoint : c.IsPoint x y) (hb : IsEncoding ⟨c, .affine x y⟩ b) :
    ofBytes c b = .ok ⟨c, .affine x y⟩ ∧
    (∀ k b', IsEncoding ⟨c, .affine x y⟩ b' → SharedSecret.agree k b = SharedSecret.agree k b') ∧
    ∀ c', c' ≠ c → ofBytes c' b = .error (.invalidPeerKey ("not a point on " ++ c'.name)) := by
  obtain ⟨point, hcarries, hdecode⟩ := exists_carries hpoint hb
  refine ⟨ofBytes_eq_ok.mpr ⟨point, hcarries, hdecode, rfl⟩, fun k b' hb' => ?_,
    fun c' => ofBytes_of_other_curve hcarries hdecode⟩
  obtain ⟨point', hcarries', hdecode'⟩ := exists_carries hpoint hb'
  rw [SharedSecret.agree, SharedSecret.agree,
    ofBytes_congr hcarries hcarries' hdecode hdecode' k.curve]

/-- The generator of P-521, the curve whose header has lengths of two bytes. -/
def generatorP521 : PeerKey :=
  ⟨.p521, .affine Curve.p521.generatorCoordinates.1 Curve.p521.generatorCoordinates.2⟩

/-- Its compressed form is as good as its `SubjectPublicKeyInfo`, and is no key of P-256. -/
theorem ofBytes_compressed_generator :
    Curve.p521.IsPoint Curve.p521.generatorCoordinates.1 Curve.p521.generatorCoordinates.2 ∧
      IsEncoding generatorP521 (Curve.p521.compress generatorP521.point) ∧
      ofBytes .p521 (Curve.p521.compress generatorP521.point) = .ok generatorP521 ∧
      SharedSecret.agree ⟨.p521, 1⟩ (Curve.p521.compress generatorP521.point) =
        SharedSecret.agree ⟨.p521, 1⟩ generatorP521.spkiBytes ∧
      ofBytes .p256 (Curve.p521.compress generatorP521.point) =
        .error (.invalidPeerKey "not a point on P-256") := by
  have hpoint := Curve.p521.isPoint_generator
  obtain ⟨hread, hagree, hother⟩ := ofBytes_of_isEncoding hpoint .compressed
  exact ⟨hpoint, .compressed, hread, hagree _ _ .info, hother .p256 (by decide)⟩

end PeerKey

end DeviceSecurity
