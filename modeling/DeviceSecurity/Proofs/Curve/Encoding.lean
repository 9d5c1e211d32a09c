import DeviceSecurity.Curve.PeerKey
import DeviceSecurity.Proofs.Curve.Group
import DeviceSecurity.Proofs.Der.Element

/-!
# Encodings of points

The uncompressed encoding of a point other than infinity is read back, on its own and inside a
`SubjectPublicKeyInfo`.
-/

namespace DeviceSecurity

namespace Curve

variable {c : Curve}

theorem prime_le (c : Curve) : c.prime ≤ Nat.pow 256 c.fieldSize := by
  cases c <;> decide +kernel

theorem toNat_fieldBytes {x : ℕ} (hx : x < c.prime) : Bytes.toNat (c.fieldBytes x) = x := by
  rw [fieldBytes, Bytes.toNat_ofNat, Nat.mod_eq_of_lt (hx.trans_le c.prime_le)]

theorem decode_encode_affine {x y : ℕ} (h : c.contains x y = true) :
    c.decode (c.encode (.affine x y)) = some (.affine x y) := by
  have hlt : x < c.prime ∧ y < c.prime := by
    simp only [contains, Bool.and_eq_true, decide_eq_true_eq] at h
    exact h.1
  have htake : (c.fieldBytes x ++ c.fieldBytes y).take c.fieldSize = c.fieldBytes x :=
    List.take_left' (c.length_fieldBytes x)
  have hdrop : (c.fieldBytes x ++ c.fieldBytes y).drop c.fieldSize = c.fieldBytes y :=
    List.drop_left' (c.length_fieldBytes x)
  have hlength : (c.fieldBytes x ++ c.fieldBytes y).length = 2 * c.fieldSize := by
    simp [two_mul]
  show c.decode (0x04 :: (c.fieldBytes x ++ c.fieldBytes y)) = _
  rw [decode, if_pos rfl, htake, hdrop, toNat_fieldBytes hlt.1, toNat_fieldBytes hlt.2,
    if_pos ⟨hlength, h⟩]

/-- Every element of the group but zero is read back from its encoding. -/
theorem decode_encode {P : c.weierstrass.Point} (hP : P ≠ 0) :
    c.decode (c.encode (c.ofGroup P)) = some (c.ofGroup P) := by
  cases P with
  | zero => exact absurd rfl hP
  | some x y h => exact decode_encode_affine (contains_iff.mpr ⟨.some x y h, rfl⟩)

theorem length_encode_affine (c : Curve) (x y : ℕ) :
    (c.encode (.affine x y)).length = c.pointSize := by
  simp [encode, pointSize]
  omega

/-! ## Headers -/

/-- The header of a `SubjectPublicKeyInfo` taken apart: the length of the sequence, the algorithm as
it is written and as it is read, and the length of the bit string. -/
structure SpkiHeader where
  outerLength : Bytes
  algorithmBytes : Bytes
  algorithm : Der.Algorithm
  innerLength : Bytes

/-- The header of a curve. -/
def spkiHeader : Curve → SpkiHeader
  | p256 => ⟨[0x59], p256.spkiPrefix.extract 2 23, ⟨[0x2a, 0x86, 0x48, 0xce, 0x3d, 0x02, 0x01],
      some ⟨.universal, false, 6, [0x2a, 0x86, 0x48, 0xce, 0x3d, 0x03, 0x01, 0x07]⟩⟩, [0x42]⟩
  | p384 => ⟨[0x76], p384.spkiPrefix.extract 2 20, ⟨[0x2a, 0x86, 0x48, 0xce, 0x3d, 0x02, 0x01],
      some ⟨.universal, false, 6, [0x2b, 0x81, 0x04, 0x00, 0x22]⟩⟩, [0x62]⟩
  | p521 => ⟨[0x81, 0x9b], p521.spkiPrefix.extract 3 21,
      ⟨[0x2a, 0x86, 0x48, 0xce, 0x3d, 0x02, 0x01],
        some ⟨.universal, false, 6, [0x2b, 0x81, 0x04, 0x00, 0x23]⟩⟩, [0x81, 0x86]⟩

theorem spkiPrefix_append (c : Curve) (b : Bytes) :
    c.spkiPrefix ++ b = 0x30 :: c.spkiHeader.outerLength ++
      (c.spkiHeader.algorithmBytes ++ (0x03 :: c.spkiHeader.innerLength ++ (0x00 :: b))) := by
  cases c <;> rfl

theorem read?_algorithmBytes (c : Curve) (rest : Bytes) :
    Der.Algorithm.read? (c.spkiHeader.algorithmBytes ++ rest) =
      some (c.spkiHeader.algorithm, rest) := by
  cases c <;> rfl

theorem isLength_outer (c : Curve) : Der.IsLength c.spkiHeader.outerLength
    (c.spkiHeader.algorithmBytes.length + c.spkiHeader.innerLength.length + c.pointSize + 2) := by
  cases c with
  | p256 => exact Der.isLength_short (by decide)
  | p384 => exact Der.isLength_short (by decide)
  | p521 => exact Der.isLength_long 0x9b

theorem isLength_inner (c : Curve) : Der.IsLength c.spkiHeader.innerLength (c.pointSize + 1) := by
  cases c with
  | p256 => exact Der.isLength_short (by decide)
  | p384 => exact Der.isLength_short (by decide)
  | p521 => exact Der.isLength_long 0x86

/-- Behind its header a point is read back as the key. -/
theorem read?_spki {b : Bytes} (hlength : b.length = c.pointSize) (rest : Bytes) :
    ∃ encoded, Der.SubjectKey.read? (c.spkiPrefix ++ b ++ rest) =
      some (⟨c.spkiHeader.algorithm, encoded, b⟩, rest) := by
  rw [spkiPrefix_append]
  exact Der.SubjectKey.read?_append (hlength ▸ c.isLength_outer) c.read?_algorithmBytes
    (hlength ▸ c.isLength_inner) rest

/-- A header opens the sequence in which the point behind it is the key. -/
theorem exists_read?_spki {b : Bytes} (hlength : b.length = c.pointSize) :
    ∃ rest spki, c.spkiPrefix ++ b = 0x30 :: rest ∧
      Der.SubjectKey.read? (0x30 :: rest) = some (spki, []) ∧ spki.key = b := by
  obtain ⟨encoded, hread⟩ := read?_spki hlength []
  rw [List.append_nil, spkiPrefix_append] at hread
  exact ⟨_, _, c.spkiPrefix_append b, hread, rfl⟩

end Curve

/-! ## Keys -/

namespace PeerKey

variable {c : Curve} {P : c.weierstrass.Point} (hP : P ≠ 0)

include hP

theorem ofPointBytes_pointBytes :
    ofPointBytes c (pointBytes ⟨c, c.ofGroup P⟩) = .ok ⟨c, c.ofGroup P⟩ := by
  rw [ofPointBytes, pointBytes, Curve.decode_encode hP]

/-- A key is read from its uncompressed point. -/
theorem ofBytes_pointBytes :
    ofBytes c (pointBytes ⟨c, c.ofGroup P⟩) = .ok ⟨c, c.ofGroup P⟩ := by
  rw [← ofPointBytes_pointBytes hP]
  cases P with
  | zero => exact absurd rfl hP
  | some x y h => rfl

/-- A key is read from its `SubjectPublicKeyInfo`. -/
theorem ofBytes_spkiBytes :
    ofBytes c (spkiBytes ⟨c, c.ofGroup P⟩) = .ok ⟨c, c.ofGroup P⟩ := by
  have hlength : (pointBytes ⟨c, c.ofGroup P⟩).length = c.pointSize := by
    cases P with
    | zero => exact absurd rfl hP
    | some x y h => exact c.length_encode_affine _ _
  obtain ⟨rest, spki, hinfo, hread, hkey⟩ := Curve.exists_read?_spki hlength
  rw [spkiBytes, hinfo, ofBytes, if_pos rfl, hread]
  show ofPointBytes c spki.key = _
  rw [hkey]
  exact ofPointBytes_pointBytes hP

end PeerKey

end DeviceSecurity
