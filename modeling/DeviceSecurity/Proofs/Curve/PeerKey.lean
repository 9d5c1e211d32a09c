import DeviceSecurity.Proofs.Curve.Agreement
import DeviceSecurity.Proofs.Result

/-!
# Which peer keys are accepted

The bytes of a peer's key carry the encoding of a point: themselves, or the bits of the
`SubjectPublicKeyInfo` that they are. A key pair agrees with exactly those that carry a point of its
own curve, unless the coordinate that comes out is all zeros (`SharedSecret.agree_eq_ok`), and each
way to fail has its own error (`SharedSecret.agree_eq_error`). The lengths of encodings differ
between the curves, so that a point of another curve is never taken for one of this curve.
-/

namespace DeviceSecurity

/-! ## Points of another curve -/

namespace Curve

variable {c c' : Curve} {b : Bytes} {p q : Point}

/-- A point is encoded in one or two coordinates behind a tag. -/
theorem length_of_decode (h : c.decode b = some p) :
    b.length = 1 + c.fieldSize ∨ b.length = c.pointSize := by
  cases b with
  | nil => cases h
  | cons tag rest =>
    unfold decode at h
    dsimp only at h
    rw [List.length_cons, pointSize]
    split_ifs at h with htag hform hsize
    · exact .inr (by rw [hform.1, Nat.add_comm])
    all_goals exact .inl (by rw [hsize, Nat.add_comm])

/-- No encoding is one of points on two curves. -/
theorem eq_of_decode (h : c.decode b = some p) (h' : c'.decode b = some q) : c = c' := by
  have hlength := length_of_decode h
  have hlength' := length_of_decode h'
  unfold pointSize at hlength hlength'
  cases c <;> cases c' <;> first | rfl | (simp only [fieldSize] at hlength hlength'; omega)

end Curve

/-! ## Reading a key -/

namespace PeerKey

variable {c : Curve} {b point : Bytes} {key : PeerKey} {fault : Error}

/-- The encoding of a point in the bytes of a key: all of them or, where the first byte opens a
sequence, the bits of the `SubjectPublicKeyInfo`. -/
inductive Carries : Bytes → Bytes → Prop
  | bare {tag : UInt8} {rest : Bytes} (h : tag ≠ 0x30) : Carries (tag :: rest) (tag :: rest)
  | info {rest left : Bytes} {spki : Der.SubjectKey}
    (h : Der.SubjectKey.read? (0x30 :: rest) = some (spki, left)) : Carries (0x30 :: rest) spki.key

/-- The reasons not to read a key of a curve. -/
inductive Unreadable (c : Curve) : Bytes → Error → Prop
  | empty : Unreadable c [] (.invalidPeerKey "empty key")
  | badInfo {rest : Bytes} (h : Der.SubjectKey.read? (0x30 :: rest) = none) :
    Unreadable c (0x30 :: rest) (.invalidPeerKey "bad SubjectPublicKeyInfo: <x509>")
  | notOnCurve {b point : Bytes} (hcarries : Carries b point) (h : c.decode point = none) :
    Unreadable c b (.invalidPeerKey ("not a point on " ++ c.name))

/-- A key is read from the point that it carries. -/
theorem ofBytes_of_carries (h : Carries b point) : ofBytes c b = ofPointBytes c point := by
  cases h with
  | bare htag => exact if_neg htag
  | info hread => rw [ofBytes, if_pos rfl, hread]

theorem ofPointBytes_eq_ok : ofPointBytes c point = .ok key ↔
    c.decode point = some key.point ∧ key.curve = c := by
  unfold ofPointBytes
  cases hdecode : c.decode point with
  | none => simp
  | some p =>
    constructor
    · rintro ⟨⟩
      exact ⟨rfl, rfl⟩
    · rintro ⟨⟨⟩, rfl⟩
      rfl

theorem ofPointBytes_eq_error : ofPointBytes c point = .error fault ↔
    c.decode point = none ∧ fault = .invalidPeerKey ("not a point on " ++ c.name) := by
  unfold ofPointBytes
  cases hdecode : c.decode point with
  | none => simp [eq_comm]
  | some p => simp

/-- Bytes carry a point unless they are none at all or a sequence that cannot be read. -/
theorem carries_or_unreadable (c : Curve) (b : Bytes) :
    (∃ point, Carries b point) ∨ ∃ fault, Unreadable c b fault ∧ ofBytes c b = .error fault := by
  cases b with
  | nil => exact .inr ⟨_, .empty, rfl⟩
  | cons tag rest =>
    by_cases htag : tag = 0x30
    · subst htag
      cases hread : Der.SubjectKey.read? (0x30 :: rest) with
      | none => exact .inr ⟨_, .badInfo hread, by rw [ofBytes, if_pos rfl, hread]⟩
      | some read => exact .inl ⟨_, .info hread⟩
    · exact .inl ⟨_, .bare htag⟩

theorem ofBytes_eq_ok : ofBytes c b = .ok key ↔
    ∃ point, Carries b point ∧ c.decode point = some key.point ∧ key.curve = c := by
  constructor
  · intro h
    rcases carries_or_unreadable c b with ⟨point, hcarries⟩ | ⟨fault, -, hfault⟩
    · rw [ofBytes_of_carries hcarries] at h
      exact ⟨point, hcarries, ofPointBytes_eq_ok.mp h⟩
    · rw [hfault] at h
      cases h
  · rintro ⟨point, hcarries, h⟩
    rw [ofBytes_of_carries hcarries]
    exact ofPointBytes_eq_ok.mpr h

theorem ofBytes_eq_error : ofBytes c b = .error fault ↔ Unreadable c b fault := by
  constructor
  · intro h
    rcases carries_or_unreadable c b with ⟨point, hcarries⟩ | ⟨other, hother, hfault⟩
    · rw [ofBytes_of_carries hcarries] at h
      obtain ⟨hdecode, rfl⟩ := ofPointBytes_eq_error.mp h
      exact .notOnCurve hcarries hdecode
    · rw [hfault] at h
      obtain rfl := Except.error.inj h
      exact hother
  · intro h
    cases h with
    | empty => rfl
    | badInfo hread => rw [ofBytes, if_pos rfl, hread]
    | notOnCurve hcarries hdecode =>
      rw [ofBytes_of_carries hcarries]
      exact ofPointBytes_eq_error.mpr ⟨hdecode, rfl⟩

end PeerKey

/-! ## Agreeing -/

namespace KeyPair

/-- The first coordinate of a peer's point times the scalar. -/
def coordinate (k : KeyPair) (key : PeerKey) : Bytes :=
  k.curve.firstCoordinate (k.curve.mul k.secret key.point)

@[simp] theorem length_coordinate (k : KeyPair) (key : PeerKey) :
    (k.coordinate key).length = k.curve.fieldSize :=
  SharedSecret.length_firstCoordinate k.curve _

theorem exchange_eq {k : KeyPair} {key : PeerKey} (h : key.curve = k.curve) :
    k.exchange key = .ok (k.coordinate key) :=
  if_pos h.symm

/-- The reasons not to agree with the bytes of a key. -/
inductive Disagrees (k : KeyPair) (b : Bytes) : Error → Prop
  | unreadable {fault : Error} (h : PeerKey.Unreadable k.curve b fault) : Disagrees k b fault
  | zeros {key : PeerKey} (hkey : PeerKey.ofBytes k.curve b = .ok key)
    (h : ∀ x ∈ k.coordinate key, x = 0) :
    Disagrees k b (.agreementFailure ("unexpected " ++ k.curve.name ++ " output"))

end KeyPair

namespace SharedSecret

variable {k : KeyPair} {b : Bytes} {key : PeerKey}

/-- With a key that was read, agreement fails only where the coordinate is all zeros. -/
theorem agree_of_ofBytes (hkey : PeerKey.ofBytes k.curve b = .ok key) :
    agree k b = if (k.coordinate key).all (· == 0)
      then .error (.agreementFailure ("unexpected " ++ k.curve.name ++ " output"))
      else .ok ⟨k.curve, k.coordinate key⟩ := by
  obtain ⟨-, -, -, hcurve⟩ := PeerKey.ofBytes_eq_ok.mp hkey
  unfold agree
  rw [hkey, ok_bind, KeyPair.exchange_eq hcurve, ok_bind]
  simp only [KeyPair.length_coordinate, ne_eq, not_true_eq_false, false_or]
  split_ifs <;> rfl

theorem agree_eq_ok {secret : SharedSecret} : agree k b = .ok secret ↔
    ∃ key, PeerKey.ofBytes k.curve b = .ok key ∧ (∃ x ∈ k.coordinate key, x ≠ 0) ∧
      secret = ⟨k.curve, k.coordinate key⟩ := by
  constructor
  · intro h
    obtain ⟨key, hkey, -⟩ := bind_eq_ok.mp h
    rw [agree_of_ofBytes hkey] at h
    split at h
    · cases h
    · next hzeros => exact ⟨key, hkey, by simpa using hzeros, (Except.ok.inj h).symm⟩
  · rintro ⟨key, hkey, hsome, rfl⟩
    rw [agree_of_ofBytes hkey, if_neg (by simpa using hsome)]

theorem agree_eq_error {fault : Error} : agree k b = .error fault ↔ k.Disagrees b fault := by
  constructor
  · intro h
    cases hkey : PeerKey.ofBytes k.curve b with
    | error other =>
      rw [agree, hkey, error_bind] at h
      obtain rfl := Except.error.inj h
      exact .unreadable (PeerKey.ofBytes_eq_error.mp hkey)
    | ok key =>
      rw [agree_of_ofBytes hkey] at h
      split at h
      · next hzeros =>
        obtain rfl := Except.error.inj h
        exact .zeros hkey (by simpa using hzeros)
      · cases h
  · intro h
    cases h with
    | unreadable h => rw [agree, PeerKey.ofBytes_eq_error.mpr h, error_bind]
    | zeros hkey h => rw [agree_of_ofBytes hkey, if_pos (by simpa using h)]

end SharedSecret

end DeviceSecurity
