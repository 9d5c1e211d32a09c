import DeviceSecurity.Proofs.Curve.Draw
import DeviceSecurity.Proofs.Curve.Encoding
import DeviceSecurity.Proofs.Curve.Order

/-!
# Agreement

Two key pairs on one curve agree on the same secret, whichever of them computes it: both multiply
the generator by both scalars. Scalars that were drawn are in the range in which no multiple of the
generator is the point at infinity, so that public keys can be encoded and read back.
-/

namespace DeviceSecurity

namespace KeyPair

/-- The scalar is positive and below the order of the generator. -/
structure IsValid (k : KeyPair) : Prop where
  pos : 0 < k.secret
  lt : k.secret < k.curve.order

/-- A key pair that was generated is valid and on the curve asked for. -/
theorem of_generate {c : Curve} {k : KeyPair} {e rest : Entropy}
    (h : generate c e = (.ok k, rest)) : k.curve = c ∧ k.IsValid := by
  obtain ⟨probe, skipped, chosen, -, -, -, -, hscalar, rfl⟩ := of_generate_eq_ok h
  exact ⟨rfl, hscalar.1, hscalar.2⟩

theorem publicKey_eq (c : Curve) (n : ℕ) :
    publicKey ⟨c, n⟩ = ⟨c, c.ofGroup (n • c.base)⟩ := by
  rw [publicKey, ← Curve.ofGroup_base, Curve.mul_ofGroup]

/-- A public key as it is exported, on its own or in a `SubjectPublicKeyInfo`. -/
def IsExport (k : KeyPair) (b : Bytes) : Prop :=
  b = k.publicKey.pointBytes ∨ b = k.publicKey.spkiBytes

/-- What a valid key pair exports is read as its public key. -/
theorem ofBytes_of_isExport {c : Curve} {n : ℕ} {b : Bytes} (hvalid : IsValid ⟨c, n⟩)
    (hb : IsExport ⟨c, n⟩ b) : PeerKey.ofBytes c b = .ok (publicKey ⟨c, n⟩) := by
  have hne : n • c.base ≠ 0 := c.smul_base_ne_zero hvalid.pos hvalid.lt
  unfold IsExport at hb
  rw [publicKey_eq] at hb ⊢
  rcases hb with rfl | rfl
  · exact PeerKey.ofBytes_pointBytes hne
  · exact PeerKey.ofBytes_spkiBytes hne

/-- Multiplying the public key of another pair multiplies the scalars. -/
theorem mul_publicKey (c : Curve) (m n : ℕ) :
    c.mul m (publicKey ⟨c, n⟩).point = c.ofGroup ((m * n) • c.base) := by
  rw [publicKey_eq, Curve.mul_ofGroup, ← mul_nsmul']

theorem exchange_publicKey (c : Curve) (m n : ℕ) :
    exchange ⟨c, m⟩ (publicKey ⟨c, n⟩) =
      .ok (c.firstCoordinate (c.ofGroup ((m * n) • c.base))) := by
  rw [exchange, mul_publicKey]
  exact if_pos rfl

end KeyPair

namespace SharedSecret

variable {c : Curve} {m n : ℕ}

theorem length_firstCoordinate (c : Curve) (p : Point) :
    (c.firstCoordinate p).length = c.fieldSize := by
  cases p <;> exact c.length_fieldBytes _

/-- What two scalars agree on: the first coordinate of their product times the generator, unless it
is all zeros. -/
def ofScalars (c : Curve) (m n : ℕ) : Except Error SharedSecret :=
  let secret := c.firstCoordinate (c.ofGroup ((m * n) • c.base))
  if secret.all (· == 0) then .error (.agreementFailure ("unexpected " ++ c.name ++ " output"))
  else .ok ⟨c, secret⟩

theorem ofScalars_comm (c : Curve) (m n : ℕ) : ofScalars c m n = ofScalars c n m := by
  rw [ofScalars, ofScalars, mul_comm m n]

/-- A key pair agrees with the exported key of a valid one on the secret of their scalars. -/
theorem agree_eq {b : Bytes} (hvalid : KeyPair.IsValid ⟨c, n⟩) (hb : KeyPair.IsExport ⟨c, n⟩ b) :
    agree ⟨c, m⟩ b = ofScalars c m n := by
  unfold agree
  rw [KeyPair.ofBytes_of_isExport hvalid hb, ok_bind, KeyPair.exchange_publicKey, ok_bind,
    ofScalars]
  simp only [length_firstCoordinate, ne_eq, not_true_eq_false, false_or]
  split_ifs <;> rfl

theorem of_ofScalars {s : SharedSecret} (h : ofScalars c m n = .ok s) :
    s.curve = c ∧ s.bytes.length = c.fieldSize := by
  unfold ofScalars at h
  dsimp only at h
  split_ifs at h
  obtain rfl := Except.ok.inj h
  exact ⟨rfl, length_firstCoordinate c _⟩

theorem bytes_ne_nil {s : SharedSecret} (h : ofScalars c m n = .ok s) : s.bytes ≠ [] := by
  rw [← List.length_pos_iff, (of_ofScalars h).2]
  cases c <;> decide

/-- Scalars fail to agree only where the coordinate is all zeros. -/
theorem of_ofScalars_error {fault : Error} (h : ofScalars c m n = .error fault) :
    (∃ message, fault = .agreementFailure message) ∧
      (c.firstCoordinate (c.ofGroup ((m * n) • c.base))).all (· == 0) = true := by
  unfold ofScalars at h
  dsimp only at h
  split_ifs at h with hzero
  exact ⟨⟨_, (Except.error.inj h).symm⟩, hzero⟩

end SharedSecret

end DeviceSecurity
