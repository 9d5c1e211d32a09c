import DeviceSecurity.Cipher.Key
import DeviceSecurity.Proofs.Base64.Canonical
import DeviceSecurity.Proofs.Result

/-!
# Deriving keys

Derivation fails for an empty secret only: every other secret gives a key, as it stands or through
HKDF. Which of the two it is for a storage key, and what its bytes are, is decided by whether the
secret is the base64 text of a key (`forStorage_encode`, `forStorage_of_not_encode`).
-/

namespace DeviceSecurity.CipherKey

theorem ofBytes_of_length {b : Bytes} (h : b.length = 16 ∨ b.length = 24 ∨ b.length = 32) :
    ofBytes b = .ok ⟨b, h⟩ := dif_pos h

theorem exists_derive (material label : Bytes) : ∃ key, derive material label = .ok key := by
  unfold derive
  cases hexpand : Hkdf.expand (Hkdf.extract none material) label derivedSize with
  | none => simp [Hkdf.expand, derivedSize] at hexpand
  | some key =>
    have hlength : key.length = 32 := Hkdf.length_of_expand hexpand
    exact ⟨_, ofBytes_of_length (.inr (.inr hlength))⟩

/-- Every secret text but the empty one gives a storage key. -/
theorem exists_forStorage {secret : String} (h : secret ≠ "") :
    ∃ key, forStorage secret = .ok key := by
  unfold forStorage
  rw [if_neg (by simpa using h)]
  split
  · next b _ =>
    split
    · next hlength => exact ⟨_, ofBytes_of_length hlength⟩
    · exact exists_derive _ _
  · exact exists_derive _ _

/-- Every agreed secret but the empty one gives a channel key. -/
theorem exists_forChannel {secret : Bytes} (h : secret ≠ []) :
    ∃ key, forChannel secret = .ok key := by
  unfold forChannel
  rw [if_neg (by simpa using h)]
  split
  · next hlength => exact ⟨_, ofBytes_of_length (.inr (.inr hlength))⟩
  · exact exists_derive _ _

/-! ## The bytes of a channel key -/

theorem bytes_of_ofBytes {b : Bytes} {key : CipherKey} (h : ofBytes b = .ok key) :
    key.bytes = b := by
  unfold ofBytes at h
  split at h
  · obtain rfl := Except.ok.inj h
    rfl
  · cases h

theorem expand_of_derive {material label : Bytes} {key : CipherKey}
    (h : derive material label = .ok key) :
    Hkdf.expand (Hkdf.extract none material) label derivedSize = some key.bytes := by
  unfold derive at h
  split at h
  · next hexpand => rw [hexpand, bytes_of_ofBytes h]
  · cases h

/-- A secret of 32 bytes is the channel key as it stands. -/
theorem bytes_of_forChannel {secret : Bytes} {key : CipherKey} (h : forChannel secret = .ok key)
    (hlength : secret.length = derivedSize) : key.bytes = secret := by
  unfold forChannel at h
  split at h
  · cases h
  · exact bytes_of_ofBytes h

/-- From a secret of another length the channel key is expanded. -/
theorem expand_of_forChannel {secret : Bytes} {key : CipherKey} (h : forChannel secret = .ok key)
    (hlength : secret.length ≠ derivedSize) :
    Hkdf.expand (Hkdf.extract none secret) channelLabel derivedSize = some key.bytes := by
  unfold forChannel at h
  split at h
  · cases h
  · exact expand_of_derive h

/-! ## The bytes of a storage key -/

/-- A number of bytes that a key can have. -/
abbrev IsSize (n : Nat) : Prop := n = 16 ∨ n = 24 ∨ n = 32

/-- The one block of HKDF-SHA256 that a derived key is: the secret is extracted without salt, and
the block is the first that is expanded for the label. -/
def derivedBytes (material label : Bytes) : Bytes :=
  Hmac.hmac (Hmac.hmac (List.replicate 32 0) material) (label ++ [1])

theorem length_derivedBytes (material label : Bytes) :
    (derivedBytes material label).length = derivedSize := Hmac.length_hmac _ _

theorem expand_derivedSize (material label : Bytes) :
    Hkdf.expand (Hkdf.extract none material) label derivedSize =
      some (derivedBytes material label) := by
  have hblock : (derivedBytes material label ++ []).take derivedSize =
      derivedBytes material label := by
    rw [List.append_nil, ← length_derivedBytes material label, List.take_length]
  exact congrArg some hblock

theorem derive_eq (material label : Bytes) : derive material label =
    .ok ⟨derivedBytes material label, .inr (.inr (length_derivedBytes material label))⟩ := by
  rw [derive, expand_derivedSize]
  exact ofBytes_of_length _

theorem encode_ne_empty {b : Bytes} (h : IsSize b.length) : Base64.encode .standard b ≠ "" := by
  intro hempty
  have hlength := Base64.Variant.Readable.length_encode (v := .standard) rfl b
  rw [hempty, String.toList_empty, List.length_nil] at hlength
  omega

/-- The base64 text of a key is taken for that key. -/
theorem forStorage_encode {b : Bytes} (h : IsSize b.length) :
    forStorage (Base64.encode .standard b) = .ok ⟨b, h⟩ := by
  unfold forStorage
  rw [if_neg (by simpa using encode_ne_empty h), Base64.readable_standard.decode_encode]
  show (if b.length = 16 ∨ b.length = 24 ∨ b.length = 32 then ofBytes b else _) = _
  rw [if_pos h, ofBytes_of_length h]

/-- From a secret that is the base64 text of no key, a key is derived. -/
theorem forStorage_of_not_encode {secret : String} (hne : secret ≠ "")
    (hnone : ∀ b : Bytes, IsSize b.length → Base64.encode .standard b ≠ secret) :
    forStorage secret = derive (Bytes.ofText secret) storageLabel := by
  unfold forStorage
  rw [if_neg (by simpa using hne)]
  split
  · next b hdecode =>
    have hsize : ¬(b.length = 16 ∨ b.length = 24 ∨ b.length = 32) := fun h =>
      hnone b h (Base64.readable_standard.encode_of_decode hdecode)
    exact if_neg hsize
  · rfl

end DeviceSecurity.CipherKey
