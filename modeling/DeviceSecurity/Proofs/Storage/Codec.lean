import DeviceSecurity.Proofs.Cipher.RoundTrip
import DeviceSecurity.Storage.Codec

/-!
# What a codec keeps

A codec opens whatever it sealed, under either policy, and so does every other codec with its key
(`decodeEntry_of_encodeEntry`). A storage key has one sealed form, and no other key shares it.
-/

namespace DeviceSecurity.StorageCodec

variable {c : StorageCodec}

theorem decryptValue_of_openText {stored plain : String} {hard : Bool}
    (h : (c.context hard).openText stored = .ok plain) :
    c.decryptValue stored hard = .ok plain := by
  rw [decryptValue, h]

/-- A codec opens the values that it sealed. -/
theorem decryptValue_of_encryptValue {value stored : String} {hard : Bool} {e rest : Entropy}
    (h : c.encryptValue value hard e = (.ok stored, rest)) :
    c.decryptValue stored hard = .ok value :=
  decryptValue_of_openText (SealContext.openText_of_sealText h)

/-! ## Keys -/

/-- Sealing a storage key leaves the entropy alone, and does not depend on it. -/
theorem encryptValue_key (c : StorageCodec) (key : String) (e : Entropy) :
    c.encryptValue key false e = (c.encodeKey key, e) := by
  rw [encodeKey, encryptValue, encryptValue, SealContext.sealText_eq, SealContext.sealText_eq,
    SealContext.sealBytes_deviceBound rfl, SealContext.sealBytes_deviceBound rfl]

/-- A codec opens the storage keys that it sealed. -/
theorem decodeKey_of_encodeKey {key sealedKey : String} (h : c.encodeKey key = .ok sealedKey) :
    c.decodeKey sealedKey = .ok key := by
  have hseal : c.encryptValue key false [] = (.ok sealedKey, (c.encryptValue key false []).2) :=
    Prod.ext h rfl
  exact decryptValue_of_encryptValue hseal

/-- Different storage keys have different sealed forms. -/
theorem encodeKey_injective {k₁ k₂ sealedKey : String} (h₁ : c.encodeKey k₁ = .ok sealedKey)
    (h₂ : c.encodeKey k₂ = .ok sealedKey) : k₁ = k₂ := by
  have h := decodeKey_of_encodeKey h₁
  rw [decodeKey_of_encodeKey h₂] at h
  exact (Except.ok.inj h).symm

/-- Every storage key that is not too long has a sealed form. -/
theorem encodeKey_eq (c : StorageCodec) (key : String) :
    if Text.isTooLong key then c.encodeKey key = .error SealContext.sealFailure
    else ∃ sealedKey, c.encodeKey key = .ok sealedKey := by
  have hnonce := SealContext.nonce_deviceBound (c := c.context false) rfl []
  have hseal := SealContext.sealText_of_nonce (SealContext.associatedData_le rfl) key hnonce
  unfold encodeKey encryptValue
  split
  · next h =>
    rw [if_pos h] at hseal
    rw [hseal]
  · next h =>
    rw [if_neg h] at hseal
    obtain ⟨sealedKey, hsealed⟩ := hseal
    exact ⟨sealedKey, by rw [hsealed]⟩

theorem exists_encodeKey (c : StorageCodec) {key : String} (hshort : ¬ Text.isTooLong key) :
    ∃ sealedKey, c.encodeKey key = .ok sealedKey := by
  have hsealed := c.encodeKey_eq key
  rwa [if_neg hshort] at hsealed

/-! ## Entries -/

theorem encodeEntry_eq_ok {key value : String} {hard : Bool} {e rest : Entropy}
    {entry : String × String} (h : c.encodeEntry key value hard e = (.ok entry, rest)) :
    c.encodeKey key = .ok entry.1 ∧ c.encryptValue value hard e = (.ok entry.2, rest) := by
  unfold encodeEntry at h
  split at h
  · cases h
  · next sealedKey hkey =>
    split at h
    · next sealedValue rest' hvalue =>
      cases h
      exact ⟨hkey, hvalue⟩
    · cases h

/-- What a codec sealed is opened by every codec with the same key, whatever their policies are. -/
theorem decodeEntry_of_encodeEntry {d : StorageCodec} (hkey : d.key = c.key) {key value : String}
    {hard : Bool} {e rest : Entropy} {entry : String × String}
    (h : c.encodeEntry key value hard e = (.ok entry, rest)) :
    d.decodeEntry entry.1 entry.2 hard = .ok (key, value) := by
  have hcontext : ∀ hard, d.context hard = c.context hard := by
    intro hard
    rw [context, context, hkey]
  obtain ⟨hsealedKey, hsealedValue⟩ := encodeEntry_eq_ok h
  have hopenKey : d.decodeKey entry.1 = .ok key := by
    apply decryptValue_of_openText
    rw [hcontext]
    exact SealContext.openText_of_sealText (Prod.ext hsealedKey rfl)
  have hopenValue : d.decryptValue entry.2 hard = .ok value := by
    apply decryptValue_of_openText
    rw [hcontext]
    exact SealContext.openText_of_sealText hsealedValue
  rw [decodeEntry, hopenKey, ok_bind, hopenValue]
  rfl

/-- Without hard mode, an entry whose key and value are not too long is sealed without entropy. -/
theorem exists_encodeEntry (c : StorageCodec) {key value : String} (hkey : ¬Text.isTooLong key)
    (hvalue : ¬Text.isTooLong value) (e : Entropy) :
    ∃ entry, c.encodeEntry key value false e = (.ok entry, e) := by
  obtain ⟨sealedKey, hsealedKey⟩ := c.exists_encodeKey hkey
  obtain ⟨sealedValue, hsealedValue⟩ := c.exists_encodeKey hvalue
  refine ⟨(sealedKey, sealedValue), ?_⟩
  unfold encodeEntry
  rw [hsealedKey, encryptValue_key, hsealedValue]

end DeviceSecurity.StorageCodec
