import DeviceSecurity.Proofs.Cipher.WrittenForm

/-!
# Faults of sealing and opening

Sealing fails where a fresh nonce finds too little entropy and where a text is too long. Opening
fails where a text is no written message, where its tag does not verify and where what it holds is
no text of characters. No other errors come from a context (`SealContext.sealText_eq_error`,
`SealContext.openText_eq_error`).
-/

namespace DeviceSecurity.SealContext

variable {c : SealContext}

/-- The reasons not to seal a text. -/
inductive Unsealable (c : SealContext) (text : String) (e : Entropy) : Error → Prop
  | noEntropy (hmode : c.mode = .sharedKey) (h : e.length < Gcm.nonceSize) :
    Unsealable c text e .rngFailed
  | tooLong (hentropy : c.mode = .sharedKey → Gcm.nonceSize ≤ e.length)
    (h : Text.isTooLong text = true) : Unsealable c text e sealFailure

/-- The reasons not to open a text. -/
inductive Unopenable (c : SealContext) (sealed : String) : Error → Prop
  | notBase64 {fault : Base64.Fault}
    (h : Base64.decode .standard (Text.trim sealed) = .error fault) :
    Unopenable c sealed (.malformedInput ("invalid base64: " ++ fault.message))
  | tooShort {b : Bytes} (h : Base64.decode .standard (Text.trim sealed) = .ok b)
    (hshort : b.length < SealedMessage.minLength) :
    Unopenable c sealed (.malformedInput
      s!"sealed message is {b.length} bytes, need at least {SealedMessage.minLength}")
  | unauthentic {m : SealedMessage} (h : SealedMessage.ofBase64 sealed = .ok m)
    (htag : Gcm.decrypt c.cipher m.nonce c.associatedData m.body = none) :
    Unopenable c sealed .authenticationFailure
  | notText {m : SealedMessage} {b : Bytes} (h : SealedMessage.ofBase64 sealed = .ok m)
    (htag : Gcm.decrypt c.cipher m.nonce c.associatedData m.body = some b)
    (htext : Bytes.toText? b = none) :
    Unopenable c sealed (.malformedInput "decrypted payload is not UTF-8")

/-- Sealing a text fails for one of the reasons, if the associated data is short. -/
theorem sealText_eq_error (hdata : c.associatedData.length ≤ Gcm.maxLength) {text : String}
    {e : Entropy} {fault : Error} :
    (c.sealText text e).1 = .error fault ↔ c.Unsealable text e fault := by
  constructor
  · intro h
    by_cases hentropy : c.mode = .sharedKey → Gcm.nonceSize ≤ e.length
    · obtain ⟨nonce, rest, hnonce⟩ := exists_nonce_iff.mpr hentropy
      have hseal := sealText_of_nonce hdata text hnonce
      split at hseal
      · next hlong =>
        rw [hseal] at h
        obtain rfl := Except.error.inj h
        exact .tooLong hentropy hlong
      · obtain ⟨sealed, hsealed⟩ := hseal
        rw [hsealed] at h
        cases h
    · obtain ⟨hmode, hless⟩ := Classical.not_imp.mp hentropy
      have hless := Nat.not_le.mp hless
      rw [sealText, sealBytes, nonce_sharedKey hmode, if_pos hless] at h
      obtain rfl := Except.error.inj h
      exact .noEntropy hmode hless
  · intro h
    cases h with
    | noEntropy hmode h => rw [sealText, sealBytes, nonce_sharedKey hmode, if_pos h]
    | tooLong hentropy h =>
      obtain ⟨nonce, rest, hnonce⟩ := exists_nonce_iff.mpr hentropy
      have hseal := sealText_of_nonce hdata text hnonce
      rw [if_pos h] at hseal
      rw [hseal]

/-- A text is not read as a message where it is no base64 or too short. -/
theorem ofBase64_eq_error {sealed : String} {fault : Error}
    (h : SealedMessage.ofBase64 sealed = .error fault) : c.Unopenable sealed fault := by
  unfold SealedMessage.ofBase64 at h
  split at h
  · next b hdecode =>
    unfold SealedMessage.ofBytes at h
    split at h
    · next hshort =>
      obtain rfl := Except.error.inj h
      exact .tooShort hdecode hshort
    · cases h
  · next reason hdecode =>
    obtain rfl := Except.error.inj h
    exact .notBase64 hdecode

theorem openBytes_eq_ok {m : SealedMessage} {b : Bytes} :
    c.openBytes m = .ok b ↔ Gcm.decrypt c.cipher m.nonce c.associatedData m.body = some b := by
  unfold openBytes
  cases Gcm.decrypt c.cipher m.nonce c.associatedData m.body <;> simp

theorem openBytes_eq_error {m : SealedMessage} {fault : Error} :
    c.openBytes m = .error fault ↔
      Gcm.decrypt c.cipher m.nonce c.associatedData m.body = none ∧
        fault = .authenticationFailure := by
  unfold openBytes
  cases Gcm.decrypt c.cipher m.nonce c.associatedData m.body <;> simp [eq_comm]

/-- Opening a text fails for one of the reasons. -/
theorem openText_eq_error {sealed : String} {fault : Error} :
    c.openText sealed = .error fault ↔ c.Unopenable sealed fault := by
  unfold openText
  constructor
  · intro h
    rcases bind_eq_error.mp h with h | ⟨m, hm, h⟩
    · exact ofBase64_eq_error h
    · rcases bind_eq_error.mp h with h | ⟨b, hb, h⟩
      · obtain ⟨htag, rfl⟩ := openBytes_eq_error.mp h
        exact .unauthentic hm htag
      · split at h
        · cases h
        · next htext =>
          obtain rfl := Except.error.inj h
          exact .notText hm (openBytes_eq_ok.mp hb) htext
  · intro h
    cases h with
    | notBase64 h => rw [SealedMessage.ofBase64, h, error_bind]
    | tooShort h hshort =>
      simp only [SealedMessage.ofBase64, h, SealedMessage.ofBytes, if_pos hshort, error_bind]
    | unauthentic h htag =>
      rw [h, ok_bind, openBytes_eq_error.mpr ⟨htag, rfl⟩, error_bind]
    | notText h htag htext =>
      rw [h, ok_bind, openBytes_eq_ok.mpr htag, ok_bind, htext]
      rfl

end DeviceSecurity.SealContext
