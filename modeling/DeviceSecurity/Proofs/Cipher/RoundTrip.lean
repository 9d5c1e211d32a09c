import DeviceSecurity.Cipher.Sealed
import DeviceSecurity.Proofs.Base64.RoundTrip
import DeviceSecurity.Proofs.Text.Trim

/-!
# Opening what was sealed

Galois counter mode decrypts what it encrypted and nothing else (`Gcm.decrypt_eq_some_iff`), a
written message is read back (`SealedMessage.ofBase64_toBase64`), and so a context opens every text
that it sealed (`SealContext.openText_of_sealText`). In device-bound mode sealing is a function of
the text that draws no entropy, and one that keeps different texts apart.
-/

namespace DeviceSecurity

/-! ## Galois counter mode -/

namespace Gcm

variable {cipher : Block → Block} {nonce aad text sealed : Bytes}

/-- The ciphertext of a text with its tag behind it, whatever the lengths. -/
def body (cipher : Block → Block) (nonce aad text : Bytes) : Bytes :=
  let ciphertext := counterMode cipher (startCounter nonce) text
  ciphertext ++ tag cipher nonce aad ciphertext

theorem encrypt_eq : encrypt cipher nonce aad text =
    if maxLength < text.length ∨ maxLength < aad.length then none
    else some (body cipher nonce aad text) := rfl

/-- Encryption fails only for what is too long. -/
theorem encrypt_isSome_iff :
    (encrypt cipher nonce aad text).isSome ↔ text.length ≤ maxLength ∧ aad.length ≤ maxLength := by
  rw [encrypt_eq]
  split
  · next h => simp; omega
  · next h => simp; omega

/-- The tag stands behind a ciphertext as long as the text. -/
theorem length_of_encrypt (h : encrypt cipher nonce aad text = some sealed) :
    sealed.length = text.length + tagSize := by
  rw [encrypt_eq] at h
  split at h
  · cases h
  · obtain rfl := Option.some.inj h
    simp [body]

/-- A ciphertext with a tag behind it is decrypted if the tag is its own and the lengths are
covered. -/
theorem decrypt_append {ciphertext t : Bytes} (ht : t.length = tagSize) :
    decrypt cipher nonce aad (ciphertext ++ t) =
      if maxLength + tagSize < ciphertext.length ∨ maxLength < aad.length then none
      else if t = tag cipher nonce aad ciphertext then
        some (counterMode cipher (startCounter nonce) ciphertext)
      else none := by
  have hcut : (ciphertext ++ t).length - tagSize = ciphertext.length := by
    rw [List.length_append, ht, Nat.add_sub_cancel]
  have hlong : ¬ (ciphertext ++ t).length < tagSize := by
    rw [List.length_append, ht]
    omega
  unfold decrypt
  simp only [hcut, List.take_left, List.drop_left, hlong, false_or]

/-- Every string of bytes that is long enough is a ciphertext with a tag behind it. -/
theorem exists_append_of_decrypt (h : decrypt cipher nonce aad sealed = some text) :
    ∃ ciphertext t, t.length = tagSize ∧ sealed = ciphertext ++ t := by
  have hlong : tagSize ≤ sealed.length := by
    unfold decrypt at h
    dsimp only at h
    split at h
    · cases h
    · next hsize => omega
  refine ⟨_, _, ?_, (List.take_append_drop (sealed.length - tagSize) sealed).symm⟩
  rw [List.length_drop]
  omega

/-- Decryption accepts the ciphertext and the tag of the text and nothing else. -/
theorem decrypt_eq_some_iff : decrypt cipher nonce aad sealed = some text ↔
    (text.length ≤ maxLength + tagSize ∧ aad.length ≤ maxLength) ∧
      sealed = body cipher nonce aad text := by
  constructor
  · intro h
    obtain ⟨ciphertext, t, ht, rfl⟩ := exists_append_of_decrypt h
    rw [decrypt_append ht] at h
    split at h
    · cases h
    next hsize =>
    split at h
    · next htag =>
      obtain rfl := Option.some.inj h
      rw [length_counterMode, body, counterMode_counterMode, htag]
      exact ⟨by omega, rfl⟩
    · cases h
  · rintro ⟨hsize, rfl⟩
    have hshort : ¬ (maxLength + tagSize < text.length ∨ maxLength < aad.length) := by omega
    rw [body, decrypt_append (length_tag ..), length_counterMode, if_neg hshort, if_pos rfl,
      counterMode_counterMode]

/-- Decryption inverts encryption. -/
theorem decrypt_of_encrypt (h : encrypt cipher nonce aad text = some sealed) :
    decrypt cipher nonce aad sealed = some text := by
  rw [encrypt_eq] at h
  split at h
  · cases h
  · next hsize =>
    obtain rfl := Option.some.inj h
    exact decrypt_eq_some_iff.mpr ⟨by omega, rfl⟩

end Gcm

/-! ## Written messages -/

namespace SealedMessage

theorem ofBytes_bytes {m : SealedMessage} (hnonce : m.nonce.length = Gcm.nonceSize)
    (hbody : Gcm.tagSize ≤ m.body.length) : ofBytes m.bytes = .ok m := by
  have hlength : ¬ m.bytes.length < minLength := by
    simp only [bytes, minLength, List.length_append]
    omega
  rw [ofBytes, if_neg hlength, bytes, ← hnonce, List.take_left, List.drop_left]

theorem trim_toBase64 (m : SealedMessage) : Text.trim m.toBase64 = m.toBase64 :=
  Text.trim_eq_self fun _ hc => Base64.readable_standard.not_isBlank_of_mem_encode hc

/-- The written form is read back. -/
theorem ofBase64_toBase64 {m : SealedMessage} (hnonce : m.nonce.length = Gcm.nonceSize)
    (hbody : Gcm.tagSize ≤ m.body.length) : ofBase64 m.toBase64 = .ok m := by
  have hdecode : Base64.decode .standard (Text.trim m.toBase64) = .ok m.bytes := by
    rw [trim_toBase64, toBase64, Base64.readable_standard.decode_encode]
  rw [ofBase64, hdecode]
  exact ofBytes_bytes hnonce hbody

end SealedMessage

/-! ## Contexts -/

/-- Whether a text has more bytes than one nonce may cover. -/
def Text.isTooLong (text : String) : Bool := Gcm.maxLength < (Bytes.ofText text).length

namespace SealContext

variable {c : SealContext}

/-- The associated data of a context without caller's data is short. -/
theorem associatedData_le (h : c.callerData = []) : c.associatedData.length ≤ Gcm.maxLength := by
  unfold associatedData
  cases c.mode with
  | deviceBound => simp [deviceBoundData, Gcm.maxLength]
  | sharedKey => simp [h]

theorem length_of_nonce {e rest : Entropy} {n : Bytes} (h : c.nonce e = (.ok n, rest)) :
    n.length = Gcm.nonceSize := by
  unfold nonce at h
  cases hmode : c.mode with
  | deviceBound =>
    rw [hmode] at h
    obtain rfl : deviceBoundNonce = n := by simpa using congrArg Prod.fst h
    rfl
  | sharedKey =>
    rw [hmode] at h
    cases hdraw : e.draw Gcm.nonceSize with
    | none => simp [hdraw] at h
    | some drawn =>
      obtain ⟨b, left⟩ := drawn
      obtain rfl : b = n := by simpa [hdraw] using congrArg Prod.fst h
      exact (Entropy.draw_eq_some_iff.mp hdraw).1

theorem sealWith_eq_ok {nonce text : Bytes} {m : SealedMessage} :
    c.sealWith nonce text = .ok m ↔
      ∃ body, Gcm.encrypt c.cipher nonce c.associatedData text = some body ∧ ⟨nonce, body⟩ = m := by
  unfold sealWith
  cases Gcm.encrypt c.cipher nonce c.associatedData text with
  | none => simp
  | some body => simp

theorem openBytes_of_sealWith {nonce text : Bytes} {m : SealedMessage}
    (h : c.sealWith nonce text = .ok m) : c.openBytes m = .ok text := by
  obtain ⟨body, hbody, rfl⟩ := sealWith_eq_ok.mp h
  rw [openBytes, Gcm.decrypt_of_encrypt hbody]

theorem ofBase64_of_sealWith {nonce text : Bytes} {m : SealedMessage}
    (hnonce : nonce.length = Gcm.nonceSize) (h : c.sealWith nonce text = .ok m) :
    SealedMessage.ofBase64 m.toBase64 = .ok m := by
  obtain ⟨body, hbody, rfl⟩ := sealWith_eq_ok.mp h
  have hlength := Gcm.length_of_encrypt hbody
  have htag : Gcm.tagSize ≤ body.length := by omega
  exact SealedMessage.ofBase64_toBase64 hnonce htag

/-- The text of a message is read back from its written form. -/
theorem openText_of_sealWith {nonce : Bytes} {text : String} {m : SealedMessage}
    (hnonce : nonce.length = Gcm.nonceSize) (h : c.sealWith nonce (Bytes.ofText text) = .ok m) :
    c.openText m.toBase64 = .ok text := by
  rw [openText, ofBase64_of_sealWith hnonce h, ok_bind, openBytes_of_sealWith h, ok_bind,
    Bytes.toText?_ofText]
  rfl

/-- A context opens what it sealed. -/
theorem openText_of_sealText {text sealed : String} {e rest : Entropy}
    (h : c.sealText text e = (.ok sealed, rest)) : c.openText sealed = .ok text := by
  unfold sealText sealBytes at h
  rcases hnonce : c.nonce e with ⟨fault | nonce, left⟩
  · simp [hnonce] at h
  · rw [hnonce] at h
    cases hseal : c.sealWith nonce (Bytes.ofText text) with
    | error fault => simp [hseal] at h
    | ok m =>
      obtain rfl : m.toBase64 = sealed := by simpa [hseal] using congrArg Prod.fst h
      exact openText_of_sealWith (length_of_nonce hnonce) hseal

/-- Sealing under a nonce fails for a text that is too long, and for no other one. -/
theorem sealWith_eq (hdata : c.associatedData.length ≤ Gcm.maxLength) (nonce : Bytes)
    (text : String) :
    if Text.isTooLong text then c.sealWith nonce (Bytes.ofText text) = .error sealFailure
    else ∃ m, c.sealWith nonce (Bytes.ofText text) = .ok m := by
  have hiff : (Gcm.encrypt c.cipher nonce c.associatedData (Bytes.ofText text)).isSome ↔
      (Bytes.ofText text).length ≤ Gcm.maxLength ∧ c.associatedData.length ≤ Gcm.maxLength :=
    Gcm.encrypt_isSome_iff
  unfold sealWith
  split
  · next hlong =>
    have hnone : Gcm.encrypt c.cipher nonce c.associatedData (Bytes.ofText text) = none := by
      rw [← Option.not_isSome_iff_eq_none, hiff]
      simp only [Text.isTooLong, decide_eq_true_eq] at hlong
      omega
    rw [hnone]
  · next hshort =>
    have hsome : (Gcm.encrypt c.cipher nonce c.associatedData (Bytes.ofText text)).isSome := by
      rw [hiff]
      simp only [Text.isTooLong, decide_eq_true_eq] at hshort
      omega
    obtain ⟨body, hbody⟩ := Option.isSome_iff_exists.mp hsome
    exact ⟨⟨nonce, body⟩, by rw [hbody]⟩

/-! ## Outcomes of sealing -/

theorem nonce_deviceBound (hmode : c.mode = .deviceBound) (e : Entropy) :
    c.nonce e = (.ok deviceBoundNonce, e) := by
  unfold nonce
  rw [hmode]

/-- Device-bound messages leave the entropy alone, and do not depend on it. -/
theorem sealBytes_deviceBound (hmode : c.mode = .deviceBound) (text : Bytes) (e : Entropy) :
    c.sealBytes text e = (c.sealWith deviceBoundNonce text, e) := by
  rw [sealBytes, nonce_deviceBound hmode]

/-- A fresh nonce is the next bytes of the entropy, if there are enough of them. -/
theorem nonce_sharedKey (hmode : c.mode = .sharedKey) (e : Entropy) :
    c.nonce e = if e.length < Gcm.nonceSize then (.error .rngFailed, e)
      else (.ok (e.take Gcm.nonceSize), e.drop Gcm.nonceSize) := by
  unfold nonce
  rw [hmode]
  by_cases h : e.length < Gcm.nonceSize
  · rw [if_pos h, Entropy.draw_eq_none_iff.mpr h]
  · have hdraw : Entropy.draw Gcm.nonceSize e =
        some (e.take Gcm.nonceSize, e.drop Gcm.nonceSize) := by
      refine Entropy.draw_eq_some_iff.mpr ⟨?_, (List.take_append_drop _ e).symm⟩
      rw [List.length_take]
      omega
    rw [if_neg h, hdraw]

theorem sealText_eq (c : SealContext) (text : String) (e : Entropy) :
    c.sealText text e = (SealedMessage.toBase64 <$> (c.sealBytes (Bytes.ofText text) e).1,
      (c.sealBytes (Bytes.ofText text) e).2) := by
  unfold sealText
  rcases c.sealBytes (Bytes.ofText text) e with ⟨fault | m, rest⟩ <;> rfl

/-- Once there is a nonce, sealing fails for a text that is too long and for no other one. -/
theorem sealText_of_nonce (hdata : c.associatedData.length ≤ Gcm.maxLength) (text : String)
    {e rest : Entropy} {nonce : Bytes} (h : c.nonce e = (.ok nonce, rest)) :
    if Text.isTooLong text then c.sealText text e = (.error sealFailure, rest)
    else ∃ sealed, c.sealText text e = (.ok sealed, rest) := by
  have hseal := sealWith_eq hdata nonce text
  rw [sealText, sealBytes, h]
  split
  · next hlong =>
    rw [if_pos hlong] at hseal
    simp [hseal]
  · next hshort =>
    rw [if_neg hshort] at hseal
    obtain ⟨m, hm⟩ := hseal
    exact ⟨m.toBase64, by simp [hm]⟩

end SealContext

end DeviceSecurity
