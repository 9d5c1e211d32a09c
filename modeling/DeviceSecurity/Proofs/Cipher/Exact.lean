import DeviceSecurity.Proofs.Base64.Canonical
import DeviceSecurity.Proofs.Cipher.Fault
import Mathlib.Tactic.ByContra

/-!
# Opening accepts exact seals only

What a context opens is what sealing would have made of the text: the ciphertext and the tag are
those of the text under the nonce of the message (`SealContext.openBytes_eq_ok_iff`). So a
ciphertext has one tag that opens, and since base64 is canonical, a text that opens is the written
form of its own contents once the blanks around it are gone (`SealContext.open_exact`).
-/

namespace DeviceSecurity

/-! ## Written messages -/

/-- A text that is read as a message is the written form of the message, with blanks around it. -/
theorem SealedMessage.toBase64_of_ofBase64 {text : String} {m : SealedMessage}
    (h : ofBase64 text = .ok m) : m.toBase64 = Text.trim text ∧ m.nonce.length = Gcm.nonceSize := by
  unfold ofBase64 at h
  split at h
  · next b hdecode =>
    unfold ofBytes at h
    split at h
    · cases h
    · next hlong =>
      obtain rfl := Except.ok.inj h
      have hbytes : bytes ⟨b.take Gcm.nonceSize, b.drop Gcm.nonceSize⟩ = b :=
        List.take_append_drop Gcm.nonceSize b
      refine ⟨?_, ?_⟩
      · rw [toBase64, hbytes, Base64.readable_standard.encode_of_decode hdecode]
      · unfold minLength at hlong
        rw [List.length_take]
        omega
  · cases h

namespace SealedMessage

theorem body_eq_append (m : SealedMessage) : m.body = m.ciphertext ++ m.tag :=
  (List.take_append_drop _ _).symm

theorem parts_of_body {m : SealedMessage} {ciphertext t : Bytes} (h : m.body = ciphertext ++ t)
    (ht : t.length = Gcm.tagSize) : m.ciphertext = ciphertext ∧ m.tag = t := by
  have hcut : m.body.length - Gcm.tagSize = ciphertext.length := by
    rw [h, List.length_append, ht, Nat.add_sub_cancel]
  rw [SealedMessage.ciphertext, SealedMessage.tag, hcut, h]
  exact ⟨List.take_left, List.drop_left⟩

end SealedMessage

namespace SealContext

variable {c : SealContext}

/-! ## Messages -/

/-- The ciphertext and the tag of a text under a nonce. -/
def body (c : SealContext) (nonce text : Bytes) : Bytes :=
  Gcm.body c.cipher nonce c.associatedData text

/-- The lengths up to which messages are opened: sixteen bytes more than are ever sealed. -/
structure Admits (c : SealContext) (text : Bytes) : Prop where
  text_le : text.length ≤ Gcm.maxLength + Gcm.tagSize
  data_le : c.associatedData.length ≤ Gcm.maxLength

/-- A message opens to the text whose ciphertext and tag it has. -/
theorem openBytes_eq_ok_iff {m : SealedMessage} {text : Bytes} :
    c.openBytes m = .ok text ↔ c.Admits text ∧ m.body = c.body m.nonce text := by
  rw [openBytes_eq_ok, Gcm.decrypt_eq_some_iff]
  exact and_congr_left fun _ => ⟨fun h => ⟨h.1, h.2⟩, fun h => ⟨h.text_le, h.data_le⟩⟩

/-- A message that opens is the one that sealing its text under its nonce makes. -/
theorem sealWith_of_openBytes {m : SealedMessage} {text : Bytes} (h : c.openBytes m = .ok text)
    (hshort : text.length ≤ Gcm.maxLength) : c.sealWith m.nonce text = .ok m := by
  obtain ⟨hadmits, hbody⟩ := openBytes_eq_ok_iff.mp h
  have hdata := hadmits.data_le
  have hsealed : Gcm.encrypt c.cipher m.nonce c.associatedData text = some m.body := by
    rw [Gcm.encrypt_eq, if_neg (by omega), hbody]
    rfl
  rw [sealWith, hsealed]

/-- Of the tags that may stand behind a ciphertext one opens. -/
theorem openBytes_append {nonce ciphertext tag : Bytes} (htag : tag.length = Gcm.tagSize)
    (h : c.Admits ciphertext) : c.openBytes ⟨nonce, ciphertext ++ tag⟩ =
      if tag = Gcm.tag c.cipher nonce c.associatedData ciphertext then
        .ok (Gcm.counterMode c.cipher (Gcm.startCounter nonce) ciphertext)
      else .error .authenticationFailure := by
  have hshort : ¬ (Gcm.maxLength + Gcm.tagSize < ciphertext.length ∨
      Gcm.maxLength < c.associatedData.length) := by
    have htext := h.text_le
    have hdata := h.data_le
    omega
  by_cases hown : tag = Gcm.tag c.cipher nonce c.associatedData ciphertext
  · simp only [openBytes, Gcm.decrypt_append htag, if_neg hshort, if_pos hown]
  · simp only [openBytes, Gcm.decrypt_append htag, if_neg hshort, if_neg hown]

theorem openBytes_append_of_not_admits {nonce ciphertext tag : Bytes}
    (htag : tag.length = Gcm.tagSize) (h : ¬ c.Admits ciphertext) :
    c.openBytes ⟨nonce, ciphertext ++ tag⟩ = .error .authenticationFailure := by
  have hlong : Gcm.maxLength + Gcm.tagSize < ciphertext.length ∨
      Gcm.maxLength < c.associatedData.length := by
    by_contra hshort
    exact h ⟨by omega, by omega⟩
  simp only [openBytes, Gcm.decrypt_append htag, if_pos hlong]

/-- The tag of a message verifies: it is that of the ciphertext, which is of a length that is
opened. -/
structure Verifies (c : SealContext) (m : SealedMessage) : Prop where
  admits : c.Admits m.ciphertext
  tag_eq : m.tag = Gcm.tag c.cipher m.nonce c.associatedData m.ciphertext

/-- A message that opens has the tag of its ciphertext. -/
theorem verifies_of_openBytes {m : SealedMessage} {text : Bytes} (h : c.openBytes m = .ok text) :
    c.Verifies m := by
  obtain ⟨hadmits, hbody⟩ := openBytes_eq_ok_iff.mp h
  obtain ⟨hciphertext, htag⟩ := SealedMessage.parts_of_body hbody (Gcm.length_tag ..)
  refine ⟨⟨?_, hadmits.data_le⟩, ?_⟩
  · rw [hciphertext, Gcm.length_counterMode]
    exact hadmits.text_le
  · rw [hciphertext, htag]

/-! ## Texts -/

theorem openText_eq_ok {sealed text : String} : c.openText sealed = .ok text ↔
    ∃ m, SealedMessage.ofBase64 sealed = .ok m ∧ c.openBytes m = .ok (Bytes.ofText text) := by
  unfold openText
  rw [bind_eq_ok]
  refine exists_congr fun m => and_congr_right fun _ => ?_
  rw [bind_eq_ok]
  constructor
  · rintro ⟨b, hb, h⟩
    split at h
    · next found htext =>
      obtain rfl := Except.ok.inj h
      rw [hb, Bytes.ofText_of_toText? htext]
    · cases h
  · intro h
    exact ⟨_, h, by rw [Bytes.toText?_ofText]; rfl⟩

/-- In device-bound mode a text that opens is sealed again to the same written form, unless it is
longer than what is ever sealed. -/
theorem sealText_of_openText (hmode : c.mode = .deviceBound) {sealed text : String}
    {m : SealedMessage} (hm : SealedMessage.ofBase64 sealed = .ok m)
    (hnonce : m.nonce = deviceBoundNonce) (h : c.openBytes m = .ok (Bytes.ofText text))
    (e : Entropy) : c.sealText text e =
      if Text.isTooLong text then (.error sealFailure, e) else (.ok (Text.trim sealed), e) := by
  have hdata := (openBytes_eq_ok_iff.mp h).1.data_le
  have hseal := sealText_of_nonce hdata text (nonce_deviceBound hmode e)
  split
  · next hlong => rwa [if_pos hlong] at hseal
  · next hshort =>
    have hle : (Bytes.ofText text).length ≤ Gcm.maxLength := by
      simpa [Text.isTooLong] using hshort
    have hsealed := sealWith_of_openBytes h hle
    rw [hnonce] at hsealed
    rw [← (SealedMessage.toBase64_of_ofBase64 hm).1]
    refine sealText_eq_ok.mpr ⟨m, sealBytes_eq_ok.mpr ⟨_, nonce_deviceBound hmode e, hsealed⟩, rfl⟩

/-- A context opens a message to a text exactly when, within the lengths that are covered, the
message has the ciphertext and the tag of the text under its own nonce; it is then the message that
sealing makes. Of all the tags behind a ciphertext one opens, and every other one is refused as
unauthentic. A written message that opens is, without the blanks around it, the written form of its
text sealed under its nonce, and so with the nonce of device-bound messages sealing gives it
back. -/
theorem open_exact (c : SealContext) :
    (∀ m text, c.openBytes m = .ok text ↔ c.Admits text ∧ m.body = c.body m.nonce text) ∧
    (∀ m text, c.openBytes m = .ok text → text.length ≤ Gcm.maxLength →
      c.sealWith m.nonce text = .ok m) ∧
    (∀ nonce ciphertext, c.Admits ciphertext →
      ∃ tag text, tag.length = Gcm.tagSize ∧ c.openBytes ⟨nonce, ciphertext ++ tag⟩ = .ok text ∧
        ∀ other, other.length = Gcm.tagSize → other ≠ tag →
          c.openBytes ⟨nonce, ciphertext ++ other⟩ = .error .authenticationFailure) ∧
    (∀ nonce ciphertext, ¬ c.Admits ciphertext → ∀ tag, tag.length = Gcm.tagSize →
      c.openBytes ⟨nonce, ciphertext ++ tag⟩ = .error .authenticationFailure) ∧
    ∀ sealed text, c.openText sealed = .ok text →
      ∃ m, SealedMessage.ofBase64 sealed = .ok m ∧ m.nonce.length = Gcm.nonceSize ∧
        Text.trim sealed = SealedMessage.toBase64 ⟨m.nonce, c.body m.nonce (Bytes.ofText text)⟩ ∧
        (c.mode = .deviceBound → m.nonce = deviceBoundNonce → ∀ e, c.sealText text e =
          if Text.isTooLong text then (.error sealFailure, e) else (.ok (Text.trim sealed), e)) := by
  refine ⟨fun _ _ => openBytes_eq_ok_iff, fun _ _ => sealWith_of_openBytes,
    fun nonce ciphertext h => ?_, fun nonce ciphertext h tag htag =>
      openBytes_append_of_not_admits htag h, fun sealed text h => ?_⟩
  · refine ⟨Gcm.tag c.cipher nonce c.associatedData ciphertext,
      Gcm.counterMode c.cipher (Gcm.startCounter nonce) ciphertext, Gcm.length_tag .., ?_, ?_⟩
    · rw [openBytes_append (Gcm.length_tag ..) h, if_pos rfl]
    · intro other hother hne
      rw [openBytes_append hother h, if_neg hne]
  · obtain ⟨m, hm, hopen⟩ := openText_eq_ok.mp h
    obtain ⟨htrim, hnonce⟩ := SealedMessage.toBase64_of_ofBase64 hm
    refine ⟨m, hm, hnonce, ?_, fun hmode hfixed e => sealText_of_openText hmode hm hfixed hopen e⟩
    rw [← (openBytes_eq_ok_iff.mp hopen).2, ← htrim]

/-- A device-bound message put between two blanks: sealing its text again gives it back without
them. -/
theorem open_exact_blanks :
    let c : SealContext := ⟨.deviceBound, ⟨List.replicate 32 42, .inr (.inr rfl)⟩, [1]⟩
    ∃ sealed, c.openText (" " ++ sealed ++ "\n") = .ok "héllo" ∧
      c.sealText "héllo" [] = (.ok (Text.trim (" " ++ sealed ++ "\n")), []) := by
  intro c
  have hcovers : c.Covers (Bytes.ofText "héllo") [] :=
    ⟨by decide +kernel, by decide, nofun⟩
  obtain ⟨m, rest, hm⟩ := exists_sealBytes_iff.mpr hcovers
  have hbefore : ∀ x ∈ " ".toList, Text.isBlank x = true := List.forall_mem_singleton.mpr rfl
  have hbehind : ∀ x ∈ "\n".toList, Text.isBlank x = true := List.forall_mem_singleton.mpr rfl
  have hopen : c.openText (" " ++ m.toBase64 ++ "\n") = .ok "héllo" :=
    openText_append_of_sealText (sealText_eq_ok.mpr ⟨m, hm, rfl⟩) ⟨rfl, rfl, fun _ => rfl⟩
      hbefore hbehind
  obtain ⟨n, hn, -, -, hseal⟩ := (open_exact c).2.2.2.2 _ _ hopen
  obtain ⟨hnonce, hread, -⟩ := open_of_sealBytes hm
  have hfixed : n.nonce = deviceBoundNonce := by
    rw [SealedMessage.ofBase64_append m hbefore hbehind, hread] at hn
    obtain rfl := Except.ok.inj hn
    exact (Except.ok.inj (Prod.mk.inj hnonce).1).symm
  have hshort : ¬ Text.isTooLong "héllo" = true := by decide +kernel
  exact ⟨m.toBase64, hopen, (hseal rfl hfixed []).trans (if_neg hshort)⟩

end SealContext

end DeviceSecurity
