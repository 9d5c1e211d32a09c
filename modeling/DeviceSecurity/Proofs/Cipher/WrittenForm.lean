import DeviceSecurity.Proofs.Cipher.RoundTrip
import DeviceSecurity.Proofs.Result

/-!
# Messages survive being written

A message that was sealed comes back from its written form, and every context that agrees with the
one it was sealed in opens it (`SealContext.open_of_seal`). Contexts agree when they have the same
key and mode and authenticate the same data: the caller's data matters in shared-key mode only.
Sealing itself succeeds for every text of a length that the cipher covers, as long as there is
entropy for a fresh nonce where one is needed.
-/

namespace DeviceSecurity

namespace SealedMessage

/-- Blanks around the written form do not matter. -/
theorem ofBase64_append (m : SealedMessage) {before behind : String}
    (hbefore : ∀ c ∈ before.toList, Text.isBlank c = true)
    (hbehind : ∀ c ∈ behind.toList, Text.isBlank c = true) :
    ofBase64 (before ++ m.toBase64 ++ behind) = ofBase64 m.toBase64 := by
  have hblank : ∀ c ∈ m.toBase64.toList, Text.isBlank c = false :=
    fun _ hc => Base64.readable_standard.not_isBlank_of_mem_encode hc
  unfold ofBase64
  rw [Text.trim_append hbefore hbehind hblank, Text.trim_eq_self hblank]

end SealedMessage

namespace SealContext

variable {c d : SealContext}

/-! ## Contexts that agree -/

/-- Contexts that open each other's messages: they share key and mode and, in shared-key mode, the
caller's data. -/
structure AgreesWith (c d : SealContext) : Prop where
  key : c.key = d.key
  mode : c.mode = d.mode
  callerData : c.mode = .sharedKey → c.callerData = d.callerData

theorem AgreesWith.associatedData_eq (h : c.AgreesWith d) :
    c.associatedData = d.associatedData := by
  unfold associatedData
  rw [← h.mode]
  cases hmode : c.mode with
  | deviceBound => rfl
  | sharedKey => exact h.callerData hmode

theorem AgreesWith.openBytes_eq (h : c.AgreesWith d) (m : SealedMessage) :
    d.openBytes m = c.openBytes m := by
  unfold openBytes cipher
  rw [h.key, h.associatedData_eq]

theorem AgreesWith.openText_eq (h : c.AgreesWith d) (sealed : String) :
    d.openText sealed = c.openText sealed := by
  unfold openText
  simp only [h.openBytes_eq]

/-! ## What sealing needs -/

/-- A nonce is there unless a fresh one finds too little entropy. -/
theorem exists_nonce_iff {e : Entropy} :
    (∃ nonce rest, c.nonce e = (.ok nonce, rest)) ↔
      (c.mode = .sharedKey → Gcm.nonceSize ≤ e.length) := by
  cases hmode : c.mode with
  | deviceBound =>
    exact iff_of_true ⟨_, _, nonce_deviceBound hmode e⟩ nofun
  | sharedKey =>
    rw [nonce_sharedKey hmode]
    by_cases h : e.length < Gcm.nonceSize
    · simp [h]
    · simp [h, Nat.not_lt.mp h]

/-- A text is sealed under a nonce unless it or the associated data is too long. -/
theorem exists_sealWith_iff {nonce text : Bytes} :
    (∃ m, c.sealWith nonce text = .ok m) ↔
      text.length ≤ Gcm.maxLength ∧ c.associatedData.length ≤ Gcm.maxLength := by
  have hlength : (Gcm.encrypt c.cipher nonce c.associatedData text).isSome ↔ _ :=
    Gcm.encrypt_isSome_iff
  rw [← hlength]
  unfold sealWith
  cases Gcm.encrypt c.cipher nonce c.associatedData text with
  | none => simp
  | some body => simp

theorem sealBytes_eq_ok {text : Bytes} {e rest : Entropy} {m : SealedMessage} :
    c.sealBytes text e = (.ok m, rest) ↔
      ∃ nonce, c.nonce e = (.ok nonce, rest) ∧ c.sealWith nonce text = .ok m := by
  unfold sealBytes
  rcases c.nonce e with ⟨fault | nonce, left⟩
  · simp
  · constructor
    · intro h
      obtain ⟨hseal, rfl⟩ := Prod.mk.inj h
      exact ⟨nonce, rfl, hseal⟩
    · rintro ⟨nonce, ⟨⟩, hseal⟩
      exact Prod.ext hseal rfl

theorem sealText_eq_ok {text sealed : String} {e rest : Entropy} :
    c.sealText text e = (.ok sealed, rest) ↔
      ∃ m, c.sealBytes (Bytes.ofText text) e = (.ok m, rest) ∧ m.toBase64 = sealed := by
  unfold sealText
  rcases c.sealBytes (Bytes.ofText text) e with ⟨fault | m, left⟩
  · simp
  · constructor
    · rintro ⟨⟩
      exact ⟨m, rfl, rfl⟩
    · rintro ⟨m, ⟨⟩, rfl⟩
      rfl

/-- What a text needs to be sealed: the cipher covers its length and that of the associated data,
and there is entropy for a fresh nonce. -/
structure Covers (c : SealContext) (text : Bytes) (e : Entropy) : Prop where
  text_le : text.length ≤ Gcm.maxLength
  data_le : c.associatedData.length ≤ Gcm.maxLength
  entropy_le : c.mode = .sharedKey → Gcm.nonceSize ≤ e.length

/-- Sealing succeeds for every text that the context covers, and for no other one. -/
theorem exists_sealBytes_iff {text : Bytes} {e : Entropy} :
    (∃ m rest, c.sealBytes text e = (.ok m, rest)) ↔ c.Covers text e := by
  constructor
  · rintro ⟨m, rest, h⟩
    obtain ⟨nonce, hnonce, hseal⟩ := sealBytes_eq_ok.mp h
    obtain ⟨htext, hdata⟩ := exists_sealWith_iff.mp ⟨m, hseal⟩
    exact ⟨htext, hdata, exists_nonce_iff.mp ⟨nonce, rest, hnonce⟩⟩
  · intro h
    obtain ⟨nonce, rest, hnonce⟩ := exists_nonce_iff.mpr h.entropy_le
    obtain ⟨m, hm⟩ := exists_sealWith_iff.mpr ⟨h.text_le, h.data_le⟩
    exact ⟨m, rest, sealBytes_eq_ok.mpr ⟨nonce, hnonce, hm⟩⟩

/-! ## Opening -/

theorem nonce_of_sealWith {nonce text : Bytes} {m : SealedMessage}
    (h : c.sealWith nonce text = .ok m) : m.nonce = nonce := by
  obtain ⟨body, -, rfl⟩ := sealWith_eq_ok.mp h
  rfl

/-- A sealed message carries the nonce that was drawn for it, is read back from its written form
and opens in every context that agrees. -/
theorem open_of_sealBytes {text : Bytes} {e rest : Entropy} {m : SealedMessage}
    (h : c.sealBytes text e = (.ok m, rest)) :
    c.nonce e = (.ok m.nonce, rest) ∧ SealedMessage.ofBase64 m.toBase64 = .ok m ∧
      ∀ d, c.AgreesWith d → d.openBytes m = .ok text := by
  obtain ⟨nonce, hnonce, hseal⟩ := sealBytes_eq_ok.mp h
  refine ⟨?_, ofBase64_of_sealWith (length_of_nonce hnonce) hseal, fun d hd => ?_⟩
  · rw [nonce_of_sealWith hseal, hnonce]
  · rw [hd.openBytes_eq, openBytes_of_sealWith hseal]

/-- A sealed text opens in every context that agrees, with any blanks around it. -/
theorem openText_append_of_sealText {text sealed before behind : String} {e rest : Entropy}
    (h : c.sealText text e = (.ok sealed, rest)) (hd : c.AgreesWith d)
    (hbefore : ∀ c ∈ before.toList, Text.isBlank c = true)
    (hbehind : ∀ c ∈ behind.toList, Text.isBlank c = true) :
    d.openText (before ++ sealed ++ behind) = .ok text := by
  obtain ⟨m, -, rfl⟩ := sealText_eq_ok.mp h
  have hopen := openText_of_sealText h
  rw [hd.openText_eq]
  unfold openText at hopen ⊢
  rw [SealedMessage.ofBase64_append m hbefore hbehind]
  exact hopen

/-- Under every key, in every mode and with all associated data, sealing succeeds for exactly the
texts that the context covers. The message has the nonce that the entropy supplied, is read back
from its written form, and opens to the text in every context that agrees; and so does the written
form of every text of characters, with any blanks around it. -/
theorem open_of_seal (c : SealContext) (e : Entropy) :
    (∀ text, (∃ m rest, c.sealBytes text e = (.ok m, rest)) ↔ c.Covers text e) ∧
    (∀ text m rest, c.sealBytes text e = (.ok m, rest) →
      c.nonce e = (.ok m.nonce, rest) ∧ SealedMessage.ofBase64 m.toBase64 = .ok m ∧
        ∀ d, c.AgreesWith d → d.openBytes m = .ok text) ∧
    ∀ text : String, c.Covers (Bytes.ofText text) e →
      ∃ sealed rest, c.sealText text e = (.ok sealed, rest) ∧
        ∀ d before behind, c.AgreesWith d → (∀ c ∈ before.toList, Text.isBlank c = true) →
          (∀ c ∈ behind.toList, Text.isBlank c = true) →
          d.openText (before ++ sealed ++ behind) = .ok text := by
  refine ⟨fun _ => exists_sealBytes_iff, fun _ _ _ => open_of_sealBytes, fun text hcovers => ?_⟩
  obtain ⟨m, rest, hm⟩ := exists_sealBytes_iff.mpr hcovers
  have hsealed : c.sealText text e = (.ok m.toBase64, rest) := sealText_eq_ok.mpr ⟨m, hm, rfl⟩
  exact ⟨m.toBase64, rest, hsealed,
    fun d before behind hd hbefore hbehind =>
      openText_append_of_sealText hsealed hd hbefore hbehind⟩

/-- A key of 24 bytes, two bytes of the caller's data and twelve bytes of entropy: the empty text is
sealed, and its written form opens between two blanks. -/
theorem open_of_seal_empty :
    ∃ key : CipherKey, key.bytes.length = 24 ∧
      let c : SealContext := ⟨.sharedKey, key, [1, 2]⟩
      c.Covers (Bytes.ofText "") (List.replicate 12 7) ∧
        ∃ sealed rest, c.sealText "" (List.replicate 12 7) = (.ok sealed, rest) ∧
          c.openText (" " ++ sealed ++ "\n") = .ok "" := by
  refine ⟨⟨List.replicate 24 5, .inr (.inl rfl)⟩, rfl, ?_⟩
  intro c
  have hcovers : c.Covers (Bytes.ofText "") (List.replicate 12 7) :=
    ⟨by decide +kernel, by decide, fun _ => by decide⟩
  obtain ⟨sealed, rest, hsealed, hopen⟩ := (open_of_seal c (List.replicate 12 7)).2.2 "" hcovers
  exact ⟨hcovers, sealed, rest, hsealed,
    hopen c " " "\n" ⟨rfl, rfl, fun _ => rfl⟩ (List.forall_mem_singleton.mpr rfl)
      (List.forall_mem_singleton.mpr rfl)⟩

end SealContext

end DeviceSecurity
