import DeviceSecurity.Proofs.Cipher.Exact

/-!
# What opening a text comes to

Opening goes through four stages: the blanks around the text are dropped, base64 is decoded, the
bytes are cut into nonce, ciphertext and tag, and what the cipher gives back is read as UTF-8.
Every text falls into one of three classes, which say nothing about these stages: it is
`Malformed`, it is `Unauthentic`, or it `Holds` a text (`malformed_or_unauthentic_or_holds`). Each
class has an outcome of its own (`openText_classes`), so that a text is refused as malformed only
where its tag has not been looked at or has verified.
-/

namespace DeviceSecurity

open Base64 (readable_standard)

/-! ## Written bytes -/

namespace SealedMessage

/-- A text is base64 of a byte string, with blanks around it. -/
def Spells (sealed : String) (b : Bytes) : Prop := Text.trim sealed = Base64.encode .standard b

/-- The message that a byte string is cut into. -/
def cut (b : Bytes) : SealedMessage := ⟨b.take Gcm.nonceSize, b.drop Gcm.nonceSize⟩

variable {sealed : String} {b : Bytes}

theorem Spells.ofBase64_eq (h : Spells sealed b) : ofBase64 sealed = ofBytes b := by
  unfold Spells at h
  rw [ofBase64, h, readable_standard.decode_encode]

theorem ofBytes_eq_cut (hlong : 28 ≤ b.length) : ofBytes b = .ok (cut b) := by
  have hmin : ¬ b.length < minLength := by
    show ¬ b.length < 28
    omega
  rw [ofBytes, if_neg hmin]
  rfl

theorem Spells.ofBase64_eq_cut (h : Spells sealed b) (hlong : 28 ≤ b.length) :
    ofBase64 sealed = .ok (cut b) := by
  rw [h.ofBase64_eq, ofBytes_eq_cut hlong]

theorem exists_ofBytes_eq_error (hshort : b.length < 28) :
    ∃ why, ofBytes b = .error (.malformedInput why) :=
  ⟨_, if_pos hshort⟩

/-- What is no base64 is read as no message. -/
theorem exists_ofBase64_eq_error (h : ¬∃ b, Spells sealed b) :
    ∃ why, ofBase64 sealed = .error (.malformedInput why) := by
  unfold ofBase64
  cases hdecode : Base64.decode .standard (Text.trim sealed) with
  | error fault => exact ⟨_, rfl⟩
  | ok b => exact absurd ⟨b, (readable_standard.encode_of_decode hdecode).symm⟩ h

end SealedMessage

namespace SealContext

open SealedMessage (Spells cut)

variable {c : SealContext} {sealed : String} {b : Bytes}

/-! ## Messages -/

/-- What a message says under the key, whether or not its tag verifies. -/
def plaintext (c : SealContext) (m : SealedMessage) : Bytes :=
  Gcm.counterMode c.cipher (Gcm.startCounter m.nonce) m.ciphertext

theorem openBytes_of_verifies {m : SealedMessage} (h : c.Verifies m) :
    c.openBytes m = .ok (c.plaintext m) := by
  have htag : m.tag.length = Gcm.tagSize := by rw [h.tag_eq, Gcm.length_tag]
  have hparts : m = ⟨m.nonce, m.ciphertext ++ m.tag⟩ := by rw [← m.body_eq_append]
  calc c.openBytes m = c.openBytes ⟨m.nonce, m.ciphertext ++ m.tag⟩ := congrArg c.openBytes hparts
    _ = .ok (c.plaintext m) := by
      rw [openBytes_append htag h.admits, if_pos h.tag_eq]
      rfl

theorem openBytes_of_not_verifies {m : SealedMessage} (h : ¬c.Verifies m) :
    c.openBytes m = .error .authenticationFailure := by
  cases hopen : c.openBytes m with
  | ok text => exact absurd (verifies_of_openBytes hopen) h
  | error fault =>
    obtain ⟨-, rfl⟩ := openBytes_eq_error.mp hopen
    rfl

/-! ## Classes of texts -/

/-- A text that is no base64, that is too short for a nonce and a tag, or that is authentic but
holds no text. -/
inductive Malformed (c : SealContext) (sealed : String) : Prop
  | notBase64 (h : ¬∃ b, Spells sealed b)
  | tooShort {b : Bytes} (h : Spells sealed b) (hshort : b.length < 28)
  | notText {b : Bytes} (h : Spells sealed b) (hlong : 28 ≤ b.length) (htag : c.Verifies (cut b))
    (htext : ¬∃ text, Bytes.ofText text = c.plaintext (cut b))

/-- A text of enough bytes of which the tag does not verify. -/
def Unauthentic (c : SealContext) (sealed : String) : Prop :=
  ∃ b, Spells sealed b ∧ 28 ≤ b.length ∧ ¬c.Verifies (cut b)

/-- A text of enough bytes of which the tag verifies, and what it says in UTF-8. -/
def Holds (c : SealContext) (sealed text : String) : Prop :=
  ∃ b, Spells sealed b ∧ 28 ≤ b.length ∧ c.Verifies (cut b) ∧
    Bytes.ofText text = c.plaintext (cut b)

/-- There are no other texts. -/
theorem malformed_or_unauthentic_or_holds (c : SealContext) (sealed : String) :
    c.Malformed sealed ∨ c.Unauthentic sealed ∨ ∃ text, c.Holds sealed text := by
  by_cases hspells : ∃ b, Spells sealed b
  · obtain ⟨b, hb⟩ := hspells
    by_cases hlong : 28 ≤ b.length
    · by_cases htag : c.Verifies (cut b)
      · by_cases htext : ∃ text, Bytes.ofText text = c.plaintext (cut b)
        · obtain ⟨text, htext⟩ := htext
          exact .inr (.inr ⟨text, b, hb, hlong, htag, htext⟩)
        · exact .inl (.notText hb hlong htag htext)
      · exact .inr (.inl ⟨b, hb, hlong, htag⟩)
    · exact .inl (.tooShort hb (by omega))
  · exact .inl (.notBase64 hspells)

/-! ## Outcomes -/

theorem Malformed.openText (h : c.Malformed sealed) :
    ∃ why, c.openText sealed = .error (.malformedInput why) := by
  cases h with
  | notBase64 h =>
    obtain ⟨why, hread⟩ := SealedMessage.exists_ofBase64_eq_error h
    exact ⟨why, by rw [SealContext.openText, hread, error_bind]⟩
  | tooShort h hshort =>
    obtain ⟨why, hread⟩ := SealedMessage.exists_ofBytes_eq_error hshort
    exact ⟨why, by rw [SealContext.openText, h.ofBase64_eq, hread, error_bind]⟩
  | @notText b h hlong htag htext =>
    have hnone : Bytes.toText? (c.plaintext (cut b)) = none := by
      refine Option.eq_none_iff_forall_ne_some.mpr fun text hsome => ?_
      exact htext ⟨text, Bytes.ofText_of_toText? hsome⟩
    rw [SealContext.openText, h.ofBase64_eq_cut hlong, ok_bind, openBytes_of_verifies htag, ok_bind,
      hnone]
    exact ⟨_, rfl⟩

theorem Unauthentic.openText (h : c.Unauthentic sealed) :
    c.openText sealed = .error .authenticationFailure := by
  obtain ⟨b, hb, hlong, htag⟩ := h
  rw [SealContext.openText, hb.ofBase64_eq_cut hlong, ok_bind, openBytes_of_not_verifies htag,
    error_bind]

theorem Holds.openText {text : String} (h : c.Holds sealed text) :
    c.openText sealed = .ok text := by
  obtain ⟨b, hb, hlong, htag, htext⟩ := h
  rw [SealContext.openText, hb.ofBase64_eq_cut hlong, ok_bind, openBytes_of_verifies htag, ok_bind,
    ← htext, Bytes.toText?_ofText]
  rfl

/-- A text has the outcome of its class. -/
theorem openText_cases (c : SealContext) (sealed : String) :
    (∃ why, c.openText sealed = .error (.malformedInput why) ∧ c.Malformed sealed) ∨
      (c.openText sealed = .error .authenticationFailure ∧ c.Unauthentic sealed) ∨
      ∃ text, c.openText sealed = .ok text ∧ c.Holds sealed text := by
  rcases c.malformed_or_unauthentic_or_holds sealed with h | h | ⟨text, h⟩
  · obtain ⟨why, hopen⟩ := h.openText
    exact .inl ⟨why, hopen, h⟩
  · exact .inr (.inl ⟨h.openText, h⟩)
  · exact .inr (.inr ⟨text, h.openText, h⟩)

/-! Each outcome belongs to one class, since the other two have another. -/

theorem malformed_of_openText {why : String}
    (h : c.openText sealed = .error (.malformedInput why)) : c.Malformed sealed := by
  obtain ⟨why', -, hclass⟩ | ⟨hopen, -⟩ | ⟨text, hopen, -⟩ := c.openText_cases sealed
  · exact hclass
  · rw [hopen] at h
    cases h
  · rw [hopen] at h
    cases h

theorem unauthentic_of_openText (h : c.openText sealed = .error .authenticationFailure) :
    c.Unauthentic sealed := by
  obtain ⟨why, hopen, -⟩ | ⟨-, hclass⟩ | ⟨text, hopen, -⟩ := c.openText_cases sealed
  · rw [hopen] at h
    cases h
  · exact hclass
  · rw [hopen] at h
    cases h

theorem holds_of_openText {text : String} (h : c.openText sealed = .ok text) :
    c.Holds sealed text := by
  obtain ⟨why, hopen, -⟩ | ⟨hopen, -⟩ | ⟨text', hopen, hclass⟩ := c.openText_cases sealed
  · rw [hopen] at h
    cases h
  · rw [hopen] at h
    cases h
  · rw [hopen] at h
    cases h
    exact hclass

theorem fault_of_openText {fault : Error} (h : c.openText sealed = .error fault) :
    fault = .authenticationFailure ∨ ∃ why, fault = .malformedInput why := by
  cases openText_eq_error.mp h with
  | notBase64 h => exact .inr ⟨_, rfl⟩
  | tooShort h hshort => exact .inr ⟨_, rfl⟩
  | unauthentic h htag => exact .inl rfl
  | notText h htag htext => exact .inr ⟨_, rfl⟩

/-- Under every key, in every mode and with all associated data: a text is refused as malformed if
and only if it is no base64 between blanks, has fewer than 28 bytes, or is authentic without being
UTF-8; it is refused as unauthentic if and only if it has 28 bytes or more and its tag does not
verify; and it opens to a text if and only if its tag verifies and the text is what it says. There
is no other error, neither for a text nor for a message: a key has one of the lengths that the
cipher takes. -/
theorem openText_classes (c : SealContext) :
    (∀ sealed, (∃ why, c.openText sealed = .error (.malformedInput why)) ↔ c.Malformed sealed) ∧
    (∀ sealed, c.openText sealed = .error .authenticationFailure ↔ c.Unauthentic sealed) ∧
    (∀ sealed text, c.openText sealed = .ok text ↔ c.Holds sealed text) ∧
    (∀ sealed fault, c.openText sealed = .error fault →
      fault = .authenticationFailure ∨ ∃ why, fault = .malformedInput why) ∧
    (∀ m text, c.openBytes m = .ok text ↔ c.Verifies m ∧ text = c.plaintext m) ∧
    ∀ m fault, c.openBytes m = .error fault ↔ ¬c.Verifies m ∧ fault = .authenticationFailure := by
  refine ⟨fun sealed => ?_, fun sealed => ?_, fun sealed text => ?_,
    fun sealed fault => fault_of_openText, fun m text => ?_, fun m fault => ?_⟩
  · exact ⟨fun ⟨_, h⟩ => malformed_of_openText h, Malformed.openText⟩
  · exact ⟨unauthentic_of_openText, Unauthentic.openText⟩
  · exact ⟨holds_of_openText, Holds.openText⟩
  · by_cases htag : c.Verifies m
    · rw [openBytes_of_verifies htag]
      simp [htag, eq_comm]
    · rw [openBytes_of_not_verifies htag]
      simp [htag]
  · by_cases htag : c.Verifies m
    · rw [openBytes_of_verifies htag]
      simp [htag]
    · rw [openBytes_of_not_verifies htag]
      simp [htag, eq_comm]

end SealContext

end DeviceSecurity
