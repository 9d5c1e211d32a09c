import DeviceSecurity.Proofs.Cipher.Exact

/-!
# The frame of a sealed message

A message is framed if its nonce has twelve bytes and its body holds at least a tag. Framed messages
and byte strings of at least 28 bytes are one to one (`ofBytes_eq_ok_iff`), and so are framed
messages and the texts that are read, but for the blanks around them (`ofBase64_eq_ok_iff`). What is
read and what is sealed is framed, so cutting off the tag never asks for more bytes than there are.
-/

namespace DeviceSecurity

namespace SealedMessage

variable {m : SealedMessage} {b : Bytes} {text : String}

/-- A nonce of its size, and behind it at least a tag. -/
structure IsFramed (m : SealedMessage) : Prop where
  nonce : m.nonce.length = Gcm.nonceSize
  body : Gcm.tagSize ≤ m.body.length

/-! ## Parts -/

theorem IsFramed.length_tag (h : m.IsFramed) : m.tag.length = 16 := by
  have hbody : 16 ≤ m.body.length := h.body
  show (m.body.drop (m.body.length - 16)).length = 16
  rw [List.length_drop]
  omega

theorem IsFramed.length_ciphertext (h : m.IsFramed) :
    m.ciphertext.length = m.bytes.length - 28 := by
  have hnonce : m.nonce.length = 12 := h.nonce
  show (m.body.take (m.body.length - 16)).length = (m.nonce ++ m.body).length - 28
  rw [List.length_take, List.length_append]
  omega

theorem parts_append (m : SealedMessage) : m.nonce ++ m.ciphertext ++ m.tag = m.bytes := by
  rw [List.append_assoc, ← m.body_eq_append]
  rfl

/-! ## Bytes -/

theorem IsFramed.length_bytes (h : m.IsFramed) : 28 ≤ m.bytes.length := by
  have hnonce : m.nonce.length = 12 := h.nonce
  have hbody : 16 ≤ m.body.length := h.body
  show 28 ≤ (m.nonce ++ m.body).length
  rw [List.length_append]
  omega

/-- Bytes are read as the one framed message that has them. -/
theorem ofBytes_eq_ok_iff : ofBytes b = .ok m ↔ m.IsFramed ∧ m.bytes = b := by
  constructor
  · intro h
    unfold ofBytes at h
    split at h
    · cases h
    · next hlong =>
      obtain rfl := Except.ok.inj h
      have hlength : 28 ≤ b.length := Nat.not_lt.mp hlong
      refine ⟨⟨?_, ?_⟩, List.take_append_drop Gcm.nonceSize b⟩
      · show (b.take 12).length = 12
        rw [List.length_take]
        omega
      · show 16 ≤ (b.drop 12).length
        rw [List.length_drop]
        omega
  · rintro ⟨hframed, rfl⟩
    exact ofBytes_bytes hframed.nonce hframed.body

/-- Enough bytes for a nonce and a tag are a message, and fewer are malformed. -/
theorem exists_ofBytes_iff : (∃ m, ofBytes b = .ok m) ↔ 28 ≤ b.length := by
  constructor
  · rintro ⟨m, h⟩
    obtain ⟨hframed, rfl⟩ := ofBytes_eq_ok_iff.mp h
    exact hframed.length_bytes
  · intro h
    exact ⟨_, if_neg (Nat.not_lt.mpr h)⟩

/-! ## Texts -/

/-- A text is read as the one framed message that it is, but for blanks, the written form of. -/
theorem ofBase64_eq_ok_iff : ofBase64 text = .ok m ↔ m.IsFramed ∧ m.toBase64 = Text.trim text := by
  constructor
  · intro h
    obtain ⟨hwritten, -⟩ := toBase64_of_ofBase64 h
    unfold ofBase64 at h
    split at h
    · exact ⟨(ofBytes_eq_ok_iff.mp h).1, hwritten⟩
    · cases h
  · rintro ⟨hframed, hwritten⟩
    rw [ofBase64, ← hwritten, toBase64, Base64.readable_standard.decode_encode]
    exact ofBytes_bytes hframed.nonce hframed.body

theorem toBase64_injective {m n : SealedMessage} (hm : m.IsFramed) (hn : n.IsFramed)
    (h : m.toBase64 = n.toBase64) : m = n := by
  have hread := ofBase64_toBase64 hm.nonce hm.body
  rw [h, ofBase64_toBase64 hn.nonce hn.body] at hread
  exact (Except.ok.inj hread).symm

end SealedMessage

/-- What is sealed is framed. -/
theorem SealContext.isFramed_of_sealBytes {c : SealContext} {text : Bytes} {e rest : Entropy}
    {m : SealedMessage} (h : c.sealBytes text e = (.ok m, rest)) : m.IsFramed := by
  obtain ⟨nonce, hnonce, hseal⟩ := sealBytes_eq_ok.mp h
  obtain ⟨body, hbody, rfl⟩ := sealWith_eq_ok.mp hseal
  have hlength := Gcm.length_of_encrypt hbody
  have htag : Gcm.tagSize ≤ body.length := by omega
  exact ⟨length_of_nonce hnonce, htag⟩

/-- Every byte string of at least 28 bytes is a message, and no shorter one. The bytes of the
message are those it was read from, cut into a nonce of twelve bytes, a ciphertext, and a tag of
sixteen, and no other message with a nonce and a tag has them; messages that are read or sealed have
both. A text that is read is, without the blanks around it, the written form of the message, so
that two of them are the same message exactly if they are equal without their blanks. -/
theorem SealedMessage.framing_exact :
    (∀ b, ((∃ m, ofBytes b = .ok m) ↔ 28 ≤ b.length) ∧
      (b.length < 28 → ∃ reason, ofBytes b = .error (.malformedInput reason)) ∧
      ∀ m, ofBytes b = .ok m → m.bytes = b ∧ m.nonce.length = 12 ∧
        m.ciphertext.length = b.length - 28 ∧ m.tag.length = 16 ∧
        m.nonce ++ m.ciphertext ++ m.tag = b) ∧
    (∀ m : SealedMessage, (ofBytes m.bytes = .ok m ↔ m.IsFramed) ∧
      ((∃ b, ofBytes b = .ok m) → 16 ≤ m.body.length) ∧
      ∀ c : SealContext, ∀ text e rest, c.sealBytes text e = (.ok m, rest) →
        16 ≤ m.body.length ∧ ofBytes m.bytes = .ok m) ∧
    (∀ text m, ofBase64 text = .ok m ↔ m.IsFramed ∧ m.toBase64 = Text.trim text) ∧
    ∀ text text' m m', ofBase64 text = .ok m → ofBase64 text' = .ok m' →
      (m = m' ↔ Text.trim text = Text.trim text') := by
  refine ⟨fun b => ⟨exists_ofBytes_iff, fun hshort => ⟨_, if_pos hshort⟩, fun m h => ?_⟩,
    fun m => ⟨?_, ?_, fun c text e rest h => ?_⟩, fun _ _ => ofBase64_eq_ok_iff,
    fun text text' m m' h h' => ?_⟩
  · obtain ⟨hframed, rfl⟩ := ofBytes_eq_ok_iff.mp h
    exact ⟨rfl, hframed.nonce, hframed.length_ciphertext, hframed.length_tag, m.parts_append⟩
  · rw [ofBytes_eq_ok_iff, and_iff_left rfl]
  · rintro ⟨b, h⟩
    exact (ofBytes_eq_ok_iff.mp h).1.body
  · have hframed := SealContext.isFramed_of_sealBytes h
    exact ⟨hframed.body, ofBytes_bytes hframed.nonce hframed.body⟩
  · obtain ⟨hframed, hwritten⟩ := ofBase64_eq_ok_iff.mp h
    obtain ⟨hframed', hwritten'⟩ := ofBase64_eq_ok_iff.mp h'
    rw [← hwritten, ← hwritten']
    exact ⟨congrArg toBase64, toBase64_injective hframed hframed'⟩

/-- Bytes of the least length are a message without ciphertext, whose written form may stand between
blanks; one byte less is too short. -/
theorem SealedMessage.framing_exact_shortest :
    (¬∃ m, ofBytes (List.replicate 27 0) = .ok m) ∧
    ∃ m, ofBytes (List.replicate 28 0) = .ok m ∧ m.ciphertext = [] ∧ m.tag = List.replicate 16 0 ∧
      ofBase64 (" " ++ m.toBase64 ++ "\n") = .ok m := by
  obtain ⟨hbytes, -, htexts, -⟩ := framing_exact
  obtain ⟨m, hm⟩ := (hbytes (List.replicate 28 0)).1.mpr (by decide)
  obtain ⟨hframed, hsame⟩ := ofBytes_eq_ok_iff.mp hm
  have hbefore : ∀ c ∈ " ".toList, Text.isBlank c = true := List.forall_mem_singleton.mpr rfl
  have hbehind : ∀ c ∈ "\n".toList, Text.isBlank c = true := List.forall_mem_singleton.mpr rfl
  have htrim : m.toBase64 = Text.trim (" " ++ m.toBase64 ++ "\n") :=
    (Text.trim_append hbefore hbehind
      fun _ hc => Base64.readable_standard.not_isBlank_of_mem_encode hc).symm
  refine ⟨fun h => ?_, m, hm, ?_, ?_, (htexts _ m).mpr ⟨hframed, htrim⟩⟩
  · have hlong := (hbytes (List.replicate 27 0)).1.mp h
    simp at hlong
  all_goals
    obtain rfl := Except.ok.inj hm
    rfl

end DeviceSecurity
