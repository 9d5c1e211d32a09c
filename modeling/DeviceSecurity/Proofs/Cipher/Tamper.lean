import DeviceSecurity.Proofs.Cipher.Blocks
import DeviceSecurity.Proofs.Cipher.Exact
import DeviceSecurity.Proofs.Cipher.Field

/-!
# Tampering with one block

With a hash key other than zero, a ciphertext that is changed within one block of sixteen bytes has
another tag (`Gcm.tag_ne_of_changedIn`): the change is multiplied by the hash key once for every
block from there on, and in a field no product of it is zero. So a message that opens no longer
does after such a change (`SealContext.openBytes_of_tampered`). A hash key of zero is the only one
under which it would (`SealContext.exists_openBytes_of_tampered`).
-/

namespace DeviceSecurity

/-! ## Hashes -/

namespace Gcm

/-- Hashing further blocks keeps different values apart. -/
theorem foldl_hash_ne {h : Block} (hh : h ≠ 0) (blocks : List Block) {y y' : Block}
    (hne : y ≠ y') : blocks.foldl (fun y x => mul (y ^^^ x) h) y ≠
      blocks.foldl (fun y x => mul (y ^^^ x) h) y' := by
  induction blocks generalizing y y' with
  | nil => exact hne
  | cons x blocks ih =>
    -- one step adds a block and multiplies, and both can be undone
    refine ih fun heq => hne ?_
    exact BitVec.xor_left_inj x |>.mp (mul_right_cancel hh heq)

theorem hash_ne {h : Block} (hh : h ≠ 0) (before after : List Block) {x y : Block}
    (hne : x ≠ y) : hash h (before ++ x :: after) ≠ hash h (before ++ y :: after) := by
  rw [hash, hash, List.foldl_append, List.foldl_append, List.foldl_cons, List.foldl_cons]
  refine foldl_hash_ne hh after fun heq => hne ?_
  exact BitVec.xor_right_inj _ |>.mp (mul_right_cancel hh heq)

theorem hash_zero_key (blocks : List Block) : hash 0 blocks = 0 := by
  unfold hash
  induction blocks with
  | nil => rfl
  | cons x blocks ih => rw [List.foldl_cons, mul_zero_right, ih]

variable {cipher : Block → Block} {i : Nat} {a b : Bytes}

/-- The tags of ciphertexts that differ within one block differ. -/
theorem tag_ne_of_changedIn (hkey : cipher 0 ≠ 0) (nonce aad : Bytes)
    (h : Block.ChangedIn i a b) : tag cipher nonce aad a ≠ tag cipher nonce aad b := by
  intro heq
  obtain ⟨before, x, y, after, hne, ha, hb⟩ := h.split_eq
  have hhash := BitVec.xor_left_inj _ |>.mp (Block.bytes_injective heq)
  rw [authenticated, authenticated, ha, hb, h.length_eq] at hhash
  simp only [List.append_assoc, List.cons_append] at hhash
  rw [← List.append_assoc, ← List.append_assoc] at hhash
  exact hash_ne hkey _ _ hne hhash

/-- Under a hash key of zero all ciphertexts have the same tag. -/
theorem tag_eq_of_zero_key (hkey : cipher 0 = 0) (nonce aad : Bytes) :
    tag cipher nonce aad a = tag cipher nonce aad b := by
  rw [tag, tag, hkey, hash_zero_key, hash_zero_key]

end Gcm

/-! ## Messages -/

namespace SealedMessage

/-- Different messages of one length that agree outside the block `i` of their ciphertexts. -/
structure TamperedIn (i : Nat) (m m' : SealedMessage) : Prop where
  ne : m' ≠ m
  length_eq : m'.body.length = m.body.length
  nonce_eq : m'.nonce = m.nonce
  tag_eq : m'.tag = m.tag
  outside : ∀ j, j / 16 ≠ i → m'.ciphertext[j]? = m.ciphertext[j]?

theorem TamperedIn.changedIn {i : Nat} {m m' : SealedMessage} (h : TamperedIn i m m') :
    Block.ChangedIn i m'.ciphertext m.ciphertext where
  length_eq := by
    rw [ciphertext, ciphertext, List.length_take, List.length_take, h.length_eq]
  ne hciphertext := h.ne (by
    have hbody : m'.body = m.body := by
      rw [body_eq_append, body_eq_append, hciphertext, h.tag_eq]
    cases m
    cases m'
    cases h.nonce_eq
    cases hbody
    rfl)
  outside := h.outside

/-- Another byte of the ciphertext is a change within one block. -/
theorem tamperedIn_set {m : SealedMessage} (htag : m.tag.length = Gcm.tagSize) {k : Nat}
    (hk : k < m.ciphertext.length) {x : UInt8} (hx : x ≠ m.ciphertext[k]) :
    m.TamperedIn (k / 16) ⟨m.nonce, m.ciphertext.set k x ++ m.tag⟩ := by
  obtain ⟨hciphertext, ht⟩ := parts_of_body
    (m := ⟨m.nonce, m.ciphertext.set k x ++ m.tag⟩) rfl htag
  refine ⟨fun heq => hx ?_, ?_, rfl, ht, fun j hj => ?_⟩
  · rw [heq] at hciphertext
    have hbyte : m.ciphertext[k]? = some x := by
      rw [hciphertext, List.getElem?_set_self hk]
    rw [List.getElem?_eq_getElem hk] at hbyte
    exact (Option.some.inj hbyte).symm
  · rw [List.length_append, List.length_set, ← List.length_append, ← body_eq_append]
  · rw [hciphertext, List.getElem?_set_ne]
    rintro rfl
    exact hj rfl

end SealedMessage

namespace SealContext

variable {c : SealContext} {m m' : SealedMessage} {text : Bytes} {i : Nat}

/-- Whether a message opens after it was tampered with is up to the tags of the ciphertexts. -/
theorem openBytes_tampered (hopen : c.openBytes m = .ok text) (h : m.TamperedIn i m') :
    c.openBytes m' =
      if Gcm.tag c.cipher m.nonce c.associatedData m.ciphertext =
          Gcm.tag c.cipher m.nonce c.associatedData m'.ciphertext then
        .ok (Gcm.counterMode c.cipher (Gcm.startCounter m.nonce) m'.ciphertext)
      else .error .authenticationFailure := by
  obtain ⟨hadmits, htag⟩ := verifies_of_openBytes hopen
  have hlength : m'.tag.length = Gcm.tagSize := by rw [h.tag_eq, htag, Gcm.length_tag]
  have hadmits' : c.Admits m'.ciphertext :=
    ⟨h.changedIn.length_eq ▸ hadmits.text_le, hadmits.data_le⟩
  have hparts : m' = ⟨m'.nonce, m'.ciphertext ++ m'.tag⟩ := by rw [← m'.body_eq_append]
  rw [← htag, ← h.tag_eq, ← h.nonce_eq, ← openBytes_append hlength hadmits', ← hparts]

/-- Under a key whose hash key is zero no tampering with the ciphertext is noticed. -/
theorem exists_openBytes_of_tampered (hkey : c.cipher 0 = 0) (hopen : c.openBytes m = .ok text)
    (h : m.TamperedIn i m') : ∃ text', c.openBytes m' = .ok text' :=
  ⟨_, (openBytes_tampered hopen h).trans (if_pos (Gcm.tag_eq_of_zero_key hkey _ _))⟩

/-- A message that opens is refused as unauthentic after any change within one block of its
ciphertext, unless the key encrypts the zero block to itself. -/
theorem openBytes_of_tampered (c : SealContext) (hkey : c.cipher 0 ≠ 0) {m m' : SealedMessage}
    {text : Bytes} (hopen : c.openBytes m = .ok text) {i : Nat} (h : m.TamperedIn i m') :
    c.openBytes m' = .error .authenticationFailure := by
  rw [openBytes_tampered hopen h, if_neg (Gcm.tag_ne_of_changedIn hkey _ _ h.changedIn).symm]

/-- A ciphertext of two blocks, the second of them short, with its last byte changed. -/
theorem openBytes_of_tampered_last :
    let c : SealContext := ⟨.deviceBound, ⟨List.replicate 16 42, .inl rfl⟩, []⟩
    ∃ m m', c.cipher 0 ≠ 0 ∧ c.openBytes m = .ok (Bytes.ofText "twenty bytes of text") ∧
      m.TamperedIn 1 m' ∧ c.openBytes m' = .error .authenticationFailure := by
  intro c
  let text : Bytes := Bytes.ofText "twenty bytes of text"
  let m : SealedMessage := ⟨deviceBoundNonce, c.body deviceBoundNonce text⟩
  have hkey : c.cipher 0 ≠ 0 := by decide +kernel
  have hlength : text.length = 20 := by decide +kernel
  have hopen : c.openBytes m = .ok text :=
    openBytes_eq_ok_iff.mpr ⟨⟨by rw [hlength]; decide, by decide⟩, rfl⟩
  obtain ⟨hciphertext, htag⟩ := SealedMessage.parts_of_body (m := m) rfl (Gcm.length_tag ..)
  have hlast : 19 < m.ciphertext.length := by
    rw [hciphertext, Gcm.length_counterMode, hlength]
    decide
  have htampered := SealedMessage.tamperedIn_set (htag ▸ Gcm.length_tag ..) hlast
    (x := m.ciphertext[19] + 1) (by simp)
  exact ⟨m, _, hkey, hopen, htampered, openBytes_of_tampered c hkey hopen htampered⟩

end SealContext

end DeviceSecurity
