import DeviceSecurity.Proofs.Cipher.Exact
import DeviceSecurity.Proofs.Storage.Codec
import Mathlib.Data.List.Basic

/-!
# Device-bound sealing

In device-bound mode every text under a key is added to the same keystream (`Gcm.pad`): a longer
text takes more of it, but no text takes another one (`Gcm.counterMode_eq_mapIdx`). So two
ciphertexts differ exactly as their texts do (`Bytes.xor_mapIdx`), as far as both reach. The whole
message is a function of the text that can be inverted, by opening it, and sealing neither reads
entropy nor looks at the caller's data (`SealContext.deviceBound_keystream`).
-/

namespace DeviceSecurity

/-! ## Keystreams -/

/-- What is added to two byte strings alike cancels out. -/
theorem Bytes.xor_mapIdx (pad : Nat → UInt8) (p q : Bytes) :
    xor (p.mapIdx fun i x => x ^^^ pad i) (q.mapIdx fun i x => x ^^^ pad i) = xor p q := by
  refine List.ext_getElem (by simp) fun i hi _ => ?_
  have hbyte (x y k : UInt8) : (x ^^^ k) ^^^ (y ^^^ k) = x ^^^ y := by
    rw [UInt8.xor_assoc, UInt8.xor_comm y k, ← UInt8.xor_assoc k, UInt8.xor_self, UInt8.zero_xor]
  simp [xor, hbyte]

namespace Gcm

variable (cipher : Block → Block) (counter : Block)

/-- More keystream begins with less of it. -/
theorem keystream_prefix {m n : Nat} (h : m ≤ n) :
    keystream cipher counter m <+: keystream cipher counter n := by
  induction m generalizing counter n with
  | zero => exact List.nil_prefix
  | succ m ih =>
    cases n with
    | zero => omega
    | succ n => exact (List.prefix_append_right_inj _).mpr (ih (increment counter) (by omega))

/-- Byte `i` of the keystream behind a counter block. -/
def pad (i : Nat) : UInt8 := (keystream cipher counter (i / 16 + 1)).getD i 0

theorem getElem_keystream {n i : Nat} (hi : i < (keystream cipher counter n).length) :
    (keystream cipher counter n)[i] = pad cipher counter i := by
  have hlength := length_keystream cipher counter n
  have hpart : i < (keystream cipher counter (i / 16 + 1)).length := by
    rw [length_keystream]
    omega
  have hprefix := keystream_prefix cipher counter (show i / 16 + 1 ≤ n by omega)
  rw [pad, List.getD_eq_getElem?_getD, List.getElem?_eq_getElem hpart, Option.getD_some,
    hprefix.getElem hpart]

/-- Counter mode adds the keystream to a text, byte by byte. -/
theorem counterMode_eq_mapIdx (text : Bytes) :
    counterMode cipher counter text = text.mapIdx fun i x => x ^^^ pad cipher counter i := by
  refine List.ext_getElem (by simp) fun i hi _ => ?_
  simp [counterMode, Bytes.xor, getElem_keystream]

end Gcm

/-! ## Messages -/

namespace SealContext

theorem ciphertext_of_sealWith {c : SealContext} {nonce text : Bytes} {m : SealedMessage}
    (h : c.sealWith nonce text = .ok m) :
    m.ciphertext = Gcm.counterMode c.cipher (Gcm.startCounter nonce) text := by
  obtain ⟨-, hbody⟩ := openBytes_eq_ok_iff.mp (openBytes_of_sealWith h)
  rw [nonce_of_sealWith h] at hbody
  exact (SealedMessage.parts_of_body hbody (Gcm.length_tag ..)).1

/-- The device-bound context of a key, with data that the caller would have authenticated. -/
def deviceBound (key : CipherKey) (data : Bytes) : SealContext := ⟨.deviceBound, key, data⟩

variable {key : CipherKey} {p q text : Bytes} {m n : SealedMessage}

/-- The caller's data do not matter. -/
theorem sealWith_deviceBound (data : Bytes) : (deviceBound key data).sealWith deviceBoundNonce text =
    (deviceBound key []).sealWith deviceBoundNonce text := rfl

/-- What a text is sealed to, with whatever data and entropy. -/
def SealsTo (key : CipherKey) (text : Bytes) (m : SealedMessage) : Prop :=
  ∃ data e, ((deviceBound key data).sealBytes text e).1 = .ok m

theorem sealsTo_iff :
    SealsTo key text m ↔ (deviceBound key []).sealWith deviceBoundNonce text = .ok m := by
  unfold SealsTo
  constructor
  · rintro ⟨data, e, h⟩
    rwa [sealBytes_deviceBound rfl, sealWith_deviceBound] at h
  · intro h
    exact ⟨[], [], by rwa [sealBytes_deviceBound rfl]⟩

namespace SealsTo

theorem exists_iff : (∃ m, SealsTo key text m) ↔ text.length ≤ Gcm.maxLength := by
  simp only [sealsTo_iff, exists_sealWith_iff, and_iff_left_iff_imp]
  intro _
  exact associatedData_le rfl

theorem ciphertext_eq (h : SealsTo key text m) :
    m.ciphertext = text.mapIdx fun i x => x ^^^
      Gcm.pad (Aes.encrypt key.bytes) (Gcm.startCounter deviceBoundNonce) i := by
  rw [ciphertext_of_sealWith (sealsTo_iff.mp h), Gcm.counterMode_eq_mapIdx]
  rfl

theorem unique (hm : SealsTo key text m) (hn : SealsTo key text n) : m = n :=
  Except.ok.inj ((sealsTo_iff.mp hm).symm.trans (sealsTo_iff.mp hn))

/-- The written form is that of one text only, the one that it opens to. -/
theorem toBase64_eq_iff (hm : SealsTo key p m) (hn : SealsTo key q n) :
    m.toBase64 = n.toBase64 ↔ p = q := by
  have hm' := sealsTo_iff.mp hm
  have hn' := sealsTo_iff.mp hn
  constructor
  · intro h
    have hread := ofBase64_of_sealWith rfl hm'
    rw [h, ofBase64_of_sealWith rfl hn'] at hread
    obtain rfl := Except.ok.inj hread
    exact Except.ok.inj ((openBytes_of_sealWith hm').symm.trans (openBytes_of_sealWith hn'))
  · rintro rfl
    rw [hm.unique hn]

theorem xor_ciphertext (hm : SealsTo key p m) (hn : SealsTo key q n) :
    Bytes.xor m.ciphertext n.ciphertext = Bytes.xor p q := by
  rw [hm.ciphertext_eq, hn.ciphertext_eq, Bytes.xor_mapIdx]

end SealsTo

theorem sealsTo_of_sealText {data : Bytes} {e : Entropy} {text sealed : String}
    (h : ((deviceBound key data).sealText text e).1 = .ok sealed) :
    ∃ m, SealsTo key (Bytes.ofText text) m ∧ m.toBase64 = sealed := by
  obtain ⟨m, hm, hwritten⟩ := sealText_eq_ok.mp (Prod.ext h rfl)
  exact ⟨m, ⟨data, e, by rw [hm]⟩, hwritten⟩

/-- Sealing under a key in device-bound mode is a function of the text alone and reads no entropy.
It covers all texts up to the length limit. Byte by byte a ciphertext is the text added to one
keystream of the key: it is as long as the text, and two ciphertexts added are the two texts added,
as far as both reach. Two written forms are equal exactly if the texts are, for strings of bytes
and of characters, and so for the sealed forms of storage keys. -/
theorem deviceBound_keystream (key : CipherKey) :
    (∀ data data' text e e', (deviceBound key data).sealBytes text e =
      (((deviceBound key data').sealBytes text e').1, e)) ∧
    (∀ text, (∃ m, SealsTo key text m) ↔ text.length ≤ Gcm.maxLength) ∧
    (∃ pad : Nat → UInt8, ∀ text m, SealsTo key text m →
      m.ciphertext = text.mapIdx fun i x => x ^^^ pad i) ∧
    (∀ p q m n, SealsTo key p m → SealsTo key q n →
      (m.toBase64 = n.toBase64 ↔ p = q) ∧
      m.ciphertext.length = p.length ∧ n.ciphertext.length = q.length ∧
      Bytes.xor m.ciphertext n.ciphertext = Bytes.xor p q) ∧
    (∀ data data' e e' s t sealed sealed',
      ((deviceBound key data).sealText s e).1 = .ok sealed →
      ((deviceBound key data').sealText t e').1 = .ok sealed' → (sealed = sealed' ↔ s = t)) ∧
    ∀ policy policy' s t sealed sealed', StorageCodec.encodeKey ⟨key, policy⟩ s = .ok sealed →
      StorageCodec.encodeKey ⟨key, policy'⟩ t = .ok sealed' → (sealed = sealed' ↔ s = t) := by
  have htexts : ∀ data data' e e' s t sealed sealed',
      ((deviceBound key data).sealText s e).1 = .ok sealed →
      ((deviceBound key data').sealText t e').1 = .ok sealed' → (sealed = sealed' ↔ s = t) := by
    intro data data' e e' s t sealed sealed' hs ht
    obtain ⟨m, hm, rfl⟩ := sealsTo_of_sealText hs
    obtain ⟨n, hn, rfl⟩ := sealsTo_of_sealText ht
    rw [hm.toBase64_eq_iff hn]
    exact ⟨Bytes.ofText_injective, congrArg Bytes.ofText⟩
  refine ⟨fun data data' text e e' => ?_, fun text => SealsTo.exists_iff,
    ⟨_, fun text m => SealsTo.ciphertext_eq⟩, fun p q m n hm hn => ?_, htexts,
    fun policy policy' s t sealed sealed' hs ht => htexts [] [] [] [] s t _ _ hs ht⟩
  · rw [sealBytes_deviceBound rfl, sealBytes_deviceBound rfl, sealWith_deviceBound data,
      sealWith_deviceBound data']
  · refine ⟨hm.toBase64_eq_iff hn, ?_, ?_, hm.xor_ciphertext hn⟩
    · rw [hm.ciphertext_eq, List.length_mapIdx]
    · rw [hn.ciphertext_eq, List.length_mapIdx]

end SealContext

end DeviceSecurity
