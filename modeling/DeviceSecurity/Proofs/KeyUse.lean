import DeviceSecurity.Proofs.Cipher.Key
import DeviceSecurity.Proofs.Cipher.WrittenForm
import DeviceSecurity.Proofs.Configuration
import DeviceSecurity.Proofs.Session.History

/-!
# Keys in use

The length of a key is looked at when the key is built, and once more when the cipher is set up for
its bytes (`underKey`). Both accept the same lengths, so the second refusal is only for bytes that
are no key: the bytes of the keys that can be built are exactly those that sealing never refuses
(`SealContext.isSize_iff_sealUnder`). Sessions and storage codecs hold such keys only, and settings
that were read with a secret give a codec on every device.
-/

namespace DeviceSecurity

/-! ## Keys that can be built -/

namespace CipherKey

variable {key : CipherKey} {fault : Error}

/-- The keys that there is a way to make. -/
inductive Built : CipherKey → Prop
  | ofBytes {b : Bytes} {key : CipherKey} (h : ofBytes b = .ok key) : Built key
  | ofBase64 {text : String} {key : CipherKey} (h : ofBase64 text = .ok key) : Built key
  | forChannel {secret : Bytes} {key : CipherKey} (h : forChannel secret = .ok key) : Built key
  | forStorage {secret : String} {key : CipherKey} (h : forStorage secret = .ok key) : Built key

/-- The bytes of the keys that can be built are those of the three sizes. -/
theorem exists_built_iff {b : Bytes} : (∃ key, Built key ∧ key.bytes = b) ↔ IsSize b.length := by
  constructor
  · rintro ⟨key, -, rfl⟩
    exact key.size
  · intro h
    exact ⟨⟨b, h⟩, .ofBytes (ofBytes_of_length h), rfl⟩

theorem isEmpty_eq_false (key : CipherKey) : key.isEmpty = false := by
  have hsize := key.size
  rw [isEmpty, List.isEmpty_eq_false_iff, ← List.length_pos_iff]
  omega

/-- The only reason for which a secret has no channel key is that it is empty. -/
theorem forChannel_eq_error {secret : Bytes} : forChannel secret = .error fault ↔
    secret = [] ∧ fault = .invalidKey "empty shared secret" := by
  by_cases hempty : secret = []
  · subst hempty
    exact ⟨fun h => ⟨rfl, (Except.error.inj h).symm⟩, fun h => h.2 ▸ rfl⟩
  · obtain ⟨key, hkey⟩ := exists_forChannel hempty
    exact iff_of_false (by simp [hkey]) fun h => hempty h.1

/-- The only reason for which a text has no storage key is that it is empty. -/
theorem forStorage_eq_error {secret : String} : forStorage secret = .error fault ↔
    secret = "" ∧ fault = .invalidKey "empty storage secret" := by
  by_cases hempty : secret = ""
  · subst hempty
    exact ⟨fun h => ⟨rfl, (Except.error.inj h).symm⟩, fun h => h.2 ▸ rfl⟩
  · obtain ⟨key, hkey⟩ := exists_forStorage hempty
    exact iff_of_false (by simp [hkey]) fun h => hempty h.1

end CipherKey

/-! ## Bytes in the place of a key -/

theorem underKey_of_isSize {α : Type} {key : Bytes} (h : CipherKey.IsSize key.length)
    (use : (Block → Block) → Except Error α) : underKey key use = use (Aes.encrypt key) := by
  unfold underKey
  rcases h with h | h | h <;> simp only [h]

theorem underKey_of_not_isSize {α : Type} {key : Bytes} (h : ¬CipherKey.IsSize key.length)
    (use : (Block → Block) → Except Error α) :
    underKey key use = .error (.invalidKey s!"unsupported key length {key.length}") := by
  unfold underKey
  split
  · next hlength => exact absurd (.inl hlength) h
  · next hlength => exact absurd (.inr (.inl hlength)) h
  · next hlength => exact absurd (.inr (.inr hlength)) h
  · rfl

namespace SealContext

variable {c : SealContext} {text : Bytes} {e : Entropy} {reason : String}

/-- Under the bytes of its key, a context seals as it does. -/
theorem sealUnder_bytes (c : SealContext) (text : Bytes) (e : Entropy) :
    c.sealUnder c.key.bytes text e = c.sealBytes text e := by
  unfold sealUnder sealBytes
  simp only [underKey_of_isSize c.key.size]
  rfl

/-- Under the bytes of its key, a context opens as it does. -/
theorem openUnder_bytes (c : SealContext) (m : SealedMessage) :
    c.openUnder c.key.bytes m = c.openBytes m :=
  underKey_of_isSize c.key.size _

/-! ## When bytes are refused -/

theorem sealBytes_ne_invalidKey : (c.sealBytes text e).1 ≠ .error (.invalidKey reason) := by
  intro h
  unfold sealBytes at h
  split at h
  · unfold sealWith at h
    split at h <;> cases h
  · next fault rest hnonce =>
    -- The one fault of a nonce is that there is no entropy for it.
    unfold nonce at hnonce
    split at hnonce
    · cases hnonce
    · split at hnonce <;> cases hnonce
      cases h

theorem openBytes_ne_invalidKey {m : SealedMessage} :
    c.openBytes m ≠ .error (.invalidKey reason) := by
  unfold openBytes
  split <;> exact nofun

theorem sealText_ne_invalidKey {text : String} :
    (c.sealText text e).1 ≠ .error (.invalidKey reason) := by
  intro h
  unfold sealText at h
  split at h
  · cases h
  · next fault rest hseal =>
    obtain rfl := Except.error.inj h
    exact sealBytes_ne_invalidKey (congrArg Prod.fst hseal)

/-- Where there is a nonce, other bytes than a key's are refused. -/
theorem sealUnder_of_not_isSize {key nonce : Bytes} {rest : Entropy}
    (h : ¬CipherKey.IsSize key.length) (hnonce : c.nonce e = (.ok nonce, rest)) (text : Bytes) :
    c.sealUnder key text e =
      (.error (.invalidKey s!"unsupported key length {key.length}"), rest) := by
  simp only [sealUnder, hnonce, underKey_of_not_isSize h]

/-- Bytes have the size of a key exactly if no context refuses to seal under them. -/
theorem isSize_iff_sealUnder {b : Bytes} : CipherKey.IsSize b.length ↔
    ∀ c text e reason, (sealUnder c b text e).1 ≠ .error (.invalidKey reason) := by
  constructor
  · intro h c text e reason
    -- Sealing does not look at the key that the bytes stand for.
    have hsame : sealUnder c b text e = sealBytes ⟨c.mode, ⟨b, h⟩, c.callerData⟩ text e :=
      sealUnder_bytes ⟨c.mode, ⟨b, h⟩, c.callerData⟩ text e
    rw [hsame]
    exact sealBytes_ne_invalidKey
  · intro h
    by_contra hsize
    let c : SealContext := ⟨.deviceBound, ⟨List.replicate 16 0, .inl rfl⟩, []⟩
    have hrefused := sealUnder_of_not_isSize hsize (nonce_deviceBound (c := c) rfl []) []
    exact h c [] [] _ (congrArg Prod.fst hrefused)

end SealContext

/-! ## Where keys are kept -/

/-- The key of a channel is derived from a secret that is not empty. -/
theorem Session.Reachable.channelKey {s : Session} (h : s.Reachable) {active : ActiveSecret}
    (hactive : s.active = some active) : active.secret.bytes ≠ [] ∧
      CipherKey.forChannel active.secret.bytes = .ok active.channelKey := by
  obtain ⟨_, _, hjoins⟩ := h.exists_joins hactive
  exact ⟨hjoins.bytes_ne_nil, hjoins.channelKey⟩

theorem Session.encrypt_ne_invalidKey {s : Session} {text reason : String} {mode : SealMode}
    {e : Entropy} : (s.encrypt text mode e).1 ≠ .error (.invalidKey reason) := by
  intro h
  unfold encrypt at h
  split at h
  · exact SealContext.sealText_ne_invalidKey h
  · next fault hchannel =>
    unfold channel at hchannel
    split at hchannel <;> cases hchannel
    cases h

namespace StorageCodec

variable {codec : StorageCodec} {secret : String}

/-- The codecs that there is a way to make. -/
inductive Built : StorageCodec → Prop
  | ofSecret {secret : String} {codec : StorageCodec}
    (h : StorageCodec.ofSecret secret = .ok codec) : Built codec
  | forSecret {secret : Option String} {device : DeviceSource} {codec : StorageCodec}
    (h : StorageCodec.forSecret secret device = .ok codec) : Built codec
  | withPolicy {codec : StorageCodec} (h : Built codec) (policy : DecodePolicy) :
    Built (codec.withPolicy policy)

theorem ofSecret_eq_ok : ofSecret secret = .ok codec ↔
    CipherKey.forStorage secret = .ok codec.key ∧ codec.policy = .strict := by
  constructor
  · intro h
    obtain ⟨key, hkey, hcodec⟩ := bind_eq_ok.mp h
    obtain rfl := Except.ok.inj hcodec
    exact ⟨hkey, rfl⟩
  · rintro ⟨hkey, hpolicy⟩
    rw [ofSecret, hkey, ok_bind, ← hpolicy]
    rfl

theorem exists_of_ofSecret (h : ofSecret secret = .ok codec) :
    ∃ secret, secret ≠ "" ∧ CipherKey.forStorage secret = .ok codec.key := by
  obtain ⟨hkey, -⟩ := ofSecret_eq_ok.mp h
  refine ⟨secret, ?_, hkey⟩
  rintro rfl
  cases hkey

/-- The key of a codec is derived from a text that is not empty. -/
theorem Built.key (h : Built codec) :
    ∃ secret, secret ≠ "" ∧ CipherKey.forStorage secret = .ok codec.key := by
  induction h with
  | ofSecret h => exact exists_of_ofSecret h
  | @forSecret secret device codec h =>
    cases secret with
    | some secret => exact exists_of_ofSecret h
    | none =>
      obtain ⟨id, -, h⟩ := bind_eq_ok.mp h
      exact exists_of_ofSecret h
  | withPolicy _ _ ih => exact ih

theorem encryptValue_ne_invalidKey {value reason : String} {hard : Bool} {e : Entropy} :
    (codec.encryptValue value hard e).1 ≠ .error (.invalidKey reason) :=
  SealContext.sealText_ne_invalidKey

end StorageCodec

namespace Configuration

variable {c : Configuration} {text secret : String}

/-- What is read is what some part of the program can use. -/
theorem isUsable_of_ofText (h : ofText text = .ok c) : c.IsUsable := by
  unfold ofText at h
  split at h
  · obtain ⟨_, hvalid, hc⟩ := bind_eq_ok.mp h
    obtain rfl := Except.ok.inj hc
    exact validate_eq_ok.mp hvalid
  · cases h

theorem storageCodec_built {device : DeviceSource} {codec : StorageCodec}
    (h : c.storageCodec device = .ok codec) : codec.Built := by
  obtain ⟨made, hmade, hcodec⟩ := bind_eq_ok.mp h
  obtain rfl := Except.ok.inj hcodec
  exact .withPolicy (.forSecret hmade) _

/-- The codec of a configured secret is that of the secret, whatever the device says. -/
theorem exists_storageCodec (hc : c.IsUsable) (hsecret : c.deviceSecret = some secret) :
    ∃ key, CipherKey.forStorage secret = .ok key ∧
      ∀ device, c.storageCodec device = .ok ⟨key, c.decodePolicy⟩ := by
  have hne : secret ≠ "" := by
    rintro rfl
    exact hc.deviceSecret hsecret
  obtain ⟨key, hkey⟩ := CipherKey.exists_forStorage hne
  refine ⟨key, hkey, fun device => ?_⟩
  have hmade : StorageCodec.forSecret (some secret) device = .ok ⟨key, .strict⟩ :=
    StorageCodec.ofSecret_eq_ok.mpr ⟨hkey, rfl⟩
  rw [storageCodec, hsecret, hmade]
  rfl

end Configuration

/-- Every key that can be built has a length that the cipher has keys of, is not empty, and seals
and opens without being refused for its length, in both modes and with all data; and no other bytes
than those of keys that can be built are never refused. The keys of channels and of storage codecs
are derived from secrets that are not empty. A derivation fails for the empty secret and for no
other, and for no other reason. So settings that were read with a secret give a codec of the
secret, which is the same for all devices, those without an identifier among them. -/
theorem CipherKey.built_usable :
    (∀ key, Built key →
      (key.length = 16 ∨ key.length = 24 ∨ key.length = 32) ∧ key.isEmpty = false ∧
      ∀ mode data, let c : SealContext := ⟨mode, key, data⟩
        (∀ text e, c.sealUnder key.bytes text e = c.sealBytes text e ∧
          ∀ reason, (c.sealBytes text e).1 ≠ .error (.invalidKey reason)) ∧
        ∀ m, c.openUnder key.bytes m = c.openBytes m ∧
          ∀ reason, c.openBytes m ≠ .error (.invalidKey reason)) ∧
    (∀ b, (∃ key, Built key ∧ key.bytes = b) ↔
      ∀ c text e reason, (SealContext.sealUnder c b text e).1 ≠ .error (.invalidKey reason)) ∧
    (∀ s active, Session.Reachable s → s.active = some active →
      active.secret.bytes ≠ [] ∧ forChannel active.secret.bytes = .ok active.channelKey ∧
        ∀ text mode e reason, (s.encrypt text mode e).1 ≠ .error (.invalidKey reason)) ∧
    (∀ codec, StorageCodec.Built codec →
      (∃ secret, secret ≠ "" ∧ forStorage secret = .ok codec.key) ∧
        ∀ value hard e reason, (codec.encryptValue value hard e).1 ≠ .error (.invalidKey reason)) ∧
    (∀ secret fault, forChannel secret = .error fault ↔
      secret = [] ∧ fault = .invalidKey "empty shared secret") ∧
    (∀ secret fault, forStorage secret = .error fault ↔
      secret = "" ∧ fault = .invalidKey "empty storage secret") ∧
    ∀ text config secret, Configuration.ofText text = .ok config →
      config.deviceSecret = some secret → ∃ codec, codec.Built ∧
        forStorage secret = .ok codec.key ∧ codec.policy = config.decodePolicy ∧
        ∀ device, config.storageCodec device = .ok codec := by
  refine ⟨fun key _ => ⟨key.size, key.isEmpty_eq_false, fun mode data => ⟨?_, ?_⟩⟩, fun b => ?_,
    fun s active hs hactive => ?_, fun codec hcodec => ⟨hcodec.key, ?_⟩,
    fun _ _ => forChannel_eq_error, fun _ _ => forStorage_eq_error,
    fun text config secret hread hsecret => ?_⟩
  · exact fun text e => ⟨SealContext.sealUnder_bytes ⟨mode, key, data⟩ text e,
      fun _ => SealContext.sealBytes_ne_invalidKey⟩
  · exact fun m => ⟨SealContext.openUnder_bytes ⟨mode, key, data⟩ m,
      fun _ => SealContext.openBytes_ne_invalidKey⟩
  · rw [exists_built_iff, SealContext.isSize_iff_sealUnder]
  · obtain ⟨hne, hkey⟩ := hs.channelKey hactive
    exact ⟨hne, hkey, fun _ _ _ _ => Session.encrypt_ne_invalidKey⟩
  · exact fun _ _ _ _ => StorageCodec.encryptValue_ne_invalidKey
  · have husable := Configuration.isUsable_of_ofText hread
    obtain ⟨key, hkey, hcodec⟩ := Configuration.exists_storageCodec husable hsecret
    exact ⟨_, Configuration.storageCodec_built (hcodec (.error .rngFailed)), hkey, rfl, hcodec⟩

/-- A configured secret gives a codec to a device without an identifier, and the same codec to one
that has an identifier. Neither its key nor one of 24 bytes in base64 nor that of a channel on P-256
is empty, and twenty bytes are refused. -/
theorem CipherKey.built_usable_secret :
    let config : Configuration := { decodePolicy := .legacyFallback, deviceSecret := some "x" }
    Configuration.ofText config.text = .ok config ∧
    (∃ codec, config.storageCodec (DeviceSource.ofFiles (fun _ => none) []) = .ok codec ∧
      config.storageCodec (DeviceSource.fixed "d") = .ok codec ∧ codec.policy = .legacyFallback ∧
      codec.key.isEmpty = false) ∧
    (∃ key, ofBase64 (Base64.encode .standard (List.replicate 24 7)) = .ok key ∧
      key.isEmpty = false) ∧
    (∃ s active, Session.Reachable s ∧ s.active = some active ∧
      forChannel active.secret.bytes = .ok active.channelKey ∧
      active.channelKey.isEmpty = false) ∧
    ∃ c text e reason,
      (SealContext.sealUnder c (List.replicate 20 0) text e).1 = .error (.invalidKey reason) := by
  intro config
  obtain ⟨hkeys, hexact, hsessions, hcodecs, -, -, hconfig⟩ := built_usable
  have hread : Configuration.ofText config.text = .ok config :=
    Configuration.ofText_text (by decide)
  refine ⟨hread, ?_, ?_, ?_, ?_⟩
  · obtain ⟨codec, hbuilt, -, hpolicy, hcodec⟩ := hconfig _ config "x" hread rfl
    obtain ⟨⟨secret, -, hkey⟩, -⟩ := hcodecs codec hbuilt
    exact ⟨codec, hcodec _, hcodec _, hpolicy, (hkeys _ (.forStorage hkey)).2.1⟩
  · have hkey : ofBase64 (Base64.encode .standard (List.replicate 24 7)) =
        .ok ⟨List.replicate 24 7, .inr (.inl rfl)⟩ := by
      rw [ofBase64, Base64.readable_standard.decode_encode]
      rfl
    exact ⟨_, hkey, (hkeys _ (.ofBase64 hkey)).2.1⟩
  · have hs := (Session.Reachable.empty.after (List.replicate 47 0 ++ [2])
      (.generate .p256)).after [] (.derive
        "BGsX0fLhLEJH+Lzm5WOkQPJ3A32BLeszoPShOUXYmMKWT+NC4v4af5uO5+tKfA+eFivOM1drMV7Oy7ZAaDe/UfU=")
    generalize hsecret : Session.after _ [] (.derive _) = s at hs
    obtain ⟨active, hactive⟩ : ∃ active, s.active = some active := by
      rw [← hsecret, ← Option.isSome_iff_exists]
      decide +kernel
    obtain ⟨-, hkey, -⟩ := hsessions s active hs hactive
    exact ⟨s, active, hs, hactive, hkey, (hkeys _ (.forChannel hkey)).2.1⟩
  · by_contra hnever
    simp only [not_exists] at hnever
    obtain ⟨key, hbuilt, hbytes⟩ := (hexact (List.replicate 20 0)).mpr hnever
    have hsize := (hkeys key hbuilt).1
    rw [CipherKey.length, hbytes] at hsize
    simp at hsize

end DeviceSecurity
