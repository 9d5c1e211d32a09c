import DeviceSecurity.Proofs.Cipher.Key
import DeviceSecurity.Proofs.Curve.PeerKey
import DeviceSecurity.Proofs.Session.Run

/-!
# Steps of a session

What one command does to a session and what it answers. A command generates a key pair, agrees with
a peer, clears the session or leaves it as it is, and it does the last whenever its answer is an
error (`Session.after_cases`). An agreement needs a key pair and a readable key of a peer on its
curve, and gives the secret that belongs to both (`Session.activate_eq_ok`).
-/

namespace DeviceSecurity

/-! ## What agreeing gives -/

/-- The secret of a key pair and a peer's key, with the channel key that is made of it. -/
structure ActiveSecret.Joins (active : ActiveSecret) (pair : KeyPair) (key : PeerKey) : Prop where
  curve : active.secret.curve = pair.curve
  coordinate : active.secret.bytes = pair.coordinate key
  notZero : ∃ x ∈ active.secret.bytes, x ≠ 0
  channelKey : CipherKey.forChannel active.secret.bytes = .ok active.channelKey

namespace ActiveSecret.Joins

variable {active : ActiveSecret} {pair : KeyPair} {key : PeerKey} (h : active.Joins pair key)

include h

theorem length_eq : active.secret.bytes.length = pair.curve.fieldSize := by
  rw [h.coordinate, KeyPair.length_coordinate]

theorem bytes_ne_nil : active.secret.bytes ≠ [] := by
  obtain ⟨x, hx, -⟩ := h.notZero
  exact List.ne_nil_of_mem hx

/-- The channel key of a secret: the secret itself on P-256, else 32 bytes that are expanded from
it. -/
theorem channelKey_eq :
    if pair.curve = .p256 then active.channelKey.bytes = active.secret.bytes
    else active.channelKey.bytes.length = 32 ∧
      Hkdf.expand (Hkdf.extract none active.secret.bytes) CipherKey.channelLabel 32
        = some active.channelKey.bytes := by
  have hlength := h.length_eq
  split
  · next hcurve =>
    rw [hcurve] at hlength
    exact CipherKey.bytes_of_forChannel h.channelKey hlength
  · next hcurve =>
    have hexpand := CipherKey.expand_of_forChannel h.channelKey (by
      rw [hlength]
      cases hc : pair.curve <;> simp_all [Curve.fieldSize, CipherKey.derivedSize])
    exact ⟨Hkdf.length_of_expand hexpand, hexpand⟩

end ActiveSecret.Joins

namespace Session

variable {s : Session} {peer : String} {active : ActiveSecret}

/-- The key of a peer in a text is one of the curve. -/
def ReadsKey (c : Curve) (peer : String) (key : PeerKey) : Prop :=
  ∃ b, Base64.decode .standard (Text.trim peer) = .ok b ∧ PeerKey.ofBytes c b = .ok key

/-- The reasons not to agree with the key of a peer in a text. -/
inductive Disagrees (pair : KeyPair) (peer : String) : Error → Prop
  | notBase64 {fault : Base64.Fault}
    (h : Base64.decode .standard (Text.trim peer) = .error fault) :
    Disagrees pair peer (.invalidPeerKey ("not base64: " ++ fault.message))
  | key {b : Bytes} {fault : Error} (h : Base64.decode .standard (Text.trim peer) = .ok b)
    (hkey : pair.Disagrees b fault) : Disagrees pair peer fault

theorem activate_of_none (h : s.keyPair = none) (peer : String) :
    s.activate peer = .error .noActiveKey := by
  rw [activate, h]
  rfl

/-- Once the key of the peer is decoded, what is left is to agree and to make the channel key. -/
theorem activate_of_decode {pair : KeyPair} {b : Bytes} (h : s.keyPair = some pair)
    (hb : Base64.decode .standard (Text.trim peer) = .ok b) :
    s.activate peer = (do
      let secret ← SharedSecret.agree pair b
      let channelKey ← CipherKey.forChannel secret.bytes
      return ⟨secret, channelKey⟩) := by
  rw [activate, h, hb]
  rfl

theorem activate_of_decode_error {pair : KeyPair} {fault : Base64.Fault}
    (h : s.keyPair = some pair)
    (hb : Base64.decode .standard (Text.trim peer) = .error fault) :
    s.activate peer = .error (.invalidPeerKey ("not base64: " ++ fault.message)) := by
  rw [activate, h, hb]
  rfl

/-- A session agrees with a peer if it has a key pair and the text holds a key of its curve, and
what it gets is the secret of both. -/
theorem activate_eq_ok : s.activate peer = .ok active ↔
    ∃ pair key, s.keyPair = some pair ∧ ReadsKey pair.curve peer key ∧ active.Joins pair key := by
  constructor
  · intro h
    cases hpair : s.keyPair with
    | none => cases (activate_of_none hpair peer).symm.trans h
    | some pair =>
      cases hb : Base64.decode .standard (Text.trim peer) with
      | error fault => cases (activate_of_decode_error hpair hb).symm.trans h
      | ok b =>
        rw [activate_of_decode hpair hb] at h
        obtain ⟨secret, hagree, h⟩ := bind_eq_ok.mp h
        obtain ⟨channelKey, hchannel, h⟩ := bind_eq_ok.mp h
        obtain rfl := Except.ok.inj h
        obtain ⟨key, hkey, hsome, rfl⟩ := SharedSecret.agree_eq_ok.mp hagree
        exact ⟨pair, key, rfl, ⟨b, hb, hkey⟩, rfl, rfl, hsome, hchannel⟩
  · rintro ⟨pair, key, hpair, ⟨b, hb, hkey⟩, hjoins⟩
    have hagree : SharedSecret.agree pair b = .ok active.secret := by
      have hsecret : active.secret = ⟨pair.curve, pair.coordinate key⟩ := by
        rw [← hjoins.curve, ← hjoins.coordinate]
      exact SharedSecret.agree_eq_ok.mpr ⟨key, hkey, hjoins.coordinate ▸ hjoins.notZero, hsecret⟩
    rw [activate_of_decode hpair hb, hagree, ok_bind, hjoins.channelKey, ok_bind]
    rfl

/-- A session does not agree where it has no key pair and where the pair does not agree. -/
theorem activate_eq_error {fault : Error} : s.activate peer = .error fault ↔
    s.keyPair = none ∧ fault = .noActiveKey ∨
      ∃ pair, s.keyPair = some pair ∧ Disagrees pair peer fault := by
  constructor
  · intro h
    cases hpair : s.keyPair with
    | none =>
      rw [activate_of_none hpair] at h
      exact .inl ⟨rfl, (Except.error.inj h).symm⟩
    | some pair =>
      refine .inr ⟨pair, rfl, ?_⟩
      cases hb : Base64.decode .standard (Text.trim peer) with
      | error reason =>
        rw [activate_of_decode_error hpair hb] at h
        obtain rfl := Except.error.inj h
        exact .notBase64 hb
      | ok b =>
        rw [activate_of_decode hpair hb] at h
        rcases bind_eq_error.mp h with h | ⟨secret, hagree, h⟩
        · exact .key hb (SharedSecret.agree_eq_error.mp h)
        · -- An agreed secret is not empty, and then there is a channel key.
          obtain ⟨key, -, ⟨x, hx, -⟩, rfl⟩ := SharedSecret.agree_eq_ok.mp hagree
          obtain ⟨channelKey, hchannel⟩ := CipherKey.exists_forChannel (List.ne_nil_of_mem hx)
          rw [hchannel, ok_bind] at h
          cases h
  · rintro (⟨hpair, rfl⟩ | ⟨pair, hpair, hdisagrees⟩)
    · exact activate_of_none hpair peer
    · cases hdisagrees with
      | notBase64 hb => exact activate_of_decode_error hpair hb
      | key hb hkey =>
        rw [activate_of_decode hpair hb, SharedSecret.agree_eq_error.mpr hkey, error_bind]

/-- What a session computes with a peer depends on its key pair only. -/
theorem activate_congr {t : Session} (h : s.keyPair = t.keyPair) (peer : String) :
    s.activate peer = t.activate peer := by
  unfold activate
  rw [h]

theorem derive_of_activate (h : s.activate peer = .ok active) :
    s.derive peer = (.ok (Base64.encode .standard active.secret.bytes),
      { s with active := some active }) := by
  rw [derive, h]

theorem derive_of_activate_error {fault : Error} (h : s.activate peer = .error fault) :
    s.derive peer = (.error fault, s) := by
  rw [derive, h]

/-! ## Answers -/

/-- What a session answers to a command that finds the given entropy. Clearing answers with the
empty text. -/
def answer (s : Session) (e : Entropy) : Command → Except Error String
  | .generate c => (s.generate c e).1.1
  | .publicKey => s.publicKey
  | .publicKeyInfo => s.publicKeyInfo
  | .derive peer => (s.derive peer).1
  | .encrypt text mode => (s.encrypt text mode e).1
  | .decrypt sealed mode => s.decrypt sealed mode
  | .signRequest keyId requestId body => .ok (s.signRequest keyId requestId body)
  | .clear => .ok ""

/-- A command that only uses what the session holds, or one that is answered by an error. -/
def Idle (s : Session) (e : Entropy) (command : Command) : Prop :=
  command.IsUse ∨ ∃ fault, s.answer e command = .error fault

theorem Idle.isUse {e : Entropy} {command : Command} {reply : String} (h : s.Idle e command)
    (hanswer : s.answer e command = .ok reply) : command.IsUse := by
  rcases h with h | ⟨fault, hfault⟩
  · exact h
  · cases hfault.symm.trans hanswer

/-- All that a command can do: a new key pair without a secret, a secret for the key pair that is
there, nothing left at all, or no change. -/
theorem after_cases (s : Session) (e : Entropy) (command : Command) :
    (∃ c pair, command = .generate c ∧ pair.curve = c ∧
      s.answer e command = .ok (Base64.encode .standard pair.publicKey.pointBytes) ∧
      s.after e command = ⟨some pair, none⟩) ∨
    (∃ peer active, command = .derive peer ∧ s.activate peer = .ok active ∧
      s.answer e command = .ok (Base64.encode .standard active.secret.bytes) ∧
      s.after e command = { s with active := some active }) ∨
    (command = .clear ∧ s.answer e command = .ok "" ∧ s.after e command = empty) ∨
    (s.Idle e command ∧ s.after e command = s) := by
  have huse : command.IsUse → s.Idle e command ∧ s.after e command = s :=
    fun h => ⟨.inl h, after_of_isUse h s e⟩
  cases command with
  | generate c =>
    rcases hpair : KeyPair.generate c e with ⟨fault | pair, rest⟩
    · have hgenerate : s.generate c e = ((.error fault, s), rest) := by rw [generate, hpair]
      exact .inr (.inr (.inr ⟨.inr ⟨fault, by rw [answer, hgenerate]⟩,
        by rw [after, hgenerate]⟩))
    · have hgenerate : s.generate c e =
          ((.ok (Base64.encode .standard pair.publicKey.pointBytes), ⟨some pair, none⟩), rest) := by
        rw [generate, hpair]
      exact .inl ⟨c, pair, rfl, (KeyPair.of_generate hpair).1, by rw [answer, hgenerate],
        by rw [after, hgenerate]⟩
  | derive peer =>
    cases hactivate : s.activate peer with
    | ok active =>
      have hderive := derive_of_activate hactivate
      exact .inr (.inl ⟨peer, active, rfl, hactivate, by rw [answer, hderive],
        by rw [after, hderive]⟩)
    | error fault =>
      have hderive := derive_of_activate_error hactivate
      exact .inr (.inr (.inr ⟨.inr ⟨fault, by rw [answer, hderive]⟩, by rw [after, hderive]⟩))
  | clear => exact .inr (.inr (.inl ⟨rfl, rfl, rfl⟩))
  | publicKey | publicKeyInfo | encrypt | decrypt | signRequest =>
    exact .inr (.inr (.inr (huse trivial)))

/-- A command that is answered by an error or only uses the session leaves it as it was. -/
theorem after_of_idle {e : Entropy} {command : Command} (h : s.Idle e command) :
    s.after e command = s := by
  rcases after_cases s e command with ⟨c, pair, rfl, -, hanswer, -⟩ |
    ⟨peer, active, rfl, -, hanswer, -⟩ | ⟨rfl, hanswer, -⟩ | ⟨-, hafter⟩
  · exact (h.isUse hanswer).elim
  · exact (h.isUse hanswer).elim
  · exact (h.isUse hanswer).elim
  · exact hafter

end Session

end DeviceSecurity
