import DeviceSecurity.Proofs.Cipher.Key
import DeviceSecurity.Proofs.Cipher.RoundTrip
import DeviceSecurity.Proofs.Session.Run
import DeviceSecurity.Proofs.Signature.RoundTrip
import DeviceSecurity.Proofs.Text.Trim

/-!
# Two sessions agree

Two sessions with key pairs on one curve that are given each other's public key come to the same
secret, or both to none. What either then seals the other opens, and what either signs verifies
under the secret of the other. Both scalars times the generator is what either side computes, and
a session keeps what it computed as long as it agrees with the same peer.
-/

namespace DeviceSecurity

variable {c : Curve} {m n : ℕ}

/-! ## What both sides compute -/

/-- The secret and the channel key of two scalars. -/
def ActiveSecret.ofScalars (c : Curve) (m n : ℕ) : Except Error ActiveSecret := do
  let secret ← SharedSecret.ofScalars c m n
  let channelKey ← CipherKey.forChannel secret.bytes
  return ⟨secret, channelKey⟩

theorem ActiveSecret.ofScalars_comm (c : Curve) (m n : ℕ) : ofScalars c m n = ofScalars c n m := by
  rw [ofScalars, ofScalars, SharedSecret.ofScalars_comm]

/-- Every agreed secret has a channel key. -/
theorem ActiveSecret.exists_of_ofScalars {secret : SharedSecret}
    (h : SharedSecret.ofScalars c m n = .ok secret) : ∃ active, ofScalars c m n = .ok active := by
  obtain ⟨key, hkey⟩ := CipherKey.exists_forChannel (SharedSecret.bytes_ne_nil h)
  refine ⟨⟨secret, key⟩, ?_⟩
  rw [ofScalars, h, ok_bind, hkey]
  rfl

/-- Nothing fails but the agreement itself. -/
theorem ActiveSecret.of_ofScalars_error {fault : Error} (h : ofScalars c m n = .error fault) :
    SharedSecret.ofScalars c m n = .error fault := by
  cases hsecret : SharedSecret.ofScalars c m n with
  | error other =>
    rw [ofScalars, hsecret, error_bind] at h
    rw [Except.error.inj h]
  | ok secret =>
    obtain ⟨active, hactive⟩ := exists_of_ofScalars hsecret
    rw [hactive] at h
    cases h

theorem ActiveSecret.bytes_ne_nil {active : ActiveSecret} (h : ofScalars c m n = .ok active) :
    active.secret.bytes ≠ [] := by
  obtain ⟨secret, hsecret, hrest⟩ := bind_eq_ok.mp h
  obtain ⟨key, -, hactive⟩ := bind_eq_ok.mp hrest
  obtain rfl := Except.ok.inj hactive
  exact SharedSecret.bytes_ne_nil hsecret

namespace Session

/-- The texts that a peer may be given as the key of a session: its public key in either form, with
blanks around it. -/
def Exports (s : Session) (text : String) : Prop :=
  ∃ before key behind, (s.publicKey = .ok key ∨ s.publicKeyInfo = .ok key) ∧
    (∀ c ∈ before.toList, Text.isBlank c = true) ∧ (∀ c ∈ behind.toList, Text.isBlank c = true) ∧
    text = before ++ key ++ behind

/-- An exported text decodes to an exported key. -/
theorem Exports.decode {s : Session} {k : KeyPair} {text : String} (hk : s.keyPair = some k)
    (h : s.Exports text) :
    ∃ b, k.IsExport b ∧ Base64.decode .standard (Text.trim text) = .ok b := by
  obtain ⟨before, key, behind, hkey, hbefore, hbehind, rfl⟩ := h
  obtain ⟨b, hb, rfl⟩ : ∃ b, k.IsExport b ∧ Base64.encode .standard b = key := by
    rw [publicKey, publicKeyInfo, hk] at hkey
    rcases hkey with hkey | hkey
    · exact ⟨_, Or.inl rfl, Except.ok.inj hkey⟩
    · exact ⟨_, Or.inr rfl, Except.ok.inj hkey⟩
  refine ⟨b, hb, ?_⟩
  rw [Text.trim_append hbefore hbehind
    fun _ hc => Base64.readable_standard.not_isBlank_of_mem_encode hc,
    Base64.readable_standard.decode_encode]

/-- Agreeing with a peer does not change what a session exports. -/
theorem Exports.derive {s : Session} {text : String} (h : s.Exports text) (peer : String) :
    (s.derive peer).2.Exports text := by
  unfold Exports publicKey publicKeyInfo at h ⊢
  rw [keyPair_derive]
  exact h

variable {a b : Session}

/-- With the exported key of a peer, a session computes the secret of both scalars. -/
theorem activate_eq {peer : String} (ha : a.keyPair = some ⟨c, m⟩) (hb : b.keyPair = some ⟨c, n⟩)
    (hvalid : KeyPair.IsValid ⟨c, n⟩) (hpeer : b.Exports peer) :
    a.activate peer = ActiveSecret.ofScalars c m n := by
  obtain ⟨key, hkey, hdecode⟩ := hpeer.decode hb
  unfold activate
  rw [ha, hdecode]
  simp only [pure_bind]
  rw [SharedSecret.agree_eq hvalid hkey, ActiveSecret.ofScalars]

/-- Agreeing gives the secret in base64. -/
theorem derive_fst (s : Session) (peer : String) :
    (s.derive peer).1 = ((s.activate peer).map fun active => active.secret.bytes).map
      (Base64.encode .standard) := by
  unfold derive
  cases s.activate peer <;> rfl

theorem active_derive {s : Session} {peer : String} {active : ActiveSecret}
    (h : s.activate peer = .ok active) : (s.derive peer).2.active = some active := by
  rw [derive, h]

/-! ## The channel -/

/-- What the first session seals the second opens, and what the first signs verifies under the
secret. Sealing fails for nothing but a text beyond the length that the cipher covers, and a
fresh nonce for which there is no entropy. -/
structure SpeaksTo (a b : Session) (secret : Bytes) : Prop where
  seals : ∀ text mode e, Text.isTooLong text = false →
    (mode = .sharedKey → Gcm.nonceSize ≤ e.length) →
    ∃ sealed rest, a.encrypt text mode e = (.ok sealed, rest)
  opens : ∀ text mode e sealed rest, a.encrypt text mode e = (.ok sealed, rest) →
    b.decrypt sealed mode = .ok text
  verifies : ∀ keyId requestId body,
    Signature.verify secret body (a.signRequest keyId requestId body)
      = .ok (SignatureHeader.forRequest keyId requestId)

theorem channel_eq {s : Session} {active : ActiveSecret} (h : s.active = some active)
    (mode : SealMode) : s.channel mode = .ok ⟨mode, active.channelKey, []⟩ := by
  rw [channel, h]

theorem exists_nonce (context : SealContext) {e : Entropy}
    (h : context.mode = .sharedKey → Gcm.nonceSize ≤ e.length) :
    ∃ nonce rest, context.nonce e = (.ok nonce, rest) := by
  cases hmode : context.mode with
  | deviceBound => exact ⟨_, _, SealContext.nonce_deviceBound hmode e⟩
  | sharedKey =>
    refine ⟨_, _, (SealContext.nonce_sharedKey hmode e).trans (if_neg ?_)⟩
    exact Nat.not_lt.mpr (h hmode)

/-- Sessions with the same secret understand each other. -/
theorem speaksTo_of_active {active : ActiveSecret} (ha : a.active = some active)
    (hb : b.active = some active) (hne : active.secret.bytes ≠ []) :
    a.SpeaksTo b active.secret.bytes where
  seals := by
    intro text mode e hlength hentropy
    obtain ⟨nonce, rest, hnonce⟩ := exists_nonce ⟨mode, active.channelKey, []⟩ hentropy
    obtain ⟨sealed, hsealed⟩ : ∃ sealed, SealContext.sealText ⟨mode, active.channelKey, []⟩ text e
        = (.ok sealed, rest) := by
      have hseal := SealContext.sealText_of_nonce (SealContext.associatedData_le rfl) text hnonce
      rwa [hlength, if_neg Bool.false_ne_true] at hseal
    refine ⟨sealed, rest, ?_⟩
    rw [encrypt, channel_eq ha]
    exact hsealed
  opens := by
    intro text mode e sealed rest h
    rw [encrypt, channel_eq ha] at h
    rw [decrypt, channel_eq hb, ok_bind]
    exact SealContext.openText_of_sealText h
  verifies := by
    intro keyId requestId body
    have hsign := Signature.sign_eq hne keyId requestId body
    rw [signRequest, ha]
    simp only [hsign]
    exact Signature.verify_sign hsign

/-! ## Exchanges -/

/-- The runs of two sessions in which either may agree with the other, in any order and as often as
it likes, and both may use what they hold. The truth values say who has agreed with whom: the
first session with the second, and the second with the first. -/
inductive Exchange (a b : Session) : Bool → Bool → Session → Session → Prop
  | start : Exchange a b false false a b
  | deriveLeft {l r : Bool} {a' b' : Session} {peer : String} (h : Exchange a b l r a' b')
    (hpeer : b'.Exports peer) (e : Entropy) :
    Exchange a b true r (a'.after e (.derive peer)) b'
  | deriveRight {l r : Bool} {a' b' : Session} {peer : String} (h : Exchange a b l r a' b')
    (hpeer : a'.Exports peer) (e : Entropy) :
    Exchange a b l true a' (b'.after e (.derive peer))
  | useLeft {l r : Bool} {a' b' : Session} {command : Command} (h : Exchange a b l r a' b')
    (huse : command.IsUse) (e : Entropy) : Exchange a b l r (a'.after e command) b'
  | useRight {l r : Bool} {a' b' : Session} {command : Command} (h : Exchange a b l r a' b')
    (huse : command.IsUse) (e : Entropy) : Exchange a b l r a' (b'.after e command)

/-- What an exchange keeps: the key pairs, and the secret of both scalars where a session has
agreed on it. -/
structure Exchanged (c : Curve) (m n : ℕ) (l r : Bool) (a b : Session) : Prop where
  keyLeft : a.keyPair = some ⟨c, m⟩
  keyRight : b.keyPair = some ⟨c, n⟩
  activeLeft : l = true → ∀ active, ActiveSecret.ofScalars c m n = .ok active →
    a.active = some active
  activeRight : r = true → ∀ active, ActiveSecret.ofScalars c m n = .ok active →
    b.active = some active

theorem Exchanged.symm {l r : Bool} (h : Exchanged c m n l r a b) : Exchanged c n m r l b a where
  keyLeft := h.keyRight
  keyRight := h.keyLeft
  activeLeft := by
    rw [ActiveSecret.ofScalars_comm]
    exact h.activeRight
  activeRight := by
    rw [ActiveSecret.ofScalars_comm]
    exact h.activeLeft

/-- Agreeing with the exported key of the other session adds the secret. -/
theorem Exchanged.deriveLeft {l r : Bool} {peer : String} (h : Exchanged c m n l r a b)
    (hvalid : KeyPair.IsValid ⟨c, n⟩) (hpeer : b.Exports peer) :
    Exchanged c m n true r (a.derive peer).2 b where
  keyLeft := (keyPair_derive a peer).trans h.keyLeft
  keyRight := h.keyRight
  activeLeft := by
    intro _ active hactive
    exact active_derive ((activate_eq h.keyLeft h.keyRight hvalid hpeer).trans hactive)
  activeRight := h.activeRight

theorem Exchanged.derive_eq {l r : Bool} {peer : String} (h : Exchanged c m n l r a b)
    (hvalid : KeyPair.IsValid ⟨c, n⟩) (hpeer : b.Exports peer) :
    (a.derive peer).1 = ((ActiveSecret.ofScalars c m n).map fun active => active.secret.bytes).map
      (Base64.encode .standard) := by
  rw [derive_fst, activate_eq h.keyLeft h.keyRight hvalid hpeer]

/-- An exchange keeps the key pairs and the secret of both scalars. -/
theorem Exchange.exchanged {a' b' : Session} {l r : Bool} (h : Exchange a b l r a' b')
    (ha : a.keyPair = some ⟨c, m⟩) (hb : b.keyPair = some ⟨c, n⟩)
    (hm : KeyPair.IsValid ⟨c, m⟩) (hn : KeyPair.IsValid ⟨c, n⟩) :
    Exchanged c m n l r a' b' := by
  induction h with
  | start => exact ⟨ha, hb, fun h => absurd h Bool.false_ne_true,
      fun h => absurd h Bool.false_ne_true⟩
  | deriveLeft _ hpeer e ih => exact ih.deriveLeft hn hpeer
  | deriveRight _ hpeer e ih => exact (ih.symm.deriveLeft hm hpeer).symm
  | useLeft _ huse e ih => rwa [after_of_isUse huse]
  | useRight _ huse e ih => rwa [after_of_isUse huse]

/-- Two sessions that hold key pairs on one curve, whatever came before, have one outcome between
them: a secret, or a failure of the agreement, where the coordinate of their common point is all
zeros. In every exchange between them, it is what either gets from the exported key of the other;
and once both have agreed on a secret, either speaks to the other. -/
theorem exchange_agrees {k l : KeyPair} (ha : Reachable a) (hb : Reachable b)
    (hk : a.keyPair = some k) (hl : b.keyPair = some l) (hcurve : k.curve = l.curve) :
    ∃ outcome : Except Error Bytes,
      (∀ fault, outcome = .error fault → (∃ message, fault = .agreementFailure message) ∧
        (k.curve.firstCoordinate (k.curve.mul k.secret l.publicKey.point)).all (· == 0) = true) ∧
      ∀ left right a' b', Exchange a b left right a' b' →
        (∀ peer, b'.Exports peer →
          (a'.derive peer).1 = outcome.map (Base64.encode .standard)) ∧
        (∀ peer, a'.Exports peer →
          (b'.derive peer).1 = outcome.map (Base64.encode .standard)) ∧
        ∀ secret, outcome = .ok secret → left = true → right = true →
          a'.SpeaksTo b' secret ∧ b'.SpeaksTo a' secret := by
  obtain ⟨c, m⟩ := k
  obtain ⟨c', n⟩ := l
  obtain rfl : c = c' := hcurve
  have hm : KeyPair.IsValid ⟨c, m⟩ := ha.holdsValid _ hk
  have hn : KeyPair.IsValid ⟨c, n⟩ := hb.holdsValid _ hl
  have hrun : ∀ {left right a' b'}, Exchange a b left right a' b' →
      Exchanged c m n left right a' b' := fun h => h.exchanged hk hl hm hn
  refine ⟨(ActiveSecret.ofScalars c m n).map fun active => active.secret.bytes, ?_, ?_⟩
  · intro fault hfault
    have hfailed : ActiveSecret.ofScalars c m n = .error fault := map_eq_error.mp hfault
    rw [KeyPair.mul_publicKey]
    exact SharedSecret.of_ofScalars_error (ActiveSecret.of_ofScalars_error hfailed)
  · intro left right a' b' h
    refine ⟨fun peer hpeer => ?_, fun peer hpeer => ?_, fun secret hsecret hleft hright => ?_⟩
    · exact (hrun h).derive_eq hn hpeer
    · rw [ActiveSecret.ofScalars_comm]
      exact (hrun h).symm.derive_eq hm hpeer
    · obtain ⟨active, hactive, rfl⟩ := map_eq_ok.mp hsecret
      have hne := ActiveSecret.bytes_ne_nil hactive
      have hactiveLeft := (hrun h).activeLeft hleft active hactive
      have hactiveRight := (hrun h).activeRight hright active hactive
      exact ⟨speaksTo_of_active hactiveLeft hactiveRight hne,
        speaksTo_of_active hactiveRight hactiveLeft hne⟩

/-- Two new sessions on P-384 that draw the scalars two and three, each given what the other
exports: they agree on a secret, and speak to each other. -/
theorem exchange_agrees_p384 :
    ∃ a b : Session, Reachable a ∧ Reachable b ∧
      a.keyPair = some ⟨.p384, 2⟩ ∧ b.keyPair = some ⟨.p384, 3⟩ ∧
      ∃ secret, ∀ x y, a.Exports x → b.Exports y →
        (a.derive y).1 = .ok (Base64.encode .standard secret) ∧
        (b.derive x).1 = .ok (Base64.encode .standard secret) ∧
        (a.derive y).2.SpeaksTo (b.derive x).2 secret ∧
        (b.derive x).2.SpeaksTo (a.derive y).2 secret := by
  obtain ⟨a, ha, hk⟩ : ∃ a, Reachable a ∧ a.keyPair = some ⟨.p384, 2⟩ :=
    ⟨_, .after .empty (List.replicate 63 0 ++ [2]) (.generate .p384), by decide +kernel⟩
  obtain ⟨b, hb, hl⟩ : ∃ b, Reachable b ∧ b.keyPair = some ⟨.p384, 3⟩ :=
    ⟨_, .after .empty (List.replicate 63 0 ++ [3]) (.generate .p384), by decide +kernel⟩
  obtain ⟨outcome, -, hrun⟩ := exchange_agrees ha hb hk hl rfl
  obtain ⟨shared, hshared⟩ : ∃ shared, SharedSecret.ofScalars .p384 2 3 = .ok shared := by
    have hcoordinate : (Curve.p384.firstCoordinate (Curve.p384.mul (2 * 3) Curve.p384.generator)).all
        (· == 0) = false := by decide +kernel
    rw [← Curve.ofGroup_base, Curve.mul_ofGroup] at hcoordinate
    exact ⟨_, if_neg (by rw [hcoordinate]; exact Bool.false_ne_true)⟩
  obtain ⟨active, hactive⟩ := ActiveSecret.exists_of_ofScalars hshared
  refine ⟨a, b, ha, hb, hk, hl, active.secret.bytes, fun x y hx hy => ?_⟩
  obtain ⟨hleft, hright, -⟩ := hrun false false a b .start
  have hab := activate_eq hk hl (hb.holdsValid _ hl) hy
  have houtcome : outcome = .ok active.secret.bytes := by
    have hderive := derive_fst a y
    rw [hleft y hy, hab, hactive] at hderive
    cases outcome with
    | error fault => cases hderive
    | ok secret =>
      rw [Base64.readable_standard.encode_injective (Except.ok.inj hderive)]
  subst houtcome
  have hboth : Exchange a b true true (a.derive y).2 (b.derive x).2 :=
    .deriveRight (.deriveLeft .start hy []) (hx.derive y) []
  obtain ⟨-, -, hspeak⟩ := hrun _ _ _ _ hboth
  obtain ⟨hthere, hback⟩ := hspeak _ rfl rfl rfl
  exact ⟨hleft y hy, hright x hx, hthere, hback⟩

end Session

end DeviceSecurity
