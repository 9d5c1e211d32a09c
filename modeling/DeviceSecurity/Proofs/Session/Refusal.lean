import DeviceSecurity.Proofs.Curve.Draw
import DeviceSecurity.Proofs.Session.Agreement
import DeviceSecurity.Proofs.Session.History

/-!
# Refused commands

A session refuses a command for the reasons in `Session.Refused` and for no others, and each has its
own error (`Session.answer_eq_error`). A refused command changes nothing, and neither does one that
only uses what the session holds; so a secret that was agreed on outlives every failed attempt to
agree on another one, and what was sealed before still opens (`Session.kept_of_idle`).
-/

namespace DeviceSecurity.Session

variable {s t : Session} {e : Entropy} {fault : Error}

/-! ## Reasons -/

/-- The reasons to refuse a command that finds the given entropy. -/
inductive Refused (s : Session) (e : Entropy) : Command → Error → Prop
  | noProbe {c : Curve} (h : e.length < KeyPair.probeSize) : Refused s e (.generate c) .rngFailed
  | noScalar {c : Curve} {probe rest : Bytes} (hprobe : probe.length = KeyPair.probeSize)
    (he : e = probe ++ rest) (h : KeyPair.NoScalar c rest) : Refused s e (.generate c) .rngFailed
  | noKey (h : s.keyPair = none) : Refused s e .publicKey .noActiveKey
  | noKeyInfo (h : s.keyPair = none) : Refused s e .publicKeyInfo .noActiveKey
  | noKeyPair {peer : String} (h : s.keyPair = none) : Refused s e (.derive peer) .noActiveKey
  | disagrees {pair : KeyPair} {peer : String} {fault : Error} (h : s.keyPair = some pair)
    (hpeer : Disagrees pair peer fault) : Refused s e (.derive peer) fault
  | sealInactive {text : String} {mode : SealMode} (h : s.active = none) :
    Refused s e (.encrypt text mode) .noActiveKey
  | unsealable {active : ActiveSecret} {text : String} {mode : SealMode} {fault : Error}
    (h : s.active = some active)
    (hseal : SealContext.Unsealable ⟨mode, active.channelKey, []⟩ text e fault) :
    Refused s e (.encrypt text mode) fault
  | openInactive {sealed : String} {mode : SealMode} (h : s.active = none) :
    Refused s e (.decrypt sealed mode) .noActiveKey
  | unopenable {active : ActiveSecret} {sealed : String} {mode : SealMode} {fault : Error}
    (h : s.active = some active)
    (hopen : SealContext.Unopenable ⟨mode, active.channelKey, []⟩ sealed fault) :
    Refused s e (.decrypt sealed mode) fault

theorem generate_eq_error {c : Curve} :
    (s.generate c e).1.1 = .error fault ↔ Refused s e (.generate c) fault := by
  have hpair : (s.generate c e).1.1 = .error fault ↔ (KeyPair.generate c e).1 = .error fault := by
    unfold generate
    rcases KeyPair.generate c e with ⟨fault | pair, rest⟩ <;> simp
  rw [hpair, KeyPair.generate_eq_error]
  constructor
  · rintro ⟨rfl, h | ⟨probe, rest, hprobe, he, h⟩⟩
    · exact .noProbe h
    · exact .noScalar hprobe he h
  · intro h
    cases h with
    | noProbe h => exact ⟨rfl, .inl h⟩
    | noScalar hprobe he h => exact ⟨rfl, .inr ⟨_, _, hprobe, he, h⟩⟩

theorem derive_eq_error {peer : String} :
    (s.derive peer).1 = .error fault ↔ Refused s e (.derive peer) fault := by
  have hactivate : (s.derive peer).1 = .error fault ↔ s.activate peer = .error fault := by
    unfold derive
    cases s.activate peer <;> simp
  rw [hactivate, activate_eq_error]
  constructor
  · rintro (⟨h, rfl⟩ | ⟨pair, h, hpeer⟩)
    · exact .noKeyPair h
    · exact .disagrees h hpeer
  · intro h
    cases h with
    | noKeyPair h => exact .inl ⟨h, rfl⟩
    | disagrees h hpeer => exact .inr ⟨_, h, hpeer⟩

theorem encrypt_eq_error {text : String} {mode : SealMode} :
    (s.encrypt text mode e).1 = .error fault ↔ Refused s e (.encrypt text mode) fault := by
  unfold encrypt channel
  cases hactive : s.active with
  | none =>
    constructor
    · rintro ⟨⟩
      exact .sealInactive hactive
    · intro h
      cases h with
      | sealInactive _ => rfl
      | unsealable h _ => cases hactive.symm.trans h
  | some active =>
    rw [SealContext.sealText_eq_error (SealContext.associatedData_le rfl)]
    constructor
    · exact .unsealable hactive
    · intro h
      cases h with
      | sealInactive h => cases hactive.symm.trans h
      | unsealable h hseal =>
        obtain rfl := Option.some.inj (hactive.symm.trans h)
        exact hseal

theorem decrypt_eq_error {sealed : String} {mode : SealMode} :
    s.decrypt sealed mode = .error fault ↔ Refused s e (.decrypt sealed mode) fault := by
  unfold decrypt channel
  cases hactive : s.active with
  | none =>
    constructor
    · rintro ⟨⟩
      exact .openInactive hactive
    · intro h
      cases h with
      | openInactive _ => rfl
      | unopenable h _ => cases hactive.symm.trans h
  | some active =>
    simp only [ok_bind]
    rw [SealContext.openText_eq_error]
    constructor
    · exact .unopenable hactive
    · intro h
      cases h with
      | openInactive h => cases hactive.symm.trans h
      | unopenable h hopen =>
        obtain rfl := Option.some.inj (hactive.symm.trans h)
        exact hopen

/-- What is told of the key pair is refused where there is none. -/
theorem told_eq_error (tell : KeyPair → String) :
    (match s.keyPair with
      | some pair => .ok (tell pair)
      | none => .error .noActiveKey) = (.error fault : Except Error String) ↔
      s.keyPair = none ∧ .noActiveKey = fault := by
  cases s.keyPair <;> simp

theorem publicKey_eq_error : s.publicKey = .error fault ↔ Refused s e .publicKey fault := by
  refine (told_eq_error _).trans ⟨?_, fun h => ?_⟩
  · rintro ⟨h, rfl⟩
    exact .noKey h
  · cases h with
    | noKey h => exact ⟨h, rfl⟩

theorem publicKeyInfo_eq_error :
    s.publicKeyInfo = .error fault ↔ Refused s e .publicKeyInfo fault := by
  refine (told_eq_error _).trans ⟨?_, fun h => ?_⟩
  · rintro ⟨h, rfl⟩
    exact .noKeyInfo h
  · cases h with
    | noKeyInfo h => exact ⟨h, rfl⟩

/-- A command is answered by an error for one of the reasons. -/
theorem answer_eq_error {command : Command} :
    s.answer e command = .error fault ↔ Refused s e command fault := by
  cases command with
  | generate c => exact generate_eq_error
  | publicKey => exact publicKey_eq_error
  | publicKeyInfo => exact publicKeyInfo_eq_error
  | derive peer => exact derive_eq_error
  | encrypt text mode => exact encrypt_eq_error
  | decrypt sealed mode => exact decrypt_eq_error
  | signRequest keyId requestId body => exact iff_of_false nofun nofun
  | clear => exact iff_of_false nofun nofun

/-- A point of another curve is no key of a peer. -/
theorem derive_of_other_curve {pair : KeyPair} {peer : String} {b point : Bytes} {c : Curve}
    {p : Point} (hpair : s.keyPair = some pair)
    (hb : Base64.decode .standard (Text.trim peer) = .ok b) (hcarries : PeerKey.Carries b point)
    (hpoint : c.decode point = some p) (hcurve : c ≠ pair.curve) :
    s.derive peer = (.error (.invalidPeerKey ("not a point on " ++ pair.curve.name)), s) := by
  have hnone : pair.curve.decode point = none := by
    rw [Option.eq_none_iff_forall_ne_some]
    exact fun q hq => hcurve (Curve.eq_of_decode hpoint hq)
  have hdisagrees : Disagrees pair peer (.invalidPeerKey ("not a point on " ++ pair.curve.name)) :=
    .key hb (.unreadable (.notOnCurve hcarries hnone))
  exact derive_of_activate_error (activate_eq_error.mpr (.inr ⟨pair, hpair, hdisagrees⟩))

/-! ## What refused commands leave -/

/-- The runs from a session in which every command is refused or only uses what the session
holds. -/
inductive IdleRun (s : Session) : Session → Prop
  | start : IdleRun s s
  | step {t : Session} {e : Entropy} {command : Command} (h : IdleRun s t)
    (hidle : t.Idle e command) : IdleRun s (t.after e command)

theorem IdleRun.eq (h : IdleRun s t) : t = s := by
  induction h with
  | start => rfl
  | step _ hidle ih => rw [after_of_idle hidle, ih]

/-- In every session that commands lead to, a command is refused for exactly one of the reasons, a
key on another curve among them. Whether refused or only using the session, commands leave the key
pair, the secret and the channel key as they were, however many of them are given; and the session
behind them and the one before understand each other under the secret that was active. -/
theorem kept_of_idle (hs : Reachable s) :
    (∀ e command fault, s.answer e command = .error fault ↔ Refused s e command fault) ∧
    (∀ pair peer b point c p, s.keyPair = some pair →
      Base64.decode .standard (Text.trim peer) = .ok b → PeerKey.Carries b point →
      Curve.decode c point = some p → c ≠ pair.curve →
      s.derive peer = (.error (.invalidPeerKey ("not a point on " ++ pair.curve.name)), s)) ∧
    (∀ e command, s.Idle e command → s.after e command = s) ∧
    ∀ t, IdleRun s t → t.keyPair = s.keyPair ∧ t.active = s.active ∧
      ∀ active, s.active = some active →
        s.SpeaksTo t active.secret.bytes ∧ t.SpeaksTo s active.secret.bytes := by
  refine ⟨fun _ _ _ => answer_eq_error, fun _ _ _ _ _ _ => derive_of_other_curve,
    fun _ _ => after_of_idle, fun t ht => ?_⟩
  obtain rfl := ht.eq
  refine ⟨rfl, rfl, fun active hactive => ?_⟩
  obtain ⟨history, hrun⟩ := hs.exists_run
  obtain ⟨_, _, _, _, _, _, hjoins⟩ := hrun.joins hactive
  have hspeaks := speaksTo_of_active hactive hactive hjoins.bytes_ne_nil
  exact ⟨hspeaks, hspeaks⟩

/-- A session on P-256 with the secret of the scalar two and the generator is given a text that is
no key, and then asked for a new key pair without any entropy: it keeps the secret and opens what
it sealed before. -/
theorem kept_of_idle_p256 :
    ∃ s t active, Reachable s ∧ s.active = some active ∧ IdleRun s t ∧
      s.answer [] (.derive "%%%")
        = .error (.invalidPeerKey "not base64: Invalid symbol 37, offset 0.") ∧
      t.active = some active ∧ s.SpeaksTo t active.secret.bytes := by
  have hs : Reachable _ := (Reachable.empty.after (List.replicate 47 0 ++ [2])
    (.generate .p256)).after [] (.derive
      "BGsX0fLhLEJH+Lzm5WOkQPJ3A32BLeszoPShOUXYmMKWT+NC4v4af5uO5+tKfA+eFivOM1drMV7Oy7ZAaDe/UfU=")
  generalize hsecret : Session.after _ [] (.derive _) = s at hs
  obtain ⟨active, hactive⟩ : ∃ active, s.active = some active := by
    rw [← hsecret, ← Option.isSome_iff_exists]
    decide +kernel
  obtain ⟨pair, hpair⟩ : ∃ pair, s.keyPair = some pair := by
    rw [← hsecret, ← Option.isSome_iff_exists]
    decide +kernel
  obtain ⟨hrefused, -, -, hkept⟩ := kept_of_idle hs
  have hdecode : Base64.decode .standard (Text.trim "%%%") = .error (.symbol 37 0) := by
    decide +kernel
  have hderive : s.answer [] (.derive "%%%") =
      .error (.invalidPeerKey "not base64: Invalid symbol 37, offset 0.") :=
    (hrefused _ _ _).mpr (.disagrees hpair (.notBase64 hdecode))
  have hagain : IdleRun s (s.after [] (.derive "%%%")) := IdleRun.start.step (.inr ⟨_, hderive⟩)
  have hidle : IdleRun s ((s.after [] (.derive "%%%")).after [] (.generate .p256)) :=
    hagain.step (.inr ⟨_, answer_eq_error.mpr (.noProbe (by decide))⟩)
  obtain ⟨-, htactive, hspeaks⟩ := hkept _ hidle
  exact ⟨s, _, active, hs, hactive, hidle, hderive, htactive.trans hactive,
    (hspeaks active hactive).1⟩

end DeviceSecurity.Session
