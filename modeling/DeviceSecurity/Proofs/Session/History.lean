import DeviceSecurity.Proofs.Cipher.Fault
import DeviceSecurity.Proofs.Session.Step
import DeviceSecurity.Proofs.Signature.RoundTrip

/-!
# What a session remembers

The history of a session is the list of the commands it was given with its answers, the newest
first. A secret is active exactly when an agreement has succeeded since the last key pair was
generated or the session was cleared, and it is then the secret of the current key pair and of the
peer of the latest agreement that succeeded (`Session.secret_of_history`). The argument is one
invariant of runs (`Session.Remembers`): every command either starts over, agrees anew, or is one
that neither the history nor the session takes notice of.
-/

namespace DeviceSecurity

/-! ## Since -/

/-- Some entry of a history has `p`, and all newer ones have `q`. -/
def Since {α : Type} (p q : α → Prop) (history : List α) : Prop :=
  ∃ newer event older, history = newer ++ event :: older ∧ p event ∧ ∀ x ∈ newer, q x

theorem not_since_nil {α : Type} {p q : α → Prop} : ¬ Since p q [] := by
  rintro ⟨newer, event, older, h, -⟩
  exact List.append_ne_nil_of_right_ne_nil newer (List.cons_ne_nil event older) h.symm

/-- Either the newest entry is the one that is meant, or it is like the others since then. -/
theorem since_cons {α : Type} {p q : α → Prop} {event : α} {history : List α} :
    Since p q (event :: history) ↔ p event ∨ q event ∧ Since p q history := by
  constructor
  · rintro ⟨newer, found, older, h, hp, hq⟩
    cases newer with
    | nil =>
      obtain ⟨rfl, rfl⟩ := List.cons.inj h
      exact .inl hp
    | cons x newer =>
      obtain ⟨rfl, rfl⟩ := List.cons.inj h
      obtain ⟨hx, hnewer⟩ := List.forall_mem_cons.mp hq
      exact .inr ⟨hx, newer, found, older, rfl, hp, hnewer⟩
  · rintro (hp | ⟨hq, newer, found, older, rfl, hp, hnewer⟩)
    · exact ⟨[], event, history, rfl, hp, nofun⟩
    · exact ⟨event :: newer, found, older, rfl, hp, List.forall_mem_cons.mpr ⟨hq, hnewer⟩⟩

namespace Session

/-! ## Histories -/

/-- A command and the answer to it. -/
structure Event where
  command : Command
  reply : Except Error String

/-- The runs of a session from a new one, with their histories. Each command finds entropy of its
own. -/
inductive Run : List Event → Session → Prop
  | start : Run [] empty
  | step {history : List Event} {s : Session} (h : Run history s) (e : Entropy)
    (command : Command) : Run (⟨command, s.answer e command⟩ :: history) (s.after e command)

/-- Every session that commands lead to has a history. -/
theorem Reachable.exists_run {s : Session} (h : Reachable s) : ∃ history, Run history s := by
  induction h with
  | empty => exact ⟨[], .start⟩
  | after _ e command ih =>
    obtain ⟨history, hrun⟩ := ih
    exact ⟨_, hrun.step e command⟩

/-- An agreement that succeeded. -/
def Event.IsAgreement (event : Event) : Prop :=
  ∃ peer secret, event = ⟨.derive peer, .ok secret⟩

/-- A success after which there is no secret: a new key pair, or a session that was cleared. -/
inductive Event.StartsOver : Event → Prop
  | generate (c : Curve) (key : String) : StartsOver ⟨.generate c, .ok key⟩
  | clear (reply : String) : StartsOver ⟨.clear, .ok reply⟩

theorem Event.StartsOver.not_isAgreement {event : Event} (h : event.StartsOver) :
    ¬ event.IsAgreement := by
  rintro ⟨peer, secret, rfl⟩
  cases h

/-- An agreement has succeeded since the last key pair was generated or the session was cleared. -/
def Agreed (history : List Event) : Prop :=
  Since Event.IsAgreement (fun event => ¬ event.StartsOver) history

/-- The latest agreement that succeeded was with this peer, and gave this secret in base64. -/
def LatestAgreement (peer secret : String) (history : List Event) : Prop :=
  Since (fun event => event = ⟨.derive peer, .ok secret⟩) (fun event => ¬ event.IsAgreement) history

/-- Commands that use a session or fail leave no trace in a history. -/
theorem Idle.event {s : Session} {e : Entropy} {command : Command} (h : s.Idle e command) :
    ¬ Event.IsAgreement ⟨command, s.answer e command⟩ ∧
      ¬ Event.StartsOver ⟨command, s.answer e command⟩ := by
  constructor
  · rintro ⟨peer, secret, heq⟩
    obtain ⟨rfl, hanswer⟩ := Event.mk.inj heq
    exact (h.isUse hanswer).elim
  · generalize hanswer : s.answer e command = reply
    intro hstart
    cases hstart with
    | generate c key => exact (h.isUse hanswer).elim
    | clear text => exact (h.isUse hanswer).elim

/-! ## The invariant -/

/-- What a session holds is what its history says: no secret, or the one that it computes with the
peer of the latest agreement. -/
inductive Remembers (history : List Event) (s : Session) : Prop
  | nothing (h : s.active = none) (hnone : ¬ Agreed history)
  | secret {peer : String} {active : ActiveSecret} (h : s.active = some active)
    (hactivate : s.activate peer = .ok active) (hagreed : Agreed history)
    (hlatest : LatestAgreement peer (Base64.encode .standard active.secret.bytes) history)

variable {history : List Event} {s : Session}

/-- After a success that starts over nothing is remembered. -/
theorem Remembers.startOver {event : Event} (hactive : s.active = none) (h : event.StartsOver) :
    Remembers (event :: history) s := by
  refine .nothing hactive fun hagreed => ?_
  rcases since_cons.mp hagreed with hagreement | ⟨hnot, -⟩
  · exact h.not_isAgreement hagreement
  · exact hnot h

/-- An event that is neither an agreement nor a new start changes nothing. -/
theorem Remembers.skip {event : Event} (h : Remembers history s) (hagreement : ¬ event.IsAgreement)
    (hstart : ¬ event.StartsOver) : Remembers (event :: history) s := by
  cases h with
  | nothing h hnone =>
    refine .nothing h fun hagreed => ?_
    rcases since_cons.mp hagreed with hevent | ⟨-, hagreed⟩
    · exact hagreement hevent
    · exact hnone hagreed
  | secret h hactivate hagreed hlatest =>
    exact .secret h hactivate (since_cons.mpr (.inr ⟨hstart, hagreed⟩))
      (since_cons.mpr (.inr ⟨hagreement, hlatest⟩))

/-- Every command keeps the invariant. -/
theorem Remembers.step (h : Remembers history s) (e : Entropy) (command : Command) :
    Remembers (⟨command, s.answer e command⟩ :: history) (s.after e command) := by
  rcases after_cases s e command with ⟨c, pair, rfl, -, hanswer, hafter⟩ |
    ⟨peer, active, rfl, hactivate, hanswer, hafter⟩ | ⟨rfl, hanswer, hafter⟩ | ⟨hidle, hafter⟩
  · rw [hanswer, hafter]
    exact .startOver rfl (.generate c _)
  · rw [hanswer, hafter]
    exact .secret rfl ((activate_congr rfl peer).trans hactivate)
      (since_cons.mpr (.inl ⟨peer, _, rfl⟩)) (since_cons.mpr (.inl rfl))
  · rw [hanswer, hafter]
    exact .startOver rfl (.clear _)
  · rw [hafter]
    exact h.skip hidle.event.1 hidle.event.2

theorem Run.remembers (h : Run history s) : Remembers history s := by
  induction h with
  | start => exact .nothing rfl not_since_nil
  | step _ e command ih => exact ih.step e command

/-- An active secret belongs to the key pair and to the key of the peer of the latest agreement. -/
theorem Run.joins (h : Run history s) {active : ActiveSecret} (hactive : s.active = some active) :
    ∃ pair peer key, s.keyPair = some pair ∧
      LatestAgreement peer (Base64.encode .standard active.secret.bytes) history ∧
      ReadsKey pair.curve peer key ∧ active.Joins pair key := by
  cases h.remembers with
  | nothing hnone _ => cases hnone.symm.trans hactive
  | @secret peer other hother hactivate _ hlatest =>
    obtain rfl : other = active := Option.some.inj (hother.symm.trans hactive)
    obtain ⟨pair, key, hpair, hkey, hjoins⟩ := activate_eq_ok.mp hactivate
    exact ⟨pair, peer, key, hpair, hlatest, hkey, hjoins⟩

/-- The active secret of a session that commands lead to is one of a key pair and a peer's key. -/
theorem Reachable.exists_joins (h : Reachable s) {active : ActiveSecret}
    (hactive : s.active = some active) : ∃ pair key, active.Joins pair key := by
  obtain ⟨history, hrun⟩ := h.exists_run
  obtain ⟨pair, _, key, _, _, _, hjoins⟩ := hrun.joins hactive
  exact ⟨pair, key, hjoins⟩

theorem Run.active_isSome_iff (h : Run history s) : s.active.isSome ↔ Agreed history := by
  cases h.remembers with
  | nothing hnone hnot => simp [hnone, hnot]
  | secret hactive _ hagreed _ => simp [hactive, hagreed]

/-! ## Without a secret -/

/-- Sealing in a session fails for the lack of a secret or for a reason of the channel. -/
theorem encrypt_eq_noActiveKey {text : String} {mode : SealMode} {e : Entropy} :
    (s.encrypt text mode e).1 = .error .noActiveKey ↔ s.active = none := by
  unfold encrypt channel
  cases s.active with
  | none => simp
  | some active =>
    rw [SealContext.sealText_eq_error (SealContext.associatedData_le rfl)]
    exact iff_of_false nofun nofun

theorem decrypt_eq_noActiveKey {sealed : String} {mode : SealMode} :
    s.decrypt sealed mode = .error .noActiveKey ↔ s.active = none := by
  unfold decrypt channel
  cases s.active with
  | none => simp
  | some active =>
    simp only [ok_bind]
    rw [SealContext.openText_eq_error]
    exact iff_of_false nofun nofun

theorem signRequest_ne_empty {active : ActiveSecret} (hactive : s.active = some active)
    (hne : active.secret.bytes ≠ []) (keyId requestId : String) (body : Bytes) :
    s.signRequest keyId requestId body ≠ "" := by
  have hsign := Signature.sign_eq hne keyId requestId body
  have hverify := Signature.verify_sign hsign
  intro hempty
  rw [signRequest, hactive] at hempty
  simp only [hsign] at hempty
  -- The empty text is no signature, but what was signed verifies.
  rw [hempty] at hverify
  cases hverify

theorem Run.signRequest_eq_empty (h : Run history s) {keyId requestId : String} {body : Bytes} :
    s.signRequest keyId requestId body = "" ↔ s.active = none := by
  cases hactive : s.active with
  | none => simp [signRequest, hactive]
  | some active =>
    obtain ⟨_, _, _, _, _, _, hjoins⟩ := h.joins hactive
    exact iff_of_false (signRequest_ne_empty hactive hjoins.bytes_ne_nil keyId requestId body) nofun

/-! ## The secret that a history tells of -/

/-- A session that a run leads to has an active secret exactly when its history has an agreement
since it last started over. The secret is that of the current scalar and of the key of the peer of
the latest agreement: a coordinate on the curve of the key pair, as long as one and not all zeros,
and the channel key is made of it. Only without it do the channel and the signatures refuse. -/
theorem secret_of_history {history : List Event} {s : Session} (h : Run history s) :
    (∀ active, s.active = some active → ∃ pair peer key,
      s.keyPair = some pair ∧
      LatestAgreement peer (Base64.encode .standard active.secret.bytes) history ∧
      ReadsKey pair.curve peer key ∧
      active.secret.curve = pair.curve ∧
      active.secret.bytes.length = pair.curve.fieldSize ∧
      (∃ x ∈ active.secret.bytes, x ≠ 0) ∧
      active.secret.bytes = pair.curve.firstCoordinate (pair.curve.mul pair.secret key.point) ∧
      CipherKey.forChannel active.secret.bytes = .ok active.channelKey ∧
      if pair.curve = .p256 then active.channelKey.bytes = active.secret.bytes
      else active.channelKey.bytes.length = 32 ∧
        Hkdf.expand (Hkdf.extract none active.secret.bytes) CipherKey.channelLabel 32
          = some active.channelKey.bytes) ∧
    (s.active.isSome ↔ Agreed history) ∧
    (∀ text mode e, (s.encrypt text mode e).1 = .error .noActiveKey ↔ s.active = none) ∧
    (∀ sealed mode, s.decrypt sealed mode = .error .noActiveKey ↔ s.active = none) ∧
    ∀ keyId requestId body, s.signRequest keyId requestId body = "" ↔ s.active = none := by
  refine ⟨fun active hactive => ?_, h.active_isSome_iff, fun _ _ _ => encrypt_eq_noActiveKey,
    fun _ _ => decrypt_eq_noActiveKey, fun _ _ _ => h.signRequest_eq_empty⟩
  obtain ⟨pair, peer, key, hpair, hlatest, hkey, hjoins⟩ := h.joins hactive
  exact ⟨pair, peer, key, hpair, hlatest, hkey, hjoins.curve, hjoins.length_eq, hjoins.notZero,
    hjoins.coordinate, hjoins.channelKey, hjoins.channelKey_eq⟩

/-- A session on P-256 draws the scalar two, agrees with the peer whose key is the generator and
then fails to agree with a text that is no key. It still has the secret of the first peer, which is
the channel key as well. -/
theorem secret_of_history_p256 :
    ∃ history s active, Run history s ∧ s.active = some active ∧
      history.map Event.command = [.derive "%%%",
        .derive
          "BGsX0fLhLEJH+Lzm5WOkQPJ3A32BLeszoPShOUXYmMKWT+NC4v4af5uO5+tKfA+eFivOM1drMV7Oy7ZAaDe/UfU=",
        .generate .p256] ∧
      Agreed history ∧ (∃ peer key, ReadsKey .p256 peer key ∧
        LatestAgreement peer (Base64.encode .standard active.secret.bytes) history ∧
        active.secret.bytes = Curve.firstCoordinate .p256 (Curve.mul .p256 2 key.point)) ∧
      active.channelKey.bytes = active.secret.bytes := by
  have hrun := ((Run.start.step (List.replicate 47 0 ++ [2]) (.generate .p256)).step []
    (.derive
      "BGsX0fLhLEJH+Lzm5WOkQPJ3A32BLeszoPShOUXYmMKWT+NC4v4af5uO5+tKfA+eFivOM1drMV7Oy7ZAaDe/UfU=")
    ).step [] (.derive "%%%")
  obtain ⟨hsecret, hagreed, -⟩ := secret_of_history hrun
  generalize hs : Session.after _ [] (.derive "%%%") = s at hrun hsecret hagreed
  have hkeyPair : s.keyPair = some ⟨.p256, 2⟩ := by
    rw [← hs]
    decide +kernel
  obtain ⟨active, hactive⟩ : ∃ active, s.active = some active := by
    rw [← hs, ← Option.isSome_iff_exists]
    decide +kernel
  obtain ⟨pair, peer, key, hpair, hlatest, hkey, -, -, -, hcoordinate, -, hchannel⟩ :=
    hsecret active hactive
  obtain rfl : pair = ⟨.p256, 2⟩ := Option.some.inj (hpair.symm.trans hkeyPair)
  exact ⟨_, s, active, hrun, hactive, rfl, hagreed.mp (by rw [hactive]; rfl),
    ⟨peer, key, hkey, hlatest, hcoordinate⟩, hchannel⟩

end Session

end DeviceSecurity
