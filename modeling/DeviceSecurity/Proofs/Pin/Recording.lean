import DeviceSecurity.Curve.PeerKey
import DeviceSecurity.Pin.Verifier

/-!
# What a verifier records

A verifier answers every handshake for itself and records one verdict, the first. The slot is
shared with whoever asked for it, and from the first handshake on all of them see the same verdict,
whatever comes later. In the other direction nothing passes: no answer depends on what the slot
holds. `PinVerifier.recorded_of_run` says this of whole runs; `PinVerifier.answer_eq` is the step.
-/

namespace DeviceSecurity

theorem Verdict.isAccepted_iff {verdict : Verdict} :
    verdict.isAccepted = true ↔ verdict = .accepted := by
  cases verdict with
  | accepted => exact iff_of_true rfl rfl
  | rejected state e => exact iff_of_false nofun nofun

namespace VerdictSlot

theorem record_some (first verdict : Verdict) : record (some first) verdict = some first := rfl

/-- There is a reason where the verdict that was recorded is a rejection. -/
theorem rejection_eq_some {slot : VerdictSlot} {e : Error} :
    slot.rejection = some e ↔ ∃ state, slot = some (.rejected state e) := by
  cases slot with
  | none => exact iff_of_false nofun nofun
  | some verdict =>
    cases verdict with
    | accepted => exact iff_of_false nofun nofun
    | rejected state reason =>
      show some reason = some e ↔ _
      constructor
      · intro h
        exact ⟨state, Option.some.inj h ▸ rfl⟩
      · rintro ⟨other, h⟩
        rw [Option.some.injEq, Verdict.rejected.injEq] at h
        rw [h.2]

end VerdictSlot

namespace PinVerifier

variable {v : PinVerifier}

/-! ## Attempts -/

/-- A handshake and the time at which it takes place. -/
structure Attempt where
  handshake : Handshake
  time : Int

/-- The verdict on an attempt by itself: that of the rules on its completed chain, for the server
that was meant and the port of the verifier, with certificates that are valid at its time. -/
def verdictOn (v : PinVerifier) (a : Attempt) : Verdict :=
  PinValidation.evaluate (v.store.evaluate a.time) v.policy
    ⟨a.handshake.server.text, v.port, completeChain v.store a.handshake⟩

/-- What a verifier does at an attempt. -/
def answer (v : PinVerifier) (a : Attempt) (slot : VerdictSlot) : Bool × VerdictSlot :=
  { v with now := a.time }.verify a.handshake slot

/-- The answer is the verdict on the attempt, and the slot has no part in it. -/
theorem answer_eq (v : PinVerifier) (a : Attempt) (slot : VerdictSlot) :
    v.answer a slot = ((v.verdictOn a).isAccepted, slot.record (v.verdictOn a)) := rfl

/-! ## Runs -/

/-- The runs of a verifier from a slot without a verdict: the attempts in turn, each with its
answer, and the slot behind them. -/
inductive Run (v : PinVerifier) : List (Attempt × Bool) → VerdictSlot → Prop
  | start : Run v [] none
  | step {past : List (Attempt × Bool)} {slot : VerdictSlot} (h : Run v past slot) (a : Attempt) :
    Run v (past ++ [(a, (v.answer a slot).1)]) (v.answer a slot).2

variable {past : List (Attempt × Bool)} {slot : VerdictSlot}

theorem Run.next (h : Run v past slot) (a : Attempt) :
    Run v (past ++ [(a, (v.verdictOn a).isAccepted)]) (slot.record (v.verdictOn a)) :=
  h.step a

/-- The slot holds the first verdict. -/
theorem Run.slot_eq (h : Run v past slot) :
    slot = past.head?.map fun entry => v.verdictOn entry.1 := by
  induction h with
  | start => rfl
  | @step past slot _ a ih =>
    rw [answer_eq]
    cases past with
    | nil =>
      rw [ih]
      rfl
    | cons first later =>
      rw [ih]
      exact VerdictSlot.record_some (v.verdictOn first.1) (v.verdictOn a)

/-- Every answer is that to the attempt alone. -/
theorem Run.accepted_iff (h : Run v past slot) {entry : Attempt × Bool} (hentry : entry ∈ past) :
    entry.2 = true ↔ v.verdictOn entry.1 = .accepted := by
  induction h with
  | start => cases hentry
  | step _ a ih =>
    rcases List.mem_append.mp hentry with hpast | hlast
    · exact ih hpast
    · rw [List.mem_singleton] at hlast
      rw [hlast, answer_eq]
      exact Verdict.isAccepted_iff

/-- A run that goes on leaves the slot as it is, once there is a verdict in it. -/
theorem Run.slot_eq_of_append (h : Run v past slot) (hpast : past ≠ [])
    {later : List (Attempt × Bool)} {slot' : VerdictSlot} (hlater : Run v (past ++ later) slot') :
    slot' = slot := by
  rw [hlater.slot_eq, h.slot_eq]
  cases past with
  | nil => exact (hpast rfl).elim
  | cons first rest => rfl

theorem Run.rejection_eq_some (h : Run v past slot) {e : Error} : slot.rejection = some e ↔
    ∃ first accepted later state, past = (first, accepted) :: later ∧
      v.verdictOn first = .rejected state e := by
  rw [VerdictSlot.rejection_eq_some, h.slot_eq]
  constructor
  · rintro ⟨state, hstate⟩
    cases past with
    | nil => cases hstate
    | cons first later => exact ⟨first.1, first.2, later, state, rfl, Option.some.inj hstate⟩
  · rintro ⟨first, accepted, later, state, rfl, hstate⟩
    exact ⟨state, congrArg some hstate⟩

/-- After every run a verifier has accepted those attempts whose own chains the rules accept, and no
others, and the slot holds the verdict on the first attempt, or none if there was none. It tells of
a rejection where that one is a rejection, with the same reason. The next attempt is answered for
itself, and the slot keeps what it holds however the run goes on. -/
theorem recorded_of_run (h : Run v past slot) :
    (∀ entry ∈ past, entry.2 = true ↔ v.verdictOn entry.1 = .accepted) ∧
    slot = past.head?.map (fun entry => v.verdictOn entry.1) ∧
    (∀ e, slot.rejection = some e ↔ ∃ first accepted later state,
      past = (first, accepted) :: later ∧ v.verdictOn first = .rejected state e) ∧
    (∀ a, (v.answer a slot).1 = true ↔ v.verdictOn a = .accepted) ∧
    ∀ later slot', past ≠ [] → Run v (past ++ later) slot' → slot' = slot := by
  refine ⟨fun entry hentry => h.accepted_iff hentry, h.slot_eq, fun e => h.rejection_eq_some,
    fun a => ?_, fun later slot' hpast hlater => h.slot_eq_of_append hpast hlater⟩
  rw [answer_eq]
  exact Verdict.isAccepted_iff

/-- What is signed in a certificate for `a.b` that is valid from 2000 to 2049 and has no subject,
no issuer's name and no key. -/
def signedPart : Bytes := [
    0x30, 0x4e, 0xa0, 0x03, 0x02, 0x01, 0x02, 0x02, 0x01, 0x01, 0x30, 0x0a, 0x06, 0x08, 0x2a, 0x86,
    0x48, 0xce, 0x3d, 0x04, 0x03, 0x02, 0x30, 0x00, 0x30, 0x1e, 0x17, 0x0d, 0x30, 0x30, 0x30, 0x31,
    0x30, 0x31, 0x30, 0x30, 0x30, 0x30, 0x30, 0x30, 0x5a, 0x17, 0x0d, 0x34, 0x39, 0x31, 0x32, 0x33,
    0x31, 0x32, 0x33, 0x35, 0x39, 0x35, 0x39, 0x5a, 0x30, 0x00, 0x30, 0x00, 0xa3, 0x12, 0x30, 0x10,
    0x30, 0x0e, 0x06, 0x03, 0x55, 0x1d, 0x11, 0x04, 0x07, 0x30, 0x05, 0x82, 0x03, 0x61, 0x2e, 0x62]

/-- The certificate, signed by the digest of that part, twice. -/
def signedCertificate : Bytes :=
  [0x30, 0x81, 0xa5] ++ signedPart ++
    [0x30, 0x0a, 0x06, 0x08, 0x2a, 0x86, 0x48, 0xce, 0x3d, 0x04, 0x03, 0x02] ++
    [0x03, 0x47, 0x00, 0x30, 0x44, 0x02, 0x20] ++ DigestAlgorithm.sha256.digest signedPart ++
    [0x02, 0x20] ++ DigestAlgorithm.sha256.digest signedPart

/-- The key for which this is a signature: its sum with the generator has the digest as its first
coordinate. -/
def signingKey : PeerKey where
  curve := .p256
  point := .affine 0xba0bef8ce0c839393941af22222626efc5497359e65f3e62e3e3afc7afb5122c
    0xdebbbfff2c5b315fd89ce0ae99f7ff76b99f5daf16e8b61b4df7b19e0f1add4a

/-- A verifier without pins that trusts the key. -/
def plainVerifier : PinVerifier where
  store := ⟨[⟨[], signingKey.spkiBytes.drop 2, none⟩], []⟩
  policy := {}
  port := 443
  now := 0

/-- The certificate is presented before it is valid, and again when it is. -/
theorem recorded_of_run_early :
    let early : Attempt := ⟨⟨.dns "a.b", signedCertificate, []⟩, 0⟩
    let late : Attempt := ⟨⟨.dns "a.b", signedCertificate, []⟩, 1000000000⟩
    ∃ slot, Run plainVerifier [(early, false), (late, true)] slot ∧
      slot.rejection = some (.trustEvaluationFailed "<NotValidYet>") := by
  intro early late
  have hearly : plainVerifier.verdictOn early =
      .rejected .received (.trustEvaluationFailed "<NotValidYet>") := by
    decide +kernel
  have hlate : plainVerifier.verdictOn late = .accepted := by
    decide +kernel
  have hrun := ((@Run.start plainVerifier).next early).next late
  rw [hearly, hlate] at hrun
  exact ⟨_, hrun, ((recorded_of_run hrun).2.2.1 _).mpr ⟨early, false, _, _, rfl, hearly⟩⟩

end PinVerifier

end DeviceSecurity
