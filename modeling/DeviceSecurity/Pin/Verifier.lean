import DeviceSecurity.Trust.Store

/-!
# Verifying handshakes

A verifier applies one policy to the handshakes of one connection target. It completes the chain
that a server sends with the root that the server left out, decides on each handshake by itself,
and keeps the verdict on the first one.
-/

namespace DeviceSecurity

/-- The certificates that a server presents under its name: its own, then the rest of the chain. -/
structure Handshake where
  server : ServerName
  leaf : Bytes
  rest : List Bytes
deriving DecidableEq, Repr

/-- What is fixed for all handshakes of a verifier. -/
structure PinVerifier where
  store : TrustStore
  policy : PinPolicy
  port : Nat
  /-- The time at which certificates must be valid. -/
  now : Int

/-- The place of the first verdict. -/
abbrev VerdictSlot := Option Verdict

namespace VerdictSlot

/-- Keeps the verdict if it is the first. -/
def record (slot : VerdictSlot) (verdict : Verdict) : VerdictSlot := slot <|> some verdict

/-- Why the first handshake was rejected, if it was. -/
def rejection (slot : VerdictSlot) : Option Error := slot.bind Verdict.error?

end VerdictSlot

namespace PinVerifier

/-- The chain that a server sent, leaf first, with the root that issued its last certificate unless
that certificate is the root. -/
def completeChain (store : TrustStore) (h : Handshake) : List Bytes :=
  let chain := h.leaf :: h.rest
  let last := h.rest.getLast?.getD h.leaf
  match store.findIssuer last with
  | some root => if root.encoded ≠ last then chain ++ [root.encoded] else chain
  | none => chain

/-- The verdict on a handshake. -/
def judge (v : PinVerifier) (h : Handshake) : Verdict :=
  PinValidation.evaluate (v.store.evaluate v.now) v.policy
    ⟨h.server.text, v.port, completeChain v.store h⟩

/-- Decides on a handshake and records the verdict. -/
def verify (v : PinVerifier) (h : Handshake) (slot : VerdictSlot) : Bool × VerdictSlot :=
  let verdict := v.judge h
  (verdict.isAccepted, slot.record verdict)

/-- Decides on handshakes in turn: whether all are accepted, and the slot behind them. -/
def verifyAll (v : PinVerifier) : List Handshake → VerdictSlot → Bool × VerdictSlot
  | [], slot => (true, slot)
  | h :: later, slot =>
    let (accepted, slot) := v.verify h slot
    let (others, slot) := v.verifyAll later slot
    (accepted && others, slot)

/-- How the transport reports a rejected certificate. -/
def rejectionText : String := "invalid peer certificate: ApplicationVerificationFailure"

/-- The signature schemes offered to servers. -/
def signatureSchemes : List String :=
  ["ECDSA_NISTP384_SHA384", "ECDSA_NISTP256_SHA256", "ED25519", "RSA_PSS_SHA512",
    "RSA_PSS_SHA384", "RSA_PSS_SHA256", "RSA_PKCS1_SHA512", "RSA_PKCS1_SHA384",
    "RSA_PKCS1_SHA256"]

end PinVerifier

end DeviceSecurity
