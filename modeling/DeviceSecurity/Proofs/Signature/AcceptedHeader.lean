import DeviceSecurity.Proofs.Signature.Verification

/-!
# The header of an accepted signature

Signing writes one kind of header, `SignatureHeader.forRequest`. Verification looks at the algorithm
of a header and at whether the payload is encoded, but not at the extensions that a verifier must
know: with the secret, every supported header can be signed so that it is accepted
(`verify_withHeader`). So an accepted header is the one for its identifiers exactly if its one
critical extension is `b64` (`header_of_accepted`).
-/

namespace DeviceSecurity

/-- What is left open by a supported header besides the identifiers are the critical extensions. -/
theorem SignatureHeader.IsSupported.eq_forRequest_iff {header : SignatureHeader}
    (h : header.IsSupported) :
    header = forRequest header.keyId header.requestId ↔ header.critical = ["b64"] := by
  obtain ⟨algorithm, keyId, encoded, critical, requestId⟩ := header
  obtain ⟨halgorithm, hencoded⟩ := h
  simp only at halgorithm hencoded
  simp [forRequest, halgorithm, hencoded]

namespace Signature

variable {secret body : Bytes} {header : SignatureHeader}

/-- The signature over a body with a header of one's own. -/
def withHeader (secret : Bytes) (header : SignatureHeader) (body : Bytes) : String :=
  let part := Base64.encode .urlSafe (Bytes.ofText header.text)
  part ++ ".." ++ Base64.encode .urlSafe (Hmac.hmac secret (signingInput part body))

/-- A supported header is accepted with the code that the secret gives it. -/
theorem verify_withHeader (hsecret : secret ≠ []) (h : header.IsSupported) :
    verify secret body (withHeader secret header body) = .ok header :=
  verify_eq_ok.mpr ⟨hsecret, _, cutAtDots_encode _ _, ⟨_, rfl, header.ofBytes_text⟩, h⟩

theorem isSupported_of_verify {signature : String} (h : verify secret body signature = .ok header) :
    header.IsSupported := by
  obtain ⟨-, _, hwell⟩ := verify_eq_ok.mp h
  exact hwell.supported

/-- The header of an accepted signature names the one algorithm and a payload that is not encoded.
It is the header that signing writes for its identifiers exactly if `b64` is its one critical
extension; and of critical extensions, any list is accepted, over any body and with any
identifiers. -/
theorem header_of_accepted (secret body : Bytes) :
    (∀ signature header, verify secret body signature = .ok header →
      header.algorithm = SignatureHeader.algorithmName ∧ header.encoded = false ∧
        (header = .forRequest header.keyId header.requestId ↔ header.critical = ["b64"])) ∧
    (secret ≠ [] → ∀ keyId requestId critical, ∃ signature, verify secret body signature =
      .ok ⟨SignatureHeader.algorithmName, keyId, false, critical, requestId⟩) := by
  constructor
  · intro signature header haccepted
    have hsupported := isSupported_of_verify haccepted
    exact ⟨hsupported.algorithm, hsupported.encoded, hsupported.eq_forRequest_iff⟩
  · intro hsecret keyId requestId critical
    exact ⟨_, verify_withHeader hsecret ⟨rfl, rfl⟩⟩

/-- A header that makes an unknown extension critical. -/
def expiringHeader : SignatureHeader :=
  ⟨SignatureHeader.algorithmName, "k", false, ["exp"], "r"⟩

theorem verify_expiring :
    verify [1] [] (withHeader [1] expiringHeader []) = .ok expiringHeader :=
  verify_withHeader (by decide) ⟨rfl, rfl⟩

/-- It is not the header for its identifiers; and a header without critical extensions is accepted
as well. -/
theorem header_of_accepted_expiring :
    verify [1] [] (withHeader [1] expiringHeader []) = .ok expiringHeader ∧
      expiringHeader ≠ .forRequest expiringHeader.keyId expiringHeader.requestId ∧
      ∃ signature, verify [1] [0x2e] signature =
        .ok ⟨SignatureHeader.algorithmName, "k", false, [], "r"⟩ := by
  refine ⟨verify_expiring, fun heq => ?_, (header_of_accepted [1] [0x2e]).2 (by decide) "k" "r" []⟩
  have hcritical := ((header_of_accepted [1] []).1 _ _ verify_expiring).2.2.mp heq
  exact absurd hcritical (by decide)

/-- Of the headers that are accepted, not all are those that signing writes. -/
theorem accepted_unknown_extension :
    ¬∀ (secret body : Bytes) (signature : String) (header : SignatureHeader),
      verify secret body signature = .ok header →
        header = .forRequest header.keyId header.requestId := by
  intro h
  exact absurd (h _ _ _ _ verify_expiring) (by decide)

end Signature

end DeviceSecurity
