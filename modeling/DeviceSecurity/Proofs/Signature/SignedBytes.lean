import DeviceSecurity.Proofs.Signature.Verification

/-!
# What a signature is made over

The code of a signature is made over the header part, a dot and the body (`signedBytes`). A header
part is base64, which has no dot, so that the first dot of these bytes ends it whatever the body is;
base64 and JSON write different headers differently. Hence the bytes give back both identifiers and
the body (`signedBytes_inj`), and a code that was made for a request is accepted for this request
only, unless the code of other bytes is the same (`request_of_verify`).
-/

namespace DeviceSecurity

/-- What stands before the first place of a byte and what stands behind it are fixed. -/
theorem Bytes.append_cons_inj {x : UInt8} {a b rest rest' : Bytes} (ha : x ∉ a) (hb : x ∉ b) :
    a ++ x :: rest = b ++ x :: rest' ↔ a = b ∧ rest = rest' := by
  have htake : ∀ {l r : Bytes}, x ∉ l → (l ++ x :: r).takeWhile (· ≠ x) = l := by
    intro l r hl
    have hne : ∀ y ∈ l, decide (y ≠ x) = true := fun y hy =>
      decide_eq_true (ne_of_mem_of_not_mem hy hl)
    rw [List.takeWhile_append_of_pos hne, List.takeWhile_cons_of_neg (by simp), List.append_nil]
  constructor
  · intro h
    obtain rfl : a = b := by rw [← htake (r := rest) ha, h, htake hb]
    exact ⟨rfl, (List.cons.inj (List.append_cancel_left h)).2⟩
  · rintro ⟨rfl, rfl⟩
    rfl

/-- Different headers have different texts, whatever stands in their fields. -/
theorem SignatureHeader.text_injective {a b : SignatureHeader} (h : a.text = b.text) : a = b := by
  have hread := a.ofText_text
  rw [h, b.ofText_text] at hread
  exact (Except.ok.inj hread).symm

/-- Two inputs that have the same code under a secret. -/
structure Hmac.Collision (secret a b : Bytes) : Prop where
  ne : a ≠ b
  code_eq : hmac secret a = hmac secret b

namespace Signature

/-! ## Header parts -/

theorem dot_not_mem_ofText_encode (b : Bytes) :
    (0x2e : UInt8) ∉ Bytes.ofText (Base64.encode .urlSafe b) := by
  have hsymbol : ∀ n < 64, Base64.Variant.urlSafe.symbol n ≠ 0x2e := by decide
  rw [Base64.readable_urlSafe.ofText_encode]
  intro h
  rcases Base64.Variant.Readable.eq_pad_or_symbol h with ⟨-, hpadded⟩ | ⟨n, hn, hdot⟩
  · cases hpadded
  · exact hsymbol n hn hdot.symm

/-- The first dot of what is signed ends the header part. -/
theorem signingInput_inj {a b : Bytes} {body body' : Bytes} :
    signingInput (Base64.encode .urlSafe a) body = signingInput (Base64.encode .urlSafe b) body' ↔
      a = b ∧ body = body' := by
  unfold signingInput
  rw [Bytes.append_cons_inj (dot_not_mem_ofText_encode a) (dot_not_mem_ofText_encode b)]
  refine and_congr_left fun _ => ⟨fun hpart => ?_, fun h => by rw [h]⟩
  exact Base64.readable_urlSafe.encode_injective (Bytes.ofText_injective hpart)

theorem ofText_forRequest_inj {keyId requestId keyId' requestId' : String} :
    Bytes.ofText (SignatureHeader.forRequest keyId requestId).text =
        Bytes.ofText (SignatureHeader.forRequest keyId' requestId').text ↔
      keyId = keyId' ∧ requestId = requestId' := by
  constructor
  · intro h
    have hheader := SignatureHeader.text_injective (Bytes.ofText_injective h)
    exact ⟨congrArg (·.keyId) hheader, congrArg (·.requestId) hheader⟩
  · rintro ⟨rfl, rfl⟩
    rfl

/-! ## Requests -/

/-- What the code of a request's signature is made over. -/
def signedBytes (keyId requestId : String) (body : Bytes) : Bytes :=
  signingInput (encodedHeader keyId requestId) body

theorem signedBytes_inj {keyId requestId keyId' requestId' : String} {body body' : Bytes} :
    signedBytes keyId requestId body = signedBytes keyId' requestId' body' ↔
      keyId = keyId' ∧ requestId = requestId' ∧ body = body' := by
  unfold signedBytes encodedHeader
  rw [signingInput_inj, ofText_forRequest_inj, and_assoc]

/-- A code is accepted for the request that it was made for and no other, unless other bytes have
the same code. -/
theorem request_of_verify {secret body body' : Bytes} {keyId requestId other part : String}
    {header : SignatureHeader}
    (hcut : CutAtDots other part
      (Base64.encode .urlSafe (Hmac.hmac secret (signedBytes keyId requestId body))))
    (haccepted : verify secret body' other = .ok header) :
    part = encodedHeader keyId requestId ∧ header = .forRequest keyId requestId ∧ body' = body ∨
      Hmac.Collision secret (signedBytes keyId requestId body) (signingInput part body') := by
  obtain ⟨-, found, hwell⟩ := verify_eq_ok.mp haccepted
  obtain ⟨rfl, hcodes⟩ := hcut.unique hwell.cut
  have hcode := Base64.readable_urlSafe.encode_injective hcodes
  by_cases hbytes : signedBytes keyId requestId body = signingInput part body'
  · obtain ⟨b, rfl, hread⟩ := hwell.read
    obtain ⟨rfl, rfl⟩ := signingInput_inj.mp hbytes
    rw [SignatureHeader.ofBytes_text] at hread
    exact .inl ⟨rfl, (Except.ok.inj hread).symm, rfl⟩
  · exact .inr ⟨hbytes, hcode⟩

theorem cut_of_sign {secret body : Bytes} {keyId requestId signature part code : String}
    (hsign : sign secret keyId requestId body = .ok signature)
    (hcut : CutAtDots signature part code) :
    part = encodedHeader keyId requestId ∧
      code = Base64.encode .urlSafe (Hmac.hmac secret (signedBytes keyId requestId body)) := by
  obtain ⟨-, rfl⟩ := sign_eq_ok.mp hsign
  exact hcut.unique (cutAtDots_encode _ _)

/-- The code of a signature is made over bytes that give back the identifiers and the body. So
where the code of a request's signature is accepted again, in any text and over any body, text and
body are those of the request; otherwise the secret has one code for two inputs, of which these are
an instance. -/
theorem signed_request_unambiguous :
    (∀ secret keyId requestId body, sign secret keyId requestId body =
      if secret = [] then .error .noActiveKey
      else .ok (encodedHeader keyId requestId ++ ".." ++
        Base64.encode .urlSafe (Hmac.hmac secret (signedBytes keyId requestId body)))) ∧
    (∀ keyId requestId body keyId' requestId' body',
      signedBytes keyId requestId body = signedBytes keyId' requestId' body' ↔
        keyId = keyId' ∧ requestId = requestId' ∧ body = body') ∧
    ∀ secret keyId requestId body signature, sign secret keyId requestId body = .ok signature →
      ∀ before code other part body' header, CutAtDots signature before code →
        CutAtDots other part code → verify secret body' other = .ok header →
        other = signature ∧ header = .forRequest keyId requestId ∧ body' = body ∨
          Hmac.Collision secret (signedBytes keyId requestId body) (signingInput part body') := by
  refine ⟨fun secret keyId requestId body => ?_, fun _ _ _ _ _ _ => signedBytes_inj, ?_⟩
  · split
    · next hsecret =>
      rw [hsecret]
      rfl
    · next hsecret => exact sign_eq hsecret keyId requestId body
  · intro secret keyId requestId body signature hsign before code other part body' header hsigned
      hother haccepted
    obtain ⟨rfl, rfl⟩ := cut_of_sign hsign hsigned
    refine (request_of_verify hother haccepted).imp_left ?_
    rintro ⟨rfl, hheader, hbody⟩
    exact ⟨by rw [hother.parts, hsigned.parts], hheader, hbody⟩

/-- Text that is moved from an identifier into the body changes what is signed; and the code of a
signature is accepted in the text that it was made for. -/
theorem signed_request_unambiguous_moved :
    signedBytes "k" "r\".b" [0x2e] ≠ signedBytes "k" "r" (Bytes.ofText "\".b.") ∧
    ∃ signature before code other part body' header,
      sign [1] "k" "r\".b" [0x2e] = .ok signature ∧ CutAtDots signature before code ∧
      CutAtDots other part code ∧ verify [1] body' other = .ok header ∧
      (other = signature ∧ header = .forRequest "k" "r\".b" ∧ body' = [0x2e] ∨
        Hmac.Collision [1] (signedBytes "k" "r\".b" [0x2e]) (signingInput part body')) := by
  obtain ⟨-, hbytes, hrequest⟩ := signed_request_unambiguous
  have hsign := sign_eq (show ([1] : Bytes) ≠ [] by decide) "k" "r\".b" [0x2e]
  have hcut := cutAtDots_encode (Bytes.ofText (SignatureHeader.forRequest "k" "r\".b").text)
    (Hmac.hmac [1] (signedBytes "k" "r\".b" [0x2e]))
  have hverify := verify_sign hsign
  refine ⟨fun h => ?_, _, _, _, _, _, _, _, hsign, hcut, hcut, hverify, ?_⟩
  · exact absurd ((hbytes _ _ _ _ _ _).mp h).2.1 (by decide)
  · exact hrequest _ _ _ _ _ hsign _ _ _ _ _ _ hcut hcut hverify

end Signature

end DeviceSecurity
