import DeviceSecurity.Proofs.Request.Preflight

/-!
# Headers that are added to those of the options

Besides the user of the address, a request adds two headers to those of its options: the type of a
JSON body and the signature. They stand behind the others, and none replaces another. The type is
added only where the options name none, in whatever case, but the signature always. So a request has
one type unless the options spell that header in several ways, and one signature unless they bring
one of their own (`managed_headers_exact`); with theirs it has two (`managed_headers_twice`).
-/

namespace DeviceSecurity.PinnedClient

variable {c : PinnedClient} {url name keyId requestId : String} {o : RequestOptions}
  {session : Option Session} {target : Url}

/-! ## Headers that are added -/

/-- The options name a header exactly if they give a value for it. -/
theorem hasHeader_eq_false_iff : o.hasHeader name = false ↔ headerValues name o.headers = [] := by
  rw [RequestOptions.hasHeader, List.any_eq_false, headerValues, List.map_eq_nil_iff,
    List.filter_eq_nil_iff]

/-- The signature that a request is given. -/
def signatureValue (o : RequestOptions) (session : Option Session) (keyId requestId : String) :
    String :=
  (session.map (·.signRequest keyId requestId (o.bodyBytes.getD []))).getD ""

theorem signature_eq (h : o.signingIds = some (keyId, requestId)) :
    signature o session = [(Signature.headerName, signatureValue o session keyId requestId)] := by
  rw [signature, h]
  rfl

theorem contentType_eq (h : o.hasJsonBody = true) : contentType o =
    if o.hasHeader "Content-Type" then [] else [("Content-Type", "application/json")] := by
  rw [contentType, h]
  cases o.hasHeader "Content-Type" <;> rfl

/-- To the signatures of the options the request adds its own. -/
theorem signatures_assemble (h : o.signingIds = some (keyId, requestId)) :
    headerValues Signature.headerName (c.assemble target o session).headers =
      headerValues Signature.headerName o.headers ++
        [signatureValue o session keyId requestId] := by
  rw [headerValues_headerName_assemble, signature_eq h, headerValues_single (by decide)]

/-- A JSON body has the types that the options name, or else that of JSON. -/
theorem contentTypes_assemble (h : o.hasJsonBody = true) :
    headerValues "Content-Type" (c.assemble target o session).headers =
      if headerValues "Content-Type" o.headers = [] then ["application/json"]
      else headerValues "Content-Type" o.headers := by
  have huser : headerValues "Content-Type" (authorization target) = [] :=
    headerValues_authorization target (by decide)
  have hsignature : headerValues "Content-Type" (signature o session) = [] :=
    headerValues_signature o session (by decide)
  have hname : Text.sameLower "Content-Type" "Content-Type" = true := by decide
  simp only [assemble, headerValues_append, huser, hsignature, contentType_eq h, List.nil_append,
    List.append_nil]
  by_cases hgiven : headerValues "Content-Type" o.headers = []
  · rw [hgiven, hasHeader_eq_false_iff.mpr hgiven, if_pos rfl, if_neg Bool.false_ne_true,
      headerValues_single hname, List.nil_append]
  · have hhas : o.hasHeader "Content-Type" = true :=
      Bool.eq_true_of_not_eq_false (mt hasHeader_eq_false_iff.mp hgiven)
    rw [hhas, if_neg hgiven, if_pos rfl]
    exact List.append_nil _

/-! ## Headers that go out -/

theorem validate_of_preflight {policy : PinPolicy} (h : preflight url o = .ok (target, policy)) :
    o.validate = .ok () := by
  cases hurl : Url.ofText url with
  | error fault => simp [preflight, hurl] at h
  | ok read =>
    by_cases hhost : read.host = none
    · simp [preflight, hurl, hhost] at h
    · rw [preflight_of_reads ⟨hurl, hhost⟩] at h
      obtain ⟨_, -, h⟩ := bind_eq_ok.mp h
      split at h
      · cases h
      · obtain ⟨_, hvalid, -⟩ := bind_eq_ok.mp h
        exact hvalid

/-- What goes out was put together from options that are valid. -/
theorem exists_assemble_of_outgoing {sent : PinVerifier × Request}
    (h : c.outgoing url o session = .ok sent) :
    o.validate = .ok () ∧ ∃ target, sent.2 = c.assemble target o session := by
  obtain ⟨⟨target, policy⟩, hpreflight, -⟩ := bind_eq_ok.mp h
  rw [outgoing_of_preflight hpreflight] at h
  split at h
  · obtain rfl := Except.ok.inj h
    exact ⟨validate_of_preflight hpreflight, target, rfl⟩
  · cases h

/-- Of what goes out: a request that is to be signed bears, behind the signatures that its options
bring, the one that is made for its body, and so exactly that one if they bring none. One with a
JSON body bears the types that its options name, and that of JSON if they name none, and so exactly
one unless they name several. -/
theorem managed_headers_exact {sent : PinVerifier × Request}
    (h : c.outgoing url o session = .ok sent) :
    o.validate = .ok () ∧
    (∀ keyId requestId, o.keyId = some keyId → o.requestId = some requestId →
      let given := headerValues Signature.headerName o.headers
      let computed :=
        (session.map (·.signRequest keyId requestId (sent.2.body.getD []))).getD ""
      headerValues Signature.headerName sent.2.headers = given ++ [computed] ∧
      (headerValues Signature.headerName sent.2.headers = [computed] ↔ given = [])) ∧
    (o.hasJsonBody = true →
      let given := headerValues "Content-Type" o.headers
      headerValues "Content-Type" sent.2.headers =
        (if given = [] then ["application/json"] else given) ∧
      ((∃ value, headerValues "Content-Type" sent.2.headers = [value]) ↔ given.length ≤ 1)) := by
  obtain ⟨hvalid, target, hsent⟩ := exists_assemble_of_outgoing h
  refine ⟨hvalid, fun keyId requestId hkey hrequest => ?_, fun hjson => ?_⟩
  · intro given computed
    have hids : o.signingIds = some (keyId, requestId) := by
      rw [RequestOptions.signingIds, hkey, hrequest]
    have hvalues : headerValues Signature.headerName sent.2.headers = given ++ [computed] := by
      simp only [computed, hsent]
      exact signatures_assemble hids
    refine ⟨hvalues, ?_⟩
    rw [hvalues]
    exact List.append_left_eq_self
  · intro given
    have hvalues : headerValues "Content-Type" sent.2.headers =
        if given = [] then ["application/json"] else given := by
      rw [hsent]
      exact contentTypes_assemble hjson
    refine ⟨hvalues, ?_⟩
    rw [hvalues]
    split
    · next hnil => exact iff_of_true ⟨_, rfl⟩ (by rw [hnil]; exact Nat.zero_le 1)
    · next hne =>
      have hpos := List.length_pos_iff.mpr hne
      rw [← List.length_eq_one_iff]
      omega

/-- A request to be signed with a JSON body, whose type the options name in capitals of their own:
it has this type and one signature, which is empty without a session. -/
theorem managed_headers_exact_spelled :
    let c : PinnedClient := ⟨⟨[], []⟩, 0, 0⟩
    let o : RequestOptions := {
      method := .post, headers := [("content-TYPE", "text/json")]
      body := some (.array []), keyId := some "k", requestId := some "r" }
    ∃ sent, c.outgoing "https://[::1]/" o none = .ok sent ∧
      headerValues Signature.headerName sent.2.headers = [""] ∧
      headerValues "Content-Type" sent.2.headers = ["text/json"] := by
  intro c o
  obtain ⟨sent, hsent⟩ : ∃ sent, c.outgoing "https://[::1]/" o none = .ok sent := ⟨_, rfl⟩
  obtain ⟨-, hsignature, htype⟩ := managed_headers_exact hsent
  exact ⟨sent, hsent, (hsignature "k" "r" rfl rfl).1, (htype rfl).1⟩

/-- Options that are valid bring a signature of their own, or the type of the body in two spellings,
and the request goes out with two headers of that name. -/
theorem managed_headers_twice :
    let c : PinnedClient := ⟨⟨[], []⟩, 0, 0⟩
    let signed : RequestOptions := {
      headers := [("X-JWS-Signature", "mine")], keyId := some "k", requestId := some "r" }
    let typed : RequestOptions := {
      method := .post, headers := [("Content-Type", "text/json"), ("content-type", "text/x")]
      body := some (.array []) }
    signed.validate = .ok () ∧ typed.validate = .ok () ∧ typed.headers.Sorted ∧
    (∃ sent, c.outgoing "https://[::1]/" signed none = .ok sent ∧
      headerValues Signature.headerName sent.2.headers = ["mine", ""]) ∧
    ∃ sent, c.outgoing "https://[::1]/" typed none = .ok sent ∧
      headerValues "Content-Type" sent.2.headers = ["text/json", "text/x"] := by
  intro c signed typed
  have hsorted : typed.headers.Sorted := by
    unfold Json.Members.Sorted
    decide
  exact ⟨rfl, rfl, hsorted, ⟨_, rfl, by decide⟩, _, rfl, by decide⟩

end DeviceSecurity.PinnedClient
