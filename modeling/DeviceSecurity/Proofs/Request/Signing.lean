import DeviceSecurity.Proofs.Session.History
import DeviceSecurity.Proofs.Signature.Verification
import DeviceSecurity.Request.Client

/-!
# What is signed is what is sent

A request that names a key and a request identifier gets one signature header. Under a session with
an active secret its value verifies over the body of the very request that the network is handed;
under any other session, or none, it is empty (`Signs`). The value can always be sent, so signing
stops no request. Headers are looked at through the values of those that bear the name of the
signature header, letter case aside (`headerValues`); the other headers that are added beside those
of the options do not bear it.
-/

namespace DeviceSecurity

/-! ## Bodies -/

/-- The body of a request for the body that the options name: a text as it is, any other value as
JSON, and nothing for null. -/
inductive RequestOptions.Carries : Option Json → Option Bytes → Prop
  | absent : Carries none none
  | null : Carries (some .null) none
  | text (s : String) : Carries (some (.string s)) (some (Bytes.ofText s))
  | json (j : Json) (hnull : j ≠ .null) (htext : ∀ s, j ≠ .string s) :
    Carries (some j) (some (Bytes.ofText j.text))

theorem RequestOptions.carries_bodyBytes (o : RequestOptions) : Carries o.body o.bodyBytes := by
  unfold bodyBytes
  cases o.body with
  | none => exact .absent
  | some j =>
    cases j with
    | null => exact .null
    | string s => exact .text s
    | bool b => exact .json _ nofun nofun
    | number n => exact .json _ nofun nofun
    | array items => exact .json _ nofun nofun
    | object members => exact .json _ nofun nofun

/-! ## Secrets and signatures -/

/-- The active secret of a session that commands lead to is not empty. -/
theorem Session.Reachable.secret_ne_nil {s : Session} (h : s.Reachable) {active : ActiveSecret}
    (hactive : s.active = some active) : active.secret.bytes ≠ [] := by
  obtain ⟨_, _, hjoins⟩ := h.exists_joins hactive
  exact hjoins.bytes_ne_nil

/-- A signature can be the value of a header. -/
theorem Signature.isHeaderValue_of_sign {secret body : Bytes} {keyId requestId signature : String}
    (h : sign secret keyId requestId body = .ok signature) :
    RequestOptions.isHeaderValue signature = true := by
  obtain ⟨-, rfl⟩ := sign_eq_ok.mp h
  refine isHeaderValue_of_isUrlSafe fun c hc => ?_
  simp only [String.toList_append, List.mem_append] at hc
  rcases hc with (hc | hc) | hc
  · exact .inl (Base64.isUrlSafe_of_mem_encode hc)
  · have hdots : c = '.' ∨ c = '.' := by simpa using hc
    exact .inr (hdots.elim id id)
  · exact .inl (Base64.isUrlSafe_of_mem_encode hc)

/-! ## Headers -/

namespace PinnedClient

section HeaderValues

variable {name : String} {headers : List (String × String)}

/-- The values of the headers that bear a name, letter case aside. -/
def headerValues (name : String) (headers : List (String × String)) : List String :=
  (headers.filter fun h => Text.sameLower h.1 name).map (·.2)

theorem headerValues_append (name : String) (a b : List (String × String)) :
    headerValues name (a ++ b) = headerValues name a ++ headerValues name b := by
  simp only [headerValues, List.filter_append, List.map_append]

theorem headerValues_single (h : Text.sameLower name name = true) (value : String) :
    headerValues name [(name, value)] = [value] := by
  simp [headerValues, h]

/-- Headers of one name have no values for another. -/
theorem headerValues_eq_nil {other : String} (hnames : ∀ header ∈ headers, header.1 = other)
    (h : Text.sameLower other name = false) : headerValues name headers = [] := by
  have hnone : headers.filter (fun h => Text.sameLower h.1 name) = [] := by
    rw [List.filter_eq_nil_iff]
    intro header hheader
    rw [hnames header hheader, h]
    exact Bool.false_ne_true
  rw [headerValues, hnone, List.map_nil]

theorem headerValues_authorization (target : Url)
    (h : Text.sameLower "Authorization" name = false) :
    headerValues name (authorization target) = [] := by
  refine headerValues_eq_nil (fun header hheader => ?_) h
  unfold authorization at hheader
  split at hheader
  · rw [List.mem_singleton.mp hheader]
  · cases hheader

theorem headerValues_contentType (o : RequestOptions)
    (h : Text.sameLower "Content-Type" name = false) : headerValues name (contentType o) = [] := by
  refine headerValues_eq_nil (fun header hheader => ?_) h
  unfold contentType at hheader
  split at hheader
  · rw [List.mem_singleton.mp hheader]
  · cases hheader

theorem headerValues_signature (o : RequestOptions) (session : Option Session)
    (h : Text.sameLower Signature.headerName name = false) :
    headerValues name (signature o session) = [] := by
  refine headerValues_eq_nil (fun header hheader => ?_) h
  unfold signature at hheader
  split at hheader
  · rw [List.mem_singleton.mp hheader]
  · cases hheader

end HeaderValues

/-- A request bears the signatures of its options and the one that it is given. -/
theorem headerValues_headerName_assemble (c : PinnedClient) (target : Url) (o : RequestOptions)
    (session : Option Session) :
    headerValues Signature.headerName (c.assemble target o session).headers =
      headerValues Signature.headerName o.headers ++
        headerValues Signature.headerName (signature o session) := by
  have huser : headerValues Signature.headerName (authorization target) = [] :=
    headerValues_authorization target (by decide)
  have htype : headerValues Signature.headerName (contentType o) = [] :=
    headerValues_contentType o (by decide)
  simp only [assemble, headerValues_append, huser, htype, List.nil_append, List.append_nil]

/-- The signatures that a request with this body gets for its options. -/
inductive Signs (o : RequestOptions) (session : Option Session) (body : Bytes) : List String → Prop
  /-- A request that is not to be signed gets none. -/
  | unasked (h : o.keyId = none ∨ o.requestId = none) : Signs o session body []
  /-- Without an active secret the signature is empty. -/
  | inactive {keyId requestId : String} (hkey : o.keyId = some keyId)
    (hrequest : o.requestId = some requestId) (h : ∀ s, session = some s → s.active = none) :
    Signs o session body [""]
  /-- With one it verifies over the body as that of the identifiers. -/
  | signed {keyId requestId signature : String} {s : Session} {active : ActiveSecret}
    (hkey : o.keyId = some keyId) (hrequest : o.requestId = some requestId)
    (hsession : session = some s) (hactive : s.active = some active)
    (hverify : Signature.verify active.secret.bytes body signature =
      .ok (SignatureHeader.forRequest keyId requestId)) : Signs o session body [signature]

/-- The signature header is made for the body of the options, and can be sent. -/
theorem signs_signature {o : RequestOptions} {session : Option Session}
    (hsession : ∀ s, session = some s → s.Reachable) :
    Signs o session (o.bodyBytes.getD [])
        (headerValues Signature.headerName (signature o session)) ∧
      ∀ h ∈ signature o session, RequestOptions.isHeaderValue h.2 = true := by
  unfold signature RequestOptions.signingIds
  cases hkey : o.keyId with
  | none => exact ⟨.unasked (.inl hkey), nofun⟩
  | some keyId =>
    cases hrequest : o.requestId with
    | none => exact ⟨.unasked (.inr hrequest), nofun⟩
    | some requestId =>
      have hname : Text.sameLower Signature.headerName Signature.headerName = true := by decide
      simp only [headerValues_single hname, List.forall_mem_singleton]
      cases session with
      | none => exact ⟨.inactive hkey hrequest (fun s hs => by cases hs), rfl⟩
      | some s =>
        simp only [Option.map_some, Option.getD_some]
        cases hactive : s.active with
        | none =>
          simp only [Session.signRequest, hactive]
          refine ⟨.inactive hkey hrequest fun t ht => ?_, rfl⟩
          rwa [← Option.some.inj ht]
        | some active =>
          have hne := (hsession s rfl).secret_ne_nil hactive
          have hsign := Signature.sign_eq hne keyId requestId (o.bodyBytes.getD [])
          simp only [Session.signRequest, hactive, hsign]
          exact ⟨.signed hkey hrequest rfl hactive (Signature.verify_sign hsign),
            Signature.isHeaderValue_of_sign hsign⟩

/-! ## Requests -/

/-- What is sent once the checks before it have passed. -/
theorem send_of_preflight {c : PinnedClient} {url : String} {o : RequestOptions}
    {session : Option Session} {target : Url} {policy : PinPolicy}
    (h : preflight url o = .ok (target, policy)) (network : Network) :
    c.send network url o session =
      let request := c.assemble target o session
      if isSendable request.url then
        receive (c.verifier target policy) request.url (network request)
      else .error (.invalidUrl "builder error") := by
  unfold send
  rw [h]
  by_cases hsendable : isSendable (c.assemble target o session).url = true
  · simp [hsendable]
  · simp [hsendable]

/-- For options that pass the checks before sending, the request that is handed to the network has
the body that the options name. Beside the signatures among the headers of the options it bears
those that are made for its own body: one that verifies over it where there is an active secret, an
empty one where there is none, and none where no identifiers are given. What is added can always be
sent. -/
theorem signed_as_sent (c : PinnedClient) {url : String} {o : RequestOptions}
    {session : Option Session} {target : Url} {policy : PinPolicy}
    (hpreflight : preflight url o = .ok (target, policy))
    (hsession : ∀ s, session = some s → s.Reachable) :
    let request := c.assemble target o session
    (∀ network, c.send network url o session =
      if isSendable request.url then
        receive (c.verifier target policy) request.url (network request)
      else .error (.invalidUrl "builder error")) ∧
    RequestOptions.Carries o.body request.body ∧
    ∃ added, Signs o session (request.body.getD []) added ∧
      headerValues Signature.headerName request.headers =
        headerValues Signature.headerName o.headers ++ added ∧
      ∀ value ∈ added, RequestOptions.isHeaderValue value = true := by
  intro request
  obtain ⟨hsigns, hvalues⟩ := signs_signature (o := o) hsession
  refine ⟨send_of_preflight hpreflight, o.carries_bodyBytes, _, hsigns,
    c.headerValues_headerName_assemble target o session, fun value hvalue => ?_⟩
  obtain ⟨h, hmem, rfl⟩ := List.mem_map.mp hvalue
  exact hvalues h (List.mem_of_mem_filter hmem)

/-- A client that trusts nobody posts an object in a session that agreed with the peer whose key is
the generator: the one signature of the request verifies over the text of the object. -/
theorem signed_as_sent_post :
    let c : PinnedClient := ⟨⟨[], []⟩, 0, 0⟩
    let o : RequestOptions := {
      method := .post, body := some (.object [("a", .number (.whole 1))])
      keyId := some "k", requestId := some "r" }
    ∃ target policy s active signature, preflight "https://[::1]/a" o = .ok (target, policy) ∧
      s.Reachable ∧ s.active = some active ∧
      headerValues Signature.headerName (c.assemble target o (some s)).headers = [signature] ∧
      (c.assemble target o (some s)).body = some (Bytes.ofText "\x7b\"a\":1\x7d") ∧
      Signature.verify active.secret.bytes (Bytes.ofText "\x7b\"a\":1\x7d") signature =
        .ok (SignatureHeader.forRequest "k" "r") := by
  intro c o
  obtain ⟨target, policy, hpreflight⟩ :
      ∃ target policy, preflight "https://[::1]/a" o = .ok (target, policy) := ⟨_, _, rfl⟩
  have hreachable := ((Session.Reachable.empty.after (List.replicate 47 0 ++ [2])
    (.generate .p256)).after [] (.derive
      "BGsX0fLhLEJH+Lzm5WOkQPJ3A32BLeszoPShOUXYmMKWT+NC4v4af5uO5+tKfA+eFivOM1drMV7Oy7ZAaDe/UfU="))
  generalize hs : Session.after _ [] _ = s at hreachable
  obtain ⟨active, hactive⟩ : ∃ active, s.active = some active := by
    rw [← hs, ← Option.isSome_iff_exists]
    decide +kernel
  have hsession : ∀ t, some s = some t → t.Reachable := by
    rintro t ⟨⟩
    exact hreachable
  obtain ⟨-, -, added, hsigns, hadded, -⟩ := signed_as_sent c hpreflight hsession
  have hbody : (c.assemble target o (some s)).body = some (Bytes.ofText "\x7b\"a\":1\x7d") := by
    show o.bodyBytes = _
    decide +kernel
  rw [hbody] at hsigns
  cases hsigns with
  | unasked h => rcases h with h | h <;> cases h
  | inactive _ _ h => cases (h s rfl).symm.trans hactive
  | @signed keyId requestId signature t other hkey hrequest ht hother hverify =>
    cases hkey
    cases hrequest
    cases ht
    obtain rfl := Option.some.inj (hother.symm.trans hactive)
    exact ⟨target, policy, s, _, signature, hpreflight, hreachable, hactive, hadded, hbody, hverify⟩

end PinnedClient

end DeviceSecurity
