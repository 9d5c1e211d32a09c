import DeviceSecurity.Proofs.Pin.Texts
import DeviceSecurity.Proofs.Request.Headers
import DeviceSecurity.Proofs.Request.Signing

/-!
# What is refused before anything is sent

A request is refused for its address, for a pin of an intermediate certificate, for a pin of the
leaf, for a scheme without TLS under pins of intermediates, or for its options, and each reason is
reported only where no earlier one applies (`Refusal`). Every request is refused or admitted
(`admits_or_refusal`), and only what is admitted reaches the network, with headers that can all be
sent (`send_eq_outgoing`, `admits_of_outgoing`).
-/

namespace DeviceSecurity

namespace RequestOptions

variable {o : RequestOptions} {fault : Error}

/-! ## The pins of a request -/

theorem pinPolicy_of_pin (h : PinPolicy.FirstRefused o.certificates fault) :
    o.pinPolicy = .error fault := by
  have hpins := ((PinPolicy.reading_ofTexts o.certificates o.validDomains).first fault).mpr h
  exact bind_eq_error.mpr (.inl (map_eq_error.mp hpins))

/-- Where the pins of intermediates are read, the policy has their digests, and those of the leaf
decide what comes of it. -/
theorem exists_withLeafPins (h : PinPolicy.AllRead o.certificates) :
    ∃ policy : PinPolicy, PinPolicy.Denoted o.certificates policy.pins ∧
      o.pinPolicy = policy.withLeafPins o.leafCertificates := by
  obtain ⟨digests, hread, hdenoted⟩ :=
    (PinPolicy.reading_ofTexts o.certificates o.validDomains).exists_denoted h
  obtain ⟨policy, hpolicy, rfl⟩ := map_eq_ok.mp hread
  refine ⟨policy, hdenoted, ?_⟩
  rw [pinPolicy, hpolicy]
  rfl

theorem pinPolicy_of_leafPin (h : PinPolicy.AllRead o.certificates)
    (hleaf : PinPolicy.FirstRefused o.leafCertificates fault) : o.pinPolicy = .error fault := by
  obtain ⟨policy, -, hpolicy⟩ := exists_withLeafPins h
  rw [hpolicy]
  exact map_eq_error.mp (((PinPolicy.reading_withLeafPins policy _).first fault).mpr hleaf)

theorem exists_pinPolicy (h : PinPolicy.AllRead o.certificates)
    (hleaf : PinPolicy.AllRead o.leafCertificates) :
    ∃ policy, o.pinPolicy = .ok policy ∧ (policy.pins = [] ↔ o.certificates = []) := by
  obtain ⟨bare, hdenoted, hpolicy⟩ := exists_withLeafPins h
  obtain ⟨digests, hread, -⟩ := (PinPolicy.reading_withLeafPins bare _).exists_denoted hleaf
  obtain ⟨policy, hwith, -⟩ := map_eq_ok.mp hread
  refine ⟨policy, hpolicy.trans hwith, ?_⟩
  have hpins : policy.pins = bare.pins := by
    obtain ⟨leafPins, -, hleafPins⟩ := bind_eq_ok.mp hwith
    obtain rfl := Except.ok.inj hleafPins
    rfl
  rw [hpins]
  exact hdenoted.eq_nil_iff h

end RequestOptions

namespace PinnedClient

variable {c : PinnedClient} {url : String} {o : RequestOptions} {session : Option Session}
  {target : Url} {policy : PinPolicy} {fault : Error}

/-! ## Refused or admitted -/

/-- The address is that of a host. -/
def Reads (url : String) (target : Url) : Prop := Url.ofText url = .ok target ∧ target.host ≠ none

/-- Certificates are pinned, but a connection to the target has none. -/
def IsInsecure (target : Url) (o : RequestOptions) : Prop :=
  o.certificates ≠ [] ∧ target.scheme ≠ "https"

/-- Why a request is refused, in the order of the checks. -/
inductive Refusal (url : String) (o : RequestOptions) : Error → Prop
  | address {unread : UrlFault} (h : Url.ofText url = .error unread) :
    Refusal url o (.invalidUrl (url ++ ": " ++ unread.message))
  | host {target : Url} (h : Url.ofText url = .ok target) (hnone : target.host = none) :
    Refusal url o (.invalidUrl (url ++ ": no host"))
  | pin {target : Url} {fault : Error} (haddress : Reads url target)
    (h : PinPolicy.FirstRefused o.certificates fault) : Refusal url o fault
  | leafPin {target : Url} {fault : Error} (haddress : Reads url target)
    (hpins : PinPolicy.AllRead o.certificates)
    (h : PinPolicy.FirstRefused o.leafCertificates fault) : Refusal url o fault
  | scheme {target : Url} (haddress : Reads url target) (hpins : PinPolicy.AllRead o.certificates)
    (hleafPins : PinPolicy.AllRead o.leafCertificates) (h : IsInsecure target o) :
    Refusal url o (.insecureScheme url)
  | options {target : Url} {fault : Error} (haddress : Reads url target)
    (hpins : PinPolicy.AllRead o.certificates)
    (hleafPins : PinPolicy.AllRead o.leafCertificates) (hsecure : ¬IsInsecure target o)
    (h : o.Invalid fault) : Refusal url o fault

/-- A request for which none of the reasons applies. -/
structure Admits (url : String) (o : RequestOptions) (target : Url) : Prop where
  address : Reads url target
  pins : PinPolicy.AllRead o.certificates
  leafPins : PinPolicy.AllRead o.leafCertificates
  secure : ¬IsInsecure target o
  options : o.IsValid

theorem admits_or_refusal (url : String) (hsorted : o.headers.Sorted) :
    (∃ target, Admits url o target) ∨ ∃ fault, Refusal url o fault := by
  cases hurl : Url.ofText url with
  | error unread => exact .inr ⟨_, .address hurl⟩
  | ok target =>
    by_cases hhost : target.host = none
    · exact .inr ⟨_, .host hurl hhost⟩
    have haddress : Reads url target := ⟨hurl, hhost⟩
    rcases PinPolicy.allRead_or_firstRefused o.certificates with hpins | ⟨fault, hpin⟩
    · rcases PinPolicy.allRead_or_firstRefused o.leafCertificates with hleafPins | ⟨fault, hpin⟩
      · by_cases hsecure : IsInsecure target o
        · exact .inr ⟨_, .scheme haddress hpins hleafPins hsecure⟩
        cases hvalidate : o.validate with
        | error fault =>
          exact .inr ⟨fault, .options haddress hpins hleafPins hsecure
            ((RequestOptions.validate_eq_error hsorted).mp hvalidate)⟩
        | ok u =>
          exact .inl ⟨target, haddress, hpins, hleafPins, hsecure,
            RequestOptions.validate_eq_ok.mp hvalidate⟩
      · exact .inr ⟨fault, .leafPin haddress hpins hpin⟩
    · exact .inr ⟨fault, .pin haddress hpin⟩

/-- What is left to check once the address was read. -/
theorem preflight_of_reads (h : Reads url target) : preflight url o = (do
    let policy ← o.pinPolicy
    if !policy.pins.isEmpty && target.scheme ≠ "https" then throw (.insecureScheme url)
    o.validate
    return (target, policy)) := by
  have hhost : target.host.isNone = false := by
    rw [Option.isNone_eq_false_iff, Option.isSome_iff_ne_none]
    exact h.2
  rw [preflight, h.1]
  simp only [pure_eq_ok, ok_bind, hhost]
  rfl

/-- What is left to check once all pins were read, too. -/
theorem exists_preflight_of_allRead (haddress : Reads url target)
    (hpins : PinPolicy.AllRead o.certificates) (hleafPins : PinPolicy.AllRead o.leafCertificates) :
    ∃ policy, o.pinPolicy = .ok policy ∧
      (IsInsecure target o → preflight url o = .error (.insecureScheme url)) ∧
      (¬IsInsecure target o →
        preflight url o = (o.validate >>= fun _ => .ok (target, policy))) := by
  obtain ⟨policy, hpolicy, hnil⟩ := RequestOptions.exists_pinPolicy hpins hleafPins
  have hinsecure : (!policy.pins.isEmpty && decide (target.scheme ≠ "https")) = true ↔
      IsInsecure target o := by
    rw [Bool.and_eq_true, Bool.not_eq_true', List.isEmpty_eq_false_iff, decide_eq_true_eq,
      ne_eq, hnil]
    rfl
  refine ⟨policy, hpolicy, fun h => ?_, fun h => ?_⟩
  · rw [preflight_of_reads haddress, hpolicy, ok_bind, if_pos (hinsecure.mpr h)]
    rfl
  · rw [preflight_of_reads haddress, hpolicy, ok_bind, if_neg (mt hinsecure.mp h)]
    rfl

theorem preflight_of_refusal (hsorted : o.headers.Sorted) (h : Refusal url o fault) :
    preflight url o = .error fault := by
  cases h with
  | address h => simp [preflight, h]
  | host h hnone => simp [preflight, h, hnone]
  | pin haddress h =>
    rw [preflight_of_reads haddress, RequestOptions.pinPolicy_of_pin h]
    rfl
  | leafPin haddress hpins h =>
    rw [preflight_of_reads haddress, RequestOptions.pinPolicy_of_leafPin hpins h]
    rfl
  | scheme haddress hpins hleafPins h =>
    obtain ⟨_, -, hinsecure, -⟩ := exists_preflight_of_allRead haddress hpins hleafPins
    exact hinsecure h
  | options haddress hpins hleafPins hsecure h =>
    obtain ⟨_, -, -, hchecked⟩ := exists_preflight_of_allRead haddress hpins hleafPins
    rw [hchecked hsecure, (RequestOptions.validate_eq_error hsorted).mpr h]
    rfl

theorem Admits.exists_preflight (h : Admits url o target) :
    ∃ policy, o.pinPolicy = .ok policy ∧ preflight url o = .ok (target, policy) := by
  obtain ⟨policy, hpolicy, -, hchecked⟩ :=
    exists_preflight_of_allRead h.address h.pins h.leafPins
  refine ⟨policy, hpolicy, ?_⟩
  rw [hchecked h.secure, RequestOptions.validate_eq_ok.mpr h.options]
  rfl

/-- What is reported is why the request is refused. -/
theorem preflight_eq_error (hsorted : o.headers.Sorted) :
    preflight url o = .error fault ↔ Refusal url o fault := by
  refine ⟨fun h => ?_, preflight_of_refusal hsorted⟩
  rcases admits_or_refusal url hsorted with ⟨target, hadmits⟩ | ⟨other, hother⟩
  · obtain ⟨policy, -, hok⟩ := hadmits.exists_preflight
    cases h.symm.trans hok
  · rw [preflight_of_refusal hsorted hother] at h
    rwa [← Except.error.inj h]

theorem preflight_eq_ok (hsorted : o.headers.Sorted) :
    preflight url o = .ok (target, policy) ↔ Admits url o target ∧ o.pinPolicy = .ok policy := by
  constructor
  · intro h
    rcases admits_or_refusal url hsorted with ⟨other, hadmits⟩ | ⟨fault, hfault⟩
    · obtain ⟨_, hpolicy, hok⟩ := hadmits.exists_preflight
      obtain ⟨rfl, rfl⟩ := Prod.mk.inj (Except.ok.inj (hok.symm.trans h))
      exact ⟨hadmits, hpolicy⟩
    · cases h.symm.trans (preflight_of_refusal hsorted hfault)
  · rintro ⟨hadmits, hpolicy⟩
    obtain ⟨other, hother, hok⟩ := hadmits.exists_preflight
    obtain rfl := Except.ok.inj (hother.symm.trans hpolicy)
    exact hok

/-! ## What goes out -/

/-- The verifier and the request that the network gets, or what stops the request before. -/
def outgoing (c : PinnedClient) (url : String) (o : RequestOptions) (session : Option Session) :
    Except Error (PinVerifier × Request) := do
  let (target, policy) ← preflight url o
  let request := c.assemble target o session
  unless isSendable request.url do throw (.invalidUrl "builder error")
  return (c.verifier target policy, request)

/-- The network is asked for what goes out, and for nothing else. -/
theorem send_eq_outgoing (c : PinnedClient) (network : Network) (url : String) (o : RequestOptions)
    (session : Option Session) : c.send network url o session =
      c.outgoing url o session >>= fun sent => receive sent.1 sent.2.url (network sent.2) := by
  unfold send outgoing
  cases preflight url o with
  | error fault => rfl
  | ok passed =>
    by_cases hsendable : isSendable (c.assemble passed.1 o session).url = true
    · simp [hsendable]
    · simp [hsendable]

theorem send_of_outgoing_eq_error (h : c.outgoing url o session = .error fault)
    (network : Network) : c.send network url o session = .error fault := by
  rw [send_eq_outgoing, h]
  rfl

theorem outgoing_of_refusal (hsorted : o.headers.Sorted) (h : Refusal url o fault)
    (c : PinnedClient) (session : Option Session) : c.outgoing url o session = .error fault := by
  rw [outgoing, preflight_of_refusal hsorted h]
  rfl

/-- What passes the checks goes out, if its address can stand in a request. -/
theorem outgoing_of_preflight (h : preflight url o = .ok (target, policy)) (c : PinnedClient)
    (session : Option Session) : c.outgoing url o session =
      if isSendable target then .ok (c.verifier target policy, c.assemble target o session)
      else .error (.invalidUrl "builder error") := by
  -- the address is sent without its user, on which being sendable does not depend
  have hsame : isSendable (c.assemble target o session).url = isSendable target := rfl
  rw [outgoing, h]
  by_cases hsendable : isSendable target = true
  · simp [hsame, hsendable]
  · simp [hsame, hsendable]

theorem Admits.exists_outgoing (h : Admits url o target) (c : PinnedClient)
    (session : Option Session) : ∃ policy, o.pinPolicy = .ok policy ∧ c.outgoing url o session =
      if isSendable target then .ok (c.verifier target policy, c.assemble target o session)
      else .error (.invalidUrl "builder error") := by
  obtain ⟨policy, hpolicy, hpreflight⟩ := h.exists_preflight
  exact ⟨policy, hpolicy, outgoing_of_preflight hpreflight c session⟩

theorem admits_of_outgoing (hsorted : o.headers.Sorted) {sent : PinVerifier × Request}
    (h : c.outgoing url o session = .ok sent) :
    ∃ target, Admits url o target ∧ sent.2 = c.assemble target o session := by
  rcases admits_or_refusal url hsorted with ⟨target, hadmits⟩ | ⟨fault, hfault⟩
  · obtain ⟨policy, -, hout⟩ := hadmits.exists_outgoing c session
    rw [hout] at h
    split at h
    · obtain rfl := Except.ok.inj h
      exact ⟨target, hadmits, rfl⟩
    · cases h
  · cases h.symm.trans (outgoing_of_refusal hsorted hfault c session)

/-! ## Headers that go out -/

open RequestOptions

theorem isClean_encode {v : Base64.Variant} (hv : v.Readable) (b : Bytes) :
    IsClean (Base64.encode v b) := by
  intro x hx
  rw [hv.ofText_encode] at hx
  have hprintable := hv.printable_of_mem_encodeBytes hx
  omega

theorem canSend_of_mem_authorization {header : String × String}
    (h : header ∈ authorization target) : CanSend header.1 header.2 := by
  have hname : IsToken "Authorization" := isHeaderName_iff.mp (by decide)
  have hkind : IsClean "Basic " := isHeaderValue_iff.mp (by decide)
  unfold authorization at h
  split at h
  · obtain rfl := List.mem_singleton.mp h
    exact ⟨hname, isClean_append.mpr ⟨hkind, isClean_encode Base64.readable_standard _⟩⟩
  · cases h

theorem canSend_of_mem_contentType {header : String × String} (h : header ∈ contentType o) :
    CanSend header.1 header.2 := by
  have hname : IsToken "Content-Type" := isHeaderName_iff.mp (by decide)
  have hvalue : IsClean "application/json" := isHeaderValue_iff.mp (by decide)
  unfold contentType at h
  split at h
  · obtain rfl := List.mem_singleton.mp h
    exact ⟨hname, hvalue⟩
  · cases h

theorem isClean_signRequest (s : Session) (keyId requestId : String) (body : Bytes) :
    IsClean (s.signRequest keyId requestId body) := by
  have hempty : IsClean "" := isHeaderValue_iff.mp (by decide)
  unfold Session.signRequest
  split
  · split
    · next hsign => exact isHeaderValue_iff.mp (Signature.isHeaderValue_of_sign hsign)
    · exact hempty
  · exact hempty

theorem canSend_of_mem_signature {header : String × String} (h : header ∈ signature o session) :
    CanSend header.1 header.2 := by
  have hname : IsToken Signature.headerName := isHeaderName_iff.mp (by decide)
  have hempty : IsClean "" := isHeaderValue_iff.mp (by decide)
  unfold signature at h
  split at h
  · obtain rfl := List.mem_singleton.mp h
    refine ⟨hname, ?_⟩
    cases session with
    | none => exact hempty
    | some s => exact isClean_signRequest s _ _ _
  · cases h

/-- Where the headers of the options can be sent, all of the request can. -/
theorem canSend_of_mem_assemble (hvalid : o.IsValid) {header : String × String}
    (h : header ∈ (c.assemble target o session).headers) : CanSend header.1 header.2 := by
  simp only [assemble, List.mem_append] at h
  rcases h with ((h | h) | h) | h
  · exact canSend_of_mem_authorization h
  · exact hvalid.headers header h
  · exact canSend_of_mem_contentType h
  · exact canSend_of_mem_signature h

/-- The network is asked only for what goes out. Every request is admitted or refused, and one that
is refused fails with the first reason in the order of the checks, whatever the network does. What
goes out was admitted, and each of its headers is named by a token and has neither in its name nor
in its value a control of ASCII but the tab; what is admitted does go out, if its address can stand
in a request. The options pass their own check exactly if they are valid, and else fail for the
body, or for the first header in the order of names. -/
theorem fails_fast (c : PinnedClient) (url : String) {o : RequestOptions}
    (hsorted : o.headers.Sorted) (session : Option Session) :
    (∀ network, c.send network url o session =
      c.outgoing url o session >>= fun sent => receive sent.1 sent.2.url (network sent.2)) ∧
    ((∃ target, Admits url o target) ∨ ∃ fault, Refusal url o fault) ∧
    (∀ fault, preflight url o = .error fault ↔ Refusal url o fault) ∧
    (∀ target policy, preflight url o = .ok (target, policy) ↔
      Admits url o target ∧ o.pinPolicy = .ok policy) ∧
    (∀ fault, Refusal url o fault → c.outgoing url o session = .error fault ∧
      ∀ network, c.send network url o session = .error fault) ∧
    (∀ sent, c.outgoing url o session = .ok sent → (∃ target, Admits url o target) ∧
      ∀ header ∈ sent.2.headers, IsToken header.1 ∧ IsClean header.1 ∧ IsClean header.2) ∧
    (∀ target, Admits url o target → isSendable target = true →
      ∃ verifier, c.outgoing url o session = .ok (verifier, c.assemble target o session)) ∧
    (o.validate = .ok () ↔ o.IsValid) ∧
    ∀ fault, o.validate = .error fault ↔ o.Invalid fault := by
  refine ⟨fun network => send_eq_outgoing c network url o session, admits_or_refusal url hsorted,
    fun _ => preflight_eq_error hsorted, fun _ _ => preflight_eq_ok hsorted, fun fault h => ?_,
    fun sent h => ?_, fun target hadmits hsendable => ?_, validate_eq_ok,
    fun _ => validate_eq_error hsorted⟩
  · have hout := outgoing_of_refusal hsorted h c session
    exact ⟨hout, send_of_outgoing_eq_error hout⟩
  · obtain ⟨target, hadmits, hsent⟩ := admits_of_outgoing hsorted h
    refine ⟨⟨target, hadmits⟩, fun header hheader => ?_⟩
    rw [hsent] at hheader
    have hcan := canSend_of_mem_assemble hadmits.options hheader
    exact ⟨hcan.name, hcan.name.isClean, hcan.value⟩
  · obtain ⟨policy, -, hout⟩ := hadmits.exists_outgoing c session
    rw [if_pos hsendable] at hout
    exact ⟨_, hout⟩

/-- Of three headers the second is reported, as its value ends the line; without it and the third,
whose name is no token, the request goes out. -/
theorem fails_fast_line_end :
    let c : PinnedClient := ⟨⟨[], []⟩, 0, 0⟩
    let o : RequestOptions := { headers := [("A", "a\tb"), ("B", "b\n"), ("C:", "c")] }
    let shorter : RequestOptions := { headers := [("A", "a\tb")] }
    o.headers.Sorted ∧ shorter.headers.Sorted ∧
    Refusal "https://[::1]/" o (.invalidConfig "invalid value for header B") ∧
    (∀ network, c.send network "https://[::1]/" o none =
      .error (.invalidConfig "invalid value for header B")) ∧
    ∃ sent, c.outgoing "https://[::1]/" shorter none = .ok sent ∧
      sent.2.headers = [("A", "a\tb")] ∧
      ∀ header ∈ sent.2.headers, IsToken header.1 ∧ IsClean header.1 ∧ IsClean header.2 := by
  intro c o shorter
  have hsorted : o.headers.Sorted := by
    unfold Json.Members.Sorted
    decide
  have hshorter : shorter.headers.Sorted := List.pairwise_singleton _ _
  obtain ⟨-, -, hpreflight, -, hrefused, -⟩ := fails_fast c "https://[::1]/" hsorted none
  obtain ⟨-, -, -, -, -, hsent, -⟩ := fails_fast c "https://[::1]/" hshorter none
  have hrefusal := (hpreflight (.invalidConfig "invalid value for header B")).mp rfl
  exact ⟨hsorted, hshorter, hrefusal, (hrefused _ hrefusal).2, _, rfl, rfl, (hsent _ rfl).2⟩

/-- A letter and a control beyond ASCII pass the check, and go out. -/
theorem beyond_ascii_goes_out :
    let c : PinnedClient := ⟨⟨[], []⟩, 0, 0⟩
    let o : RequestOptions := { headers := [("X", "é"), ("Y", "\u0085")] }
    o.headers.Sorted ∧ o.validate = .ok () ∧
    (¬∀ header ∈ o.headers, ∀ x ∈ header.2.toList, x = '\t' ∨ ' ' ≤ x ∧ x ≤ '~') ∧
    ∃ sent, c.outgoing "https://[::1]/" o none = .ok sent ∧
      ("X", "é") ∈ sent.2.headers ∧ ("Y", "\u0085") ∈ sent.2.headers := by
  intro c o
  have hsorted : o.headers.Sorted := by
    unfold Json.Members.Sorted
    decide
  refine ⟨hsorted, rfl, fun h => ?_, _, rfl, by decide, by decide⟩
  exact absurd (h ("X", "é") List.mem_cons_self 'é' (by decide)) (by decide)

end PinnedClient

end DeviceSecurity
