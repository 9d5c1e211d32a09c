import DeviceSecurity.Proofs.Request.Preflight

/-!
# Pins without TLS

Pins are compared with certificates, and a connection without TLS has none. A request with pins of
intermediate certificates is refused for such an address. Pins of the leaf do not count there: where
they are the only ones, nothing is refused for their sake, and a valid request goes out in clear
(`insecureScheme_iff`, `leafPinned_goes_out`).
-/

namespace DeviceSecurity.PinnedClient

variable {url : String} {o : RequestOptions} {target : Url}

/-- Pins of intermediates are refused without TLS, whatever else the options ask for. -/
theorem outgoing_of_pins (haddress : Reads url target) (hscheme : target.scheme ≠ "https")
    (hpins : PinPolicy.AllRead o.certificates) (hleafPins : PinPolicy.AllRead o.leafCertificates)
    (hsome : o.certificates ≠ []) (c : PinnedClient) (session : Option Session) :
    c.outgoing url o session = .error (.insecureScheme url) := by
  obtain ⟨_, -, hinsecure, -⟩ := exists_preflight_of_allRead haddress hpins hleafPins
  rw [outgoing, hinsecure ⟨hsome, hscheme⟩]
  rfl

/-- Without pins of intermediates, the options and the form of the address decide, under any
scheme. -/
theorem exists_outgoing_of_no_pins (haddress : Reads url target) (hnone : o.certificates = [])
    (hleafPins : PinPolicy.AllRead o.leafCertificates) (c : PinnedClient)
    (session : Option Session) :
    ∃ policy, c.outgoing url o session = o.validate >>= fun _ =>
      if isSendable target then .ok (c.verifier target policy, c.assemble target o session)
      else .error (.invalidUrl "builder error") := by
  have hpins : PinPolicy.AllRead o.certificates := by
    rw [hnone]
    exact nofun
  obtain ⟨policy, -, -, hchecked⟩ := exists_preflight_of_allRead haddress hpins hleafPins
  have hpreflight := hchecked fun h => h.1 hnone
  refine ⟨policy, ?_⟩
  cases hvalidate : o.validate with
  | error fault =>
    rw [outgoing, hpreflight, hvalidate]
    rfl
  | ok u =>
    rw [hvalidate] at hpreflight
    exact outgoing_of_preflight hpreflight c session

/-- For an address without TLS, and pins that can all be read, the request is refused as insecure
exactly if an intermediate certificate is pinned. Otherwise, also if the leaf is pinned, it goes out
as soon as the options are valid and the address can stand in a request. -/
theorem insecureScheme_iff (c : PinnedClient) (session : Option Session)
    (haddress : Reads url target) (hscheme : target.scheme ≠ "https")
    (hpins : PinPolicy.AllRead o.certificates)
    (hleafPins : PinPolicy.AllRead o.leafCertificates) :
    (c.outgoing url o session = .error (.insecureScheme url) ↔ o.certificates ≠ []) ∧
    (o.certificates ≠ [] → ∀ network, c.send network url o session = .error (.insecureScheme url)) ∧
    (o.certificates = [] → ((∃ verifier, c.outgoing url o session =
      .ok (verifier, c.assemble target o session)) ↔ o.IsValid ∧ isSendable target = true)) := by
  have hrefused := fun hsome => outgoing_of_pins haddress hscheme hpins hleafPins hsome c session
  have hplain := fun hnone => exists_outgoing_of_no_pins haddress hnone hleafPins c session
  refine ⟨⟨fun h hnone => ?_, hrefused⟩, fun hsome => send_of_outgoing_eq_error (hrefused hsome),
    fun hnone => ?_⟩
  · obtain ⟨policy, hout⟩ := hplain hnone
    rcases bind_eq_error.mp (hout.symm.trans h) with hinvalid | ⟨_, -, hsendable⟩
    · obtain ⟨_, hreason⟩ := RequestOptions.exists_invalidConfig_of_validate hinvalid
      cases hreason
    · split at hsendable <;> cases hsendable
  · obtain ⟨policy, hout⟩ := hplain hnone
    rw [hout, ← RequestOptions.validate_eq_ok]
    constructor
    · rintro ⟨verifier, h⟩
      obtain ⟨_, hvalid, hsent⟩ := bind_eq_ok.mp h
      split at hsent
      · next hsendable => exact ⟨hvalid, hsendable⟩
      · cases hsent
    · rintro ⟨hvalid, hsendable⟩
      rw [hvalid, if_pos hsendable]
      exact ⟨_, rfl⟩

/-- A request without TLS is refused for one pin of an intermediate, and goes out for one of the
leaf. -/
theorem insecureScheme_iff_loopback :
    let c : PinnedClient := ⟨⟨[], []⟩, 0, 0⟩
    let pin := (PinPolicy.uniformDigest 0).text
    let o : RequestOptions := { certificates := [pin], leafCertificates := [pin] }
    let leaf : RequestOptions := { leafCertificates := [pin] }
    ∃ target, Reads "http://[::1]/" target ∧ target.scheme ≠ "https" ∧
      PinPolicy.AllRead [pin] ∧
      (∀ network,
        c.send network "http://[::1]/" o none = .error (.insecureScheme "http://[::1]/")) ∧
      ∃ verifier, c.outgoing "http://[::1]/" leaf none =
        .ok (verifier, c.assemble target leaf none) := by
  intro c pin o leaf
  obtain ⟨target, haddress, hscheme, hsendable⟩ : ∃ target, Reads "http://[::1]/" target ∧
      target.scheme ≠ "https" ∧ isSendable target = true :=
    ⟨_, ⟨rfl, nofun⟩, by decide, by decide⟩
  have hpin : PinPolicy.AllRead [pin] :=
    List.forall_mem_singleton.mpr ⟨_, PinDigest.spells_text (PinPolicy.uniformDigest 0)⟩
  have hvalid : leaf.IsValid := ⟨.inl rfl, nofun⟩
  obtain ⟨-, hrefused, -⟩ := insecureScheme_iff (o := o) c none haddress hscheme hpin hpin
  obtain ⟨-, -, hout⟩ := insecureScheme_iff (o := leaf) c none haddress hscheme nofun hpin
  exact ⟨target, haddress, hscheme, hpin, hrefused (by simp), (hout rfl).mpr ⟨hvalid, hsendable⟩⟩

/-- The leaf is pinned by a pin that is read, the address has no TLS, and still the network is asked
for the request. -/
theorem leafPinned_goes_out :
    let c : PinnedClient := ⟨⟨[], []⟩, 0, 0⟩
    let o : RequestOptions := { leafCertificates := [(PinPolicy.uniformDigest 0).text] }
    ∃ target, Reads "http://[::1]/" target ∧ target.scheme = "http" ∧
      PinPolicy.AllRead o.certificates ∧ PinPolicy.AllRead o.leafCertificates ∧
      ∃ sent, c.outgoing "http://[::1]/" o none = .ok sent ∧ ∀ network,
        c.send network "http://[::1]/" o none = receive sent.1 sent.2.url (network sent.2) := by
  intro c o
  obtain ⟨target, haddress, hscheme, hsendable⟩ : ∃ target, Reads "http://[::1]/" target ∧
      target.scheme = "http" ∧ isSendable target = true :=
    ⟨_, ⟨rfl, nofun⟩, rfl, by decide⟩
  have hleafPins : PinPolicy.AllRead o.leafCertificates :=
    List.forall_mem_singleton.mpr ⟨_, PinDigest.spells_text (PinPolicy.uniformDigest 0)⟩
  obtain ⟨policy, hout⟩ := exists_outgoing_of_no_pins haddress rfl hleafPins c none
  have hsent : c.outgoing "http://[::1]/" o none =
      .ok (c.verifier target policy, c.assemble target o none) := by
    rw [hout, if_pos hsendable]
    rfl
  refine ⟨target, haddress, hscheme, nofun, hleafPins, _, hsent, fun network => ?_⟩
  rw [send_eq_outgoing, hsent]
  rfl

end DeviceSecurity.PinnedClient
