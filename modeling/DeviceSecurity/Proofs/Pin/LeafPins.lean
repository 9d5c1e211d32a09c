import DeviceSecurity.Proofs.Pin.HostDomain

/-!
# Pins for the leaf

A policy that has pins for the leaf accepts no chain under another leaf, as long as it applies at all
(`leafPinned_of_accepted`). Pins for the leaf alone do not make it apply: without pins for the
intermediates, or without domains, they are not looked at, and the evaluator's word is final.
-/

namespace DeviceSecurity.PinValidation

variable {policy : PinPolicy} {offer : ChainOffer} {trusted : TrustEvaluator}

/-- The first certificate of the chain can be read and has one of the pins for the leaf. -/
def LeafPinned (policy : PinPolicy) (offer : ChainOffer) : Prop :=
  ∃ leaf, ReadsAt offer 0 leaf ∧ Pinned policy.leafPins leaf

theorem leafPinned_of_complies (hpins : policy.leafPins ≠ []) (h : Complies policy offer) :
    LeafPinned policy offer := by
  obtain ⟨leaf, name, hnamed, hmatches⟩ := h.leaf
  exact ⟨leaf, hnamed.reads, hmatches.pinned hpins⟩

/-- A policy that is not configured leaves the decision to the evaluator. -/
theorem evaluate_of_not_configured (h : ¬Configured policy) :
    evaluate trusted policy offer = .accepted ↔ trusted offer = .ok () := by
  rw [evaluate_eq_accepted]
  exact and_iff_right fun hpolicy => (h hpolicy).elim

/-- Pins for the leaf bind every chain that is accepted if the policy has pins for intermediates and
domains besides, and none if it has not. -/
theorem leafPinned_of_accepted (hpins : policy.leafPins ≠ []) :
    (Configured policy → ∀ trusted offer, evaluate trusted policy offer = .accepted →
      LeafPinned policy offer) ∧
    (¬Configured policy → ∀ trusted offer,
      evaluate trusted policy offer = .accepted ↔ trusted offer = .ok ()) := by
  refine ⟨fun hpolicy trusted offer haccepted => ?_,
    fun hpolicy trusted offer => evaluate_of_not_configured hpolicy⟩
  obtain ⟨hcomplies, -⟩ := evaluate_eq_accepted.mp haccepted
  exact leafPinned_of_complies hpins (hcomplies hpolicy)

/-- The policy for the domain `b` with the key of the wildcard certificate as a pin for the leaf as
well. -/
def leafPolicy : PinPolicy := { wildcardPolicy with leafPins := [PinDigest.ofContent [0x01]] }

/-- The wildcard certificate is accepted as a leaf, and it has the pin. -/
theorem leafPinned_of_wildcard :
    leafPolicy.leafPins ≠ [] ∧ Configured leafPolicy ∧
      evaluate (fun _ => .ok ()) leafPolicy wildcardOffer = .accepted ∧
      LeafPinned leafPolicy wildcardOffer := by
  have hpins : leafPolicy.leafPins ≠ [] := List.cons_ne_nil _ _
  have hconfigured : Configured leafPolicy := isConfigured_iff.mp rfl
  have haccepted : evaluate (fun _ => .ok ()) leafPolicy wildcardOffer = .accepted := by
    decide +kernel
  exact ⟨hpins, hconfigured, haccepted,
    (leafPinned_of_accepted hpins).1 hconfigured _ _ haccepted⟩

/-- A policy for the domain `b` with a pin for the leaf that is the digest of no certificate here,
and none for intermediates. -/
def leafOnlyPolicy : PinPolicy :=
  { domains := ["b"], leafPins := [⟨List.replicate 32 0x00, rfl⟩] }

/-- Under pins for the leaf alone a chain is accepted of which the leaf has none of them. -/
theorem accepted_unpinned_leaf :
    ¬∀ (trusted : TrustEvaluator) (policy : PinPolicy) (offer : ChainOffer),
      policy.leafPins ≠ [] → evaluate trusted policy offer = .accepted →
        LeafPinned policy offer := by
  intro h
  have haccepted : evaluate (fun _ => .ok ()) leafOnlyPolicy wildcardOffer = .accepted := by
    decide +kernel
  obtain ⟨leaf, ⟨b, hb, hread⟩, hpinned⟩ := h _ _ _ (List.cons_ne_nil _ _) haccepted
  obtain rfl : wildcardCertificate = b := Option.some.inj hb
  have hunpinned : (CertificateInfo.ofBytes? wildcardCertificate).all
      (fun c => !c.matchesAny leafOnlyPolicy.leafPins) = true := by
    decide +kernel
  rw [hread, Option.all_some, matchesAny_iff.mpr hpinned] at hunpinned
  cases hunpinned

end DeviceSecurity.PinValidation
