import DeviceSecurity.Pin.Validator
import DeviceSecurity.Proofs.Result
import Mathlib.Tactic.ByContra
import Mathlib.Tactic.SplitIfs

/-!
# What a validation decides

The rules of a policy without their order of evaluation: `Complies` says what a chain must be, and
`FirstFault` which fault a verdict reports, the state reached with it and the error in full. A
configured policy accepts exactly the chains that comply and are trusted, and every rejection names
the first fault (`evaluate_decides`).
-/

namespace DeviceSecurity.PinValidation

/-! ## The rules -/

section Rules

variable (policy : PinPolicy) (offer : ChainOffer)

/-- Pins and domains are both present. -/
def Configured : Prop := policy.pins ≠ [] ∧ policy.domains ≠ []

/-- The port is that of HTTPS, and there are three or four certificates. -/
structure Shaped : Prop where
  port : offer.port = 443
  length : offer.chain.length = 3 ∨ offer.chain.length = 4

/-- The certificate at a place of the chain. -/
def ReadsAt (i : Nat) (c : CertificateInfo) : Prop :=
  ∃ b, offer.chain[i]? = some b ∧ CertificateInfo.ofBytes? b = some c

/-- The place holds what is no certificate. -/
def UnreadableAt (i : Nat) : Prop :=
  ∃ b, offer.chain[i]? = some b ∧ CertificateInfo.ofBytes? b = none

/-- The leaf, under a common name within the domains. -/
structure LeafNamed (leaf : CertificateInfo) (name : String) : Prop where
  reads : ReadsAt offer 0 leaf
  commonName : leaf.commonName = some name
  allowed : policy.allowsDomain name

/-- One of the digests of a certificate is a pin. -/
def Pinned (pins : List PinDigest) (c : CertificateInfo) : Prop :=
  c.infoDigest ∈ pins ∨ c.keyDigest ∈ pins

/-- A pinned certificate stands at a place of the chain. -/
def PinnedAt (i : Nat) : Prop := ∃ c, ReadsAt offer i c ∧ Pinned policy.pins c

/-- The places strictly between leaf and root. -/
def IsIntermediate (i : Nat) : Prop := 0 < i ∧ i + 1 < offer.chain.length

/-- The leaf has a pin, if there are pins for it, and the host matches its name. -/
structure LeafMatches (leaf : CertificateInfo) (name : String) : Prop where
  pinned : policy.leafPins ≠ [] → Pinned policy.leafPins leaf
  host : HostName.matchesName name offer.host = .ok true

/-- All rules of a policy hold. -/
structure Complies : Prop where
  shaped : Shaped offer
  intermediates : ∀ i, IsIntermediate offer i → PinnedAt policy offer i
  leaf : ∃ leaf name, LeafNamed policy offer leaf name ∧ LeafMatches policy offer leaf name

end Rules

/-! ## The faults -/

section Faults

variable (policy : PinPolicy) (offer : ChainOffer)

/-- What is wrong with port or length. -/
inductive ShapeFault : Error → Prop
  | port (h : offer.port ≠ 443) :
    ShapeFault (.chainRejected s!"port {offer.port} is not {httpsPort}")
  | length (hport : offer.port = 443)
      (h : ¬(offer.chain.length = 3 ∨ offer.chain.length = 4)) :
    ShapeFault (.chainRejected
      s!"chain length {offer.chain.length} outside {minChainLength}..={maxChainLength}")

/-- What is wrong with the leaf's name. -/
inductive DomainFault : Error → Prop
  | unreadable (h : UnreadableAt offer 0) :
    DomainFault (.invalidCertificate CertificateInfo.unreadable)
  | unnamed {leaf : CertificateInfo} (hleaf : ReadsAt offer 0 leaf) (h : leaf.commonName = none) :
    DomainFault (.domainMismatch "leaf certificate has no common name")
  | outside {leaf : CertificateInfo} {name : String} (hleaf : ReadsAt offer 0 leaf)
      (hname : leaf.commonName = some name) (h : ¬policy.allowsDomain name) :
    DomainFault (.domainMismatch (name ++ " is not within " ++ Text.quoteList policy.domains))

/-- What is wrong at one place between leaf and root. -/
inductive IntermediateFault (i : Nat) : Error → Prop
  | unreadable (h : UnreadableAt offer i) :
    IntermediateFault i (.invalidCertificate CertificateInfo.unreadable)
  | unpinned {c : CertificateInfo} (hc : ReadsAt offer i c) (h : ¬Pinned policy.pins c) :
    IntermediateFault i (.pinMismatch
      ("intermediate " ++ toString i ++ " (" ++ c.commonName.getD "unnamed" ++ ") is not pinned"))

/-- What is wrong with the leaf's pins, its name or the host. -/
inductive LeafFault (leaf : CertificateInfo) (name : String) : Error → Prop
  | unpinned (hpins : policy.leafPins ≠ []) (h : ¬Pinned policy.leafPins leaf) :
    LeafFault leaf name (.pinMismatch ("leaf " ++ name ++ " is not pinned"))
  | pattern (hpinned : policy.leafPins ≠ [] → Pinned policy.leafPins leaf)
      (h : ¬HostName.canBuild name.toList) : LeafFault leaf name HostName.tooLarge
  | host (hpinned : policy.leafPins ≠ [] → Pinned policy.leafPins leaf)
      (h : HostName.matchesName name offer.host = .ok false) :
    LeafFault leaf name (.hostMismatch (offer.host ++ " does not match certificate " ++ name))

/-- The first rule that does not hold: the state in which it is met, and its error. The rules
before it hold. -/
inductive PolicyFault : ValidationState → Error → Prop
  | shape {e : Error} (h : ShapeFault offer e) : PolicyFault .received e
  | domain {e : Error} (hshape : Shaped offer) (h : DomainFault policy offer e) :
    PolicyFault .chainLengthChecked e
  | intermediate {e : Error} {leaf : CertificateInfo} {name : String} {i : Nat}
      (hshape : Shaped offer) (hleaf : LeafNamed policy offer leaf name)
      (hi : IsIntermediate offer i) (hfirst : ∀ j, 0 < j → j < i → PinnedAt policy offer j)
      (h : IntermediateFault policy offer i e) :
    PolicyFault .domainChecked e
  | leaf {e : Error} {leaf : CertificateInfo} {name : String} (hshape : Shaped offer)
      (hleaf : LeafNamed policy offer leaf name)
      (hintermediates : ∀ i, IsIntermediate offer i → PinnedAt policy offer i)
      (h : LeafFault policy offer leaf name e) :
    PolicyFault .intermediatesMatched e

/-- The first fault of all: one of the policy or, where that has none or does not apply, the answer
of the evaluator. -/
inductive FirstFault (trusted : TrustEvaluator) : ValidationState → Error → Prop
  | policy {state : ValidationState} {e : Error} (hpolicy : Configured policy)
      (h : PolicyFault policy offer state e) : FirstFault trusted state e
  | untrusted {e : Error} (hpolicy : Configured policy) (hcomplies : Complies policy offer)
      (h : trusted offer = .error e) : FirstFault trusted .leafMatched e
  | plain {e : Error} (hpolicy : ¬Configured policy) (h : trusted offer = .error e) :
    FirstFault trusted .received e

end Faults

variable {policy : PinPolicy} {offer : ChainOffer} {trusted : TrustEvaluator}
  {leaf : CertificateInfo} {name : String} {state : ValidationState} {e : Error}

theorem isConfigured_iff : policy.isConfigured = true ↔ Configured policy := by
  simp [PinPolicy.isConfigured, Configured]

theorem matchesAny_iff {c : CertificateInfo} {pins : List PinDigest} :
    c.matchesAny pins = true ↔ Pinned pins c := by
  simp [CertificateInfo.matchesAny, Pinned]

theorem during_eq_ok {α : Type} {rule : Except Error α} {a : α} :
    during state rule = .ok a ↔ rule = .ok a := by
  cases rule with
  | ok b => simp [during]
  | error e => simp [during]

theorem during_eq_error {α : Type} {s : ValidationState} {rule : Except Error α} :
    during s rule = .error (state, e) ↔ state = s ∧ rule = .error e := by
  cases rule with
  | ok a => simp [during]
  | error e' => simp [during, eq_comm]

section Reading

variable {i : Nat} {b : Bytes} {c : CertificateInfo} (hb : offer.chain[i]? = some b)

include hb

theorem readsAt_iff : ReadsAt offer i c ↔ CertificateInfo.ofBytes b = .ok c := by
  have hread : CertificateInfo.ofBytes b = .ok c ↔ CertificateInfo.ofBytes? b = some c := by
    unfold CertificateInfo.ofBytes
    cases CertificateInfo.ofBytes? b <;> simp
  rw [hread, ReadsAt, hb]
  simp

theorem ofBytes_eq_error : CertificateInfo.ofBytes b = .error e ↔
    UnreadableAt offer i ∧ e = .invalidCertificate CertificateInfo.unreadable := by
  have hread : UnreadableAt offer i ↔ CertificateInfo.ofBytes? b = none := by
    rw [UnreadableAt, hb]
    simp
  rw [hread]
  unfold CertificateInfo.ofBytes
  cases CertificateInfo.ofBytes? b <;> simp [eq_comm]

end Reading

/-! ## Each rule -/

theorem checkShape_eq : checkShape offer =
    if offer.port = 443 then
      if offer.chain.length = 3 ∨ offer.chain.length = 4 then .ok ()
      else .error (.chainRejected
        s!"chain length {offer.chain.length} outside {minChainLength}..={maxChainLength}")
    else .error (.chainRejected s!"port {offer.port} is not {httpsPort}") := by
  have hlength : (offer.chain.length < minChainLength ∨ maxChainLength < offer.chain.length) ↔
      ¬(offer.chain.length = 3 ∨ offer.chain.length = 4) := by
    unfold minChainLength maxChainLength
    omega
  have hport : offer.port ≠ httpsPort ↔ ¬offer.port = 443 := Iff.rfl
  unfold checkShape
  simp only [hlength, hport]
  split_ifs <;> rfl

theorem checkShape_eq_ok : checkShape offer = .ok () ↔ Shaped offer := by
  rw [checkShape_eq]
  split_ifs with hport hlength
  · exact ⟨fun _ => ⟨hport, hlength⟩, fun _ => rfl⟩
  · exact ⟨nofun, fun h => (hlength h.length).elim⟩
  · exact ⟨nofun, fun h => (hport h.port).elim⟩

theorem checkShape_eq_error : checkShape offer = .error e ↔ ShapeFault offer e := by
  rw [checkShape_eq]
  split_ifs with hport hlength
  · constructor
    · rintro ⟨⟩
    · rintro (h | ⟨-, h⟩)
      · exact (h hport).elim
      · exact (h hlength).elim
  · constructor
    · rintro ⟨⟩
      exact .length hport hlength
    · rintro (h | -)
      · exact (h hport).elim
      · rfl
  · constructor
    · rintro ⟨⟩
      exact .port hport
    · rintro (- | ⟨h, -⟩)
      · rfl
      · exact (hport h).elim

theorem getElem?_zero (hshape : Shaped offer) :
    offer.chain[0]? = some (offer.chain.headD []) := by
  have hlength := hshape.length
  cases hchain : offer.chain with
  | nil => simp [hchain] at hlength
  | cons b rest => rfl

theorem checkDomain_eq_ok (hshape : Shaped offer) :
    checkDomain policy (offer.chain.headD []) = .ok (leaf, name) ↔
      LeafNamed policy offer leaf name := by
  have hhead := getElem?_zero hshape
  constructor
  · intro h
    obtain ⟨c, hc, h⟩ := bind_eq_ok.mp h
    cases hname : c.commonName with
    | none => simp [hname] at h
    | some n =>
      by_cases hallowed : policy.allowsDomain n
      · obtain ⟨rfl, rfl⟩ : c = leaf ∧ n = name := by simpa [hname, hallowed] using h
        exact ⟨(readsAt_iff hhead).mpr hc, hname, hallowed⟩
      · simp [hname, hallowed] at h
  · rintro ⟨hreads, hname, hallowed⟩
    unfold checkDomain
    rw [(readsAt_iff hhead).mp hreads]
    simp [hname, hallowed]

theorem checkDomain_eq_error (hshape : Shaped offer) :
    checkDomain policy (offer.chain.headD []) = .error e ↔ DomainFault policy offer e := by
  have hhead := getElem?_zero hshape
  constructor
  · intro h
    rcases bind_eq_error.mp h with h | ⟨c, hc, h⟩
    · obtain ⟨hread, rfl⟩ := (ofBytes_eq_error hhead).mp h
      exact .unreadable hread
    · have hreads := (readsAt_iff hhead).mpr hc
      cases hname : c.commonName with
      | none =>
        obtain rfl : _ = e := by simpa [hname] using h
        exact .unnamed hreads hname
      | some n =>
        by_cases hallowed : policy.allowsDomain n
        · simp [hname, hallowed] at h
        · obtain rfl : _ = e := by simpa [hname, hallowed] using h
          exact .outside hreads hname hallowed
  · rintro (hread | ⟨hreads, hname⟩ | ⟨hreads, hname, hallowed⟩) <;> unfold checkDomain
    · rw [(ofBytes_eq_error hhead).mpr ⟨hread, rfl⟩]
      rfl
    · rw [(readsAt_iff hhead).mp hreads]
      simp [hname]
    · rw [(readsAt_iff hhead).mp hreads]
      simp [hname, hallowed]

section Intermediate

variable {i : Nat} {b : Bytes} (hb : offer.chain[i]? = some b)

include hb

theorem checkIntermediate_eq_ok :
    checkIntermediate policy i b = .ok () ↔ PinnedAt policy offer i := by
  constructor
  · intro h
    obtain ⟨c, hc, h⟩ := bind_eq_ok.mp h
    refine ⟨c, (readsAt_iff hb).mpr hc, matchesAny_iff.mp ?_⟩
    cases hpins : c.matchesAny policy.pins with
    | true => rfl
    | false => simp [hpins] at h
  · rintro ⟨c, hreads, hpinned⟩
    unfold checkIntermediate
    rw [(readsAt_iff hb).mp hreads]
    simp [matchesAny_iff.mpr hpinned]

theorem checkIntermediate_eq_error :
    checkIntermediate policy i b = .error e ↔ IntermediateFault policy offer i e := by
  constructor
  · intro h
    rcases bind_eq_error.mp h with h | ⟨c, hc, h⟩
    · obtain ⟨hread, rfl⟩ := (ofBytes_eq_error hb).mp h
      exact .unreadable hread
    · cases hpins : c.matchesAny policy.pins with
      | true => simp [hpins] at h
      | false =>
        obtain rfl : _ = e := by simpa [hpins] using h
        exact .unpinned ((readsAt_iff hb).mpr hc) (by simp [← matchesAny_iff, hpins])
  · rintro (hread | ⟨hreads, hpinned⟩) <;> unfold checkIntermediate
    · rw [(ofBytes_eq_error hb).mpr ⟨hread, rfl⟩]
      rfl
    · rw [← matchesAny_iff, Bool.not_eq_true] at hpinned
      rw [(readsAt_iff hb).mp hreads]
      simp [hpinned]

end Intermediate

theorem tail_at {place : Nat} {b : Bytes} {rest : List Bytes}
    (h : ∀ k c, (b :: rest)[k]? = some c → offer.chain[place + k]? = some c) :
    ∀ k c, rest[k]? = some c → offer.chain[place + 1 + k]? = some c := by
  intro k c hc
  rw [Nat.add_assoc, Nat.add_comm 1 k]
  exact h (k + 1) c hc

section Intermediates

variable {place : Nat} {l : List Bytes}
  (hl : ∀ k b, l[k]? = some b → offer.chain[place + k]? = some b)

include hl

theorem checkIntermediates_eq_ok : checkIntermediates policy place l = .ok () ↔
    ∀ k < l.length, PinnedAt policy offer (place + k) := by
  induction l generalizing place with
  | nil => simp [checkIntermediates]
  | cons b rest ih =>
    have hrest := tail_at hl
    rw [checkIntermediates, bind_eq_ok, List.length_cons, Nat.forall_lt_succ_left]
    constructor
    · rintro ⟨_, hfirst, hlater⟩
      refine ⟨(checkIntermediate_eq_ok (hl 0 b rfl)).mp hfirst, fun k hk => ?_⟩
      have := (ih hrest).mp hlater k hk
      rwa [Nat.add_assoc, Nat.add_comm 1 k] at this
    · rintro ⟨hfirst, hlater⟩
      refine ⟨(), (checkIntermediate_eq_ok (hl 0 b rfl)).mpr hfirst, ?_⟩
      refine (ih hrest).mpr fun k hk => ?_
      rw [Nat.add_assoc, Nat.add_comm 1 k]
      exact hlater k hk

/-- The place that is reported is the first that has a fault. -/
theorem checkIntermediates_eq_error : checkIntermediates policy place l = .error e ↔
    ∃ k < l.length, (∀ j < k, PinnedAt policy offer (place + j)) ∧
      IntermediateFault policy offer (place + k) e := by
  induction l generalizing place with
  | nil => simp [checkIntermediates]
  | cons b rest ih =>
    have hrest := tail_at hl
    rw [checkIntermediates, bind_eq_error]
    constructor
    · rintro (hfirst | ⟨_, hfirst, hlater⟩)
      · exact ⟨0, Nat.succ_pos _, nofun, (checkIntermediate_eq_error (hl 0 b rfl)).mp hfirst⟩
      · obtain ⟨k, hk, hbefore, hfault⟩ := (ih hrest).mp hlater
        rw [Nat.add_assoc, Nat.add_comm 1 k] at hfault
        refine ⟨k + 1, Nat.succ_lt_succ hk, ?_, hfault⟩
        rw [Nat.forall_lt_succ_left]
        refine ⟨(checkIntermediate_eq_ok (hl 0 b rfl)).mp hfirst, fun j hj => ?_⟩
        rw [Nat.add_comm j 1, ← Nat.add_assoc]
        exact hbefore j hj
    · rintro ⟨k, hk, hbefore, hfault⟩
      cases k with
      | zero => exact .inl ((checkIntermediate_eq_error (hl 0 b rfl)).mpr hfault)
      | succ k =>
        rw [Nat.forall_lt_succ_left] at hbefore
        refine .inr ⟨(), (checkIntermediate_eq_ok (hl 0 b rfl)).mpr hbefore.1, ?_⟩
        refine (ih hrest).mpr ⟨k, Nat.lt_of_succ_lt_succ hk, fun j hj => ?_, ?_⟩
        · rw [Nat.add_assoc, Nat.add_comm 1 j]
          exact hbefore.2 j hj
        · rwa [Nat.add_assoc, Nat.add_comm 1 k]

end Intermediates

/-- The places strictly between the ends of a chain are those of its middle part. -/
theorem getElem?_middle {k : Nat} {b : Bytes} (h : (offer.chain.drop 1).dropLast[k]? = some b) :
    offer.chain[1 + k]? = some b := by
  rw [List.getElem?_dropLast] at h
  split at h
  · rwa [List.getElem?_drop] at h
  · cases h

theorem isIntermediate_iff {i : Nat} :
    IsIntermediate offer i ↔ ∃ k < (offer.chain.drop 1).dropLast.length, i = 1 + k := by
  rw [List.length_dropLast, List.length_drop]
  constructor
  · rintro ⟨hpos, hlt⟩
    exact ⟨i - 1, by omega, by omega⟩
  · rintro ⟨k, hk, rfl⟩
    exact ⟨by omega, by omega⟩

theorem checkMiddle_eq_ok :
    checkIntermediates policy 1 (offer.chain.drop 1).dropLast = .ok () ↔
      ∀ i, IsIntermediate offer i → PinnedAt policy offer i := by
  rw [checkIntermediates_eq_ok fun _ _ => getElem?_middle]
  constructor
  · intro h i hi
    obtain ⟨k, hk, rfl⟩ := isIntermediate_iff.mp hi
    exact h k hk
  · intro h k hk
    exact h (1 + k) (isIntermediate_iff.mpr ⟨k, hk, rfl⟩)

theorem checkMiddle_eq_error :
    checkIntermediates policy 1 (offer.chain.drop 1).dropLast = .error e ↔
      ∃ i, IsIntermediate offer i ∧ (∀ j, 0 < j → j < i → PinnedAt policy offer j) ∧
        IntermediateFault policy offer i e := by
  rw [checkIntermediates_eq_error fun _ _ => getElem?_middle]
  constructor
  · rintro ⟨k, hk, hbefore, hfault⟩
    refine ⟨1 + k, isIntermediate_iff.mpr ⟨k, hk, rfl⟩, fun j hpos hj => ?_, hfault⟩
    have := hbefore (j - 1) (by omega)
    rwa [Nat.add_sub_cancel' hpos] at this
  · rintro ⟨i, hi, hbefore, hfault⟩
    obtain ⟨k, hk, rfl⟩ := isIntermediate_iff.mp hi
    exact ⟨k, hk, fun j hj => hbefore (1 + j) (by omega) (by omega), hfault⟩

theorem leafUnpinned_iff :
    (!policy.leafPins.isEmpty && !leaf.matchesAny policy.leafPins) = true ↔
      policy.leafPins ≠ [] ∧ ¬Pinned policy.leafPins leaf := by
  rw [← matchesAny_iff]
  simp

theorem pinned_of_not_unpinned
    (h : ¬(!policy.leafPins.isEmpty && !leaf.matchesAny policy.leafPins) = true) :
    policy.leafPins ≠ [] → Pinned policy.leafPins leaf := by
  intro hsome
  by_contra hnone
  exact h (leafUnpinned_iff.mpr ⟨hsome, hnone⟩)

theorem checkLeaf_eq : checkLeaf policy leaf name offer.host =
    if !policy.leafPins.isEmpty && !leaf.matchesAny policy.leafPins then
      .error (.pinMismatch ("leaf " ++ name ++ " is not pinned"))
    else match HostName.matchesName name offer.host with
      | .ok true => .ok ()
      | .ok false =>
        .error (.hostMismatch (offer.host ++ " does not match certificate " ++ name))
      | .error fault => .error fault := by
  unfold checkLeaf
  cases !policy.leafPins.isEmpty && !leaf.matchesAny policy.leafPins <;>
    rcases HostName.matchesName name offer.host with fault | _ | _ <;> rfl

theorem checkLeaf_eq_ok :
    checkLeaf policy leaf name offer.host = .ok () ↔ LeafMatches policy offer leaf name := by
  rw [checkLeaf_eq]
  split_ifs with hpins
  · obtain ⟨hsome, hnone⟩ := leafUnpinned_iff.mp hpins
    exact ⟨nofun, fun h => (hnone (h.pinned hsome)).elim⟩
  · have hpinned := pinned_of_not_unpinned hpins
    rcases hhost : HostName.matchesName name offer.host with fault | _ | _
    · exact ⟨nofun, fun h => by cases hhost.symm.trans h.host⟩
    · exact ⟨nofun, fun h => by cases hhost.symm.trans h.host⟩
    · exact ⟨fun _ => ⟨hpinned, hhost⟩, fun _ => rfl⟩

theorem checkLeaf_eq_error :
    checkLeaf policy leaf name offer.host = .error e ↔ LeafFault policy offer leaf name e := by
  rw [checkLeaf_eq]
  split_ifs with hpins
  · obtain ⟨hsome, hnone⟩ := leafUnpinned_iff.mp hpins
    constructor
    · rintro ⟨⟩
      exact .unpinned hsome hnone
    · rintro (- | ⟨hpinned, -⟩ | ⟨hpinned, -⟩)
      · rfl
      · exact (hnone (hpinned hsome)).elim
      · exact (hnone (hpinned hsome)).elim
  · have hpinned := pinned_of_not_unpinned hpins
    constructor
    · intro h
      rcases hhost : HostName.matchesName name offer.host with fault | _ | _ <;> rw [hhost] at h
      · obtain ⟨hbuild, rfl⟩ := HostName.matchesName_eq_error.mp hhost
        cases h
        exact .pattern hpinned hbuild
      · cases h
        exact .host hpinned hhost
      · cases h
    · rintro (⟨hsome, hnone⟩ | ⟨-, hbuild⟩ | ⟨-, hhost⟩)
      · exact (hnone (hpinned hsome)).elim
      · rw [HostName.matchesName_eq_error.mpr ⟨hbuild, rfl⟩]
      · rw [hhost]

/-! ## All rules -/

theorem checkPinned_eq_ok : checkPinned policy offer = .ok () ↔ Complies policy offer := by
  unfold checkPinned
  constructor
  · intro h
    obtain ⟨_, hshape, h⟩ := bind_eq_ok.mp h
    obtain ⟨⟨leaf, name⟩, hleaf, h⟩ := bind_eq_ok.mp h
    obtain ⟨_, hmiddle, h⟩ := bind_eq_ok.mp h
    have hshape := checkShape_eq_ok.mp (during_eq_ok.mp hshape)
    have hleaf := (checkDomain_eq_ok hshape).mp (during_eq_ok.mp hleaf)
    have hmiddle := checkMiddle_eq_ok.mp (during_eq_ok.mp hmiddle)
    exact ⟨hshape, hmiddle, leaf, name, hleaf, checkLeaf_eq_ok.mp (during_eq_ok.mp h)⟩
  · rintro ⟨hshape, hmiddle, leaf, name, hleaf, hmatches⟩
    rw [checkShape_eq_ok.mpr hshape, (checkDomain_eq_ok hshape).mpr hleaf,
      checkMiddle_eq_ok.mpr hmiddle]
    exact during_eq_ok.mpr (checkLeaf_eq_ok.mpr hmatches)

theorem checkPinned_eq_error :
    checkPinned policy offer = .error (state, e) ↔ PolicyFault policy offer state e := by
  unfold checkPinned
  constructor
  · intro h
    rcases bind_eq_error.mp h with h | ⟨_, hshape, h⟩
    · obtain ⟨rfl, hfault⟩ := during_eq_error.mp h
      exact .shape (checkShape_eq_error.mp hfault)
    have hshape := checkShape_eq_ok.mp (during_eq_ok.mp hshape)
    rcases bind_eq_error.mp h with h | ⟨⟨leaf, name⟩, hleaf, h⟩
    · obtain ⟨rfl, hfault⟩ := during_eq_error.mp h
      exact .domain hshape ((checkDomain_eq_error hshape).mp hfault)
    have hleaf := (checkDomain_eq_ok hshape).mp (during_eq_ok.mp hleaf)
    rcases bind_eq_error.mp h with h | ⟨_, hmiddle, h⟩
    · obtain ⟨rfl, hfault⟩ := during_eq_error.mp h
      obtain ⟨i, hi, hfirst, hbroken⟩ := checkMiddle_eq_error.mp hfault
      exact .intermediate hshape hleaf hi hfirst hbroken
    have hmiddle := checkMiddle_eq_ok.mp (during_eq_ok.mp hmiddle)
    obtain ⟨rfl, hfault⟩ := during_eq_error.mp h
    exact .leaf hshape hleaf hmiddle (checkLeaf_eq_error.mp hfault)
  · intro h
    cases h with
    | shape h =>
      rw [checkShape_eq_error.mpr h]
      rfl
    | domain hshape h =>
      rw [checkShape_eq_ok.mpr hshape, (checkDomain_eq_error hshape).mpr h]
      rfl
    | intermediate hshape hleaf hi hfirst h =>
      rw [checkShape_eq_ok.mpr hshape, (checkDomain_eq_ok hshape).mpr hleaf,
        checkMiddle_eq_error.mpr ⟨_, hi, hfirst, h⟩]
      rfl
    | leaf hshape hleaf hmiddle h =>
      rw [checkShape_eq_ok.mpr hshape, (checkDomain_eq_ok hshape).mpr hleaf,
        checkMiddle_eq_ok.mpr hmiddle]
      exact during_eq_error.mpr ⟨rfl, checkLeaf_eq_error.mpr h⟩

/-! ## The verdict -/

/-- The state in which the evaluator is asked is known from the policy. -/
theorem stateBeforeTrust_eq_ok : stateBeforeTrust policy offer = .ok state ↔
    Configured policy ∧ Complies policy offer ∧ state = .leafMatched ∨
      ¬Configured policy ∧ state = .received := by
  unfold stateBeforeTrust
  rw [← isConfigured_iff]
  split_ifs with hpolicy
  · rw [← checkPinned_eq_ok]
    cases checkPinned policy offer <;> simp [hpolicy, eq_comm]
  · simp [hpolicy, eq_comm]

theorem stateBeforeTrust_eq_error : stateBeforeTrust policy offer = .error (state, e) ↔
    Configured policy ∧ PolicyFault policy offer state e := by
  unfold stateBeforeTrust
  rw [← isConfigured_iff, ← checkPinned_eq_error]
  split_ifs with hpolicy
  · cases checkPinned policy offer <;> simp [hpolicy]
  · simp [hpolicy]

theorem evaluate_eq_accepted : evaluate trusted policy offer = .accepted ↔
    (Configured policy → Complies policy offer) ∧ trusted offer = .ok () := by
  unfold evaluate
  cases hstate : stateBeforeTrust policy offer with
  | error fault =>
    obtain ⟨hpolicy, hfault⟩ := stateBeforeTrust_eq_error.mp hstate
    refine ⟨nofun, fun h => ?_⟩
    have := stateBeforeTrust_eq_ok.mpr (.inl ⟨hpolicy, h.1 hpolicy, rfl⟩)
    rw [hstate] at this
    cases this
  | ok state =>
    have hcomplies : Configured policy → Complies policy offer := by
      intro hpolicy
      rcases stateBeforeTrust_eq_ok.mp hstate with ⟨-, h, -⟩ | ⟨h, -⟩
      · exact h
      · exact (h hpolicy).elim
    cases htrusted : trusted offer with
    | ok _ => exact ⟨fun _ => ⟨hcomplies, rfl⟩, fun _ => rfl⟩
    | error e => exact ⟨nofun, fun h => by cases h.2⟩

theorem evaluate_eq_rejected : evaluate trusted policy offer = .rejected state e ↔
    FirstFault policy offer trusted state e := by
  unfold evaluate
  constructor
  · intro h
    cases hstate : stateBeforeTrust policy offer with
    | error fault =>
      rw [hstate] at h
      obtain ⟨s, e'⟩ := fault
      obtain ⟨rfl, rfl⟩ : s = state ∧ e' = e := by simpa using h
      obtain ⟨hpolicy, hfault⟩ := stateBeforeTrust_eq_error.mp hstate
      exact .policy hpolicy hfault
    | ok s =>
      rw [hstate] at h
      cases htrusted : trusted offer with
      | ok _ => simp [htrusted] at h
      | error e' =>
        obtain ⟨rfl, rfl⟩ : s = state ∧ e' = e := by simpa [htrusted] using h
        rcases stateBeforeTrust_eq_ok.mp hstate with ⟨hpolicy, hrules, rfl⟩ | ⟨hpolicy, rfl⟩
        · exact .untrusted hpolicy hrules htrusted
        · exact .plain hpolicy htrusted
  · intro h
    cases h with
    | policy hpolicy hfault => rw [stateBeforeTrust_eq_error.mpr ⟨hpolicy, hfault⟩]
    | untrusted hpolicy hcomplies htrusted =>
      rw [stateBeforeTrust_eq_ok.mpr (.inl ⟨hpolicy, hcomplies, rfl⟩), htrusted]
    | plain hpolicy htrusted =>
      rw [stateBeforeTrust_eq_ok.mpr (.inr ⟨hpolicy, rfl⟩), htrusted]

/-- A chain is accepted exactly when it complies with the policy, if that is configured, and is
trusted; otherwise it is rejected for the first fault, in the state in which that was met. -/
theorem evaluate_decides (trusted : TrustEvaluator) (policy : PinPolicy) (offer : ChainOffer) :
    (evaluate trusted policy offer = .accepted ↔
      (Configured policy → Complies policy offer) ∧ trusted offer = .ok ()) ∧
    ∀ state e, evaluate trusted policy offer = .rejected state e ↔
      FirstFault policy offer trusted state e :=
  ⟨evaluate_eq_accepted, fun _ _ => evaluate_eq_rejected⟩

end DeviceSecurity.PinValidation
