import DeviceSecurity.Pin.Verifier
import DeviceSecurity.Proofs.Pin.HostDomain

/-!
# Completing a chain

A chain is completed with at most one certificate behind those that were sent: the first root of the
catalog that has the name of the last one's issuer, unless its bytes are those of the last one
(`PinVerifier.completeChain_appends`). The name decides, and of the roots with one name only the
first is looked at. So a chain that ends in a root of the catalog which issued itself is left as it
is exactly if that root is the first of its name. If another one comes first it is lengthened, and
the root that was sent must then be pinned as an intermediate.
-/

namespace DeviceSecurity

theorem CertificateInfo.encoded_of_ofBytes? {b : Bytes} {c : CertificateInfo}
    (h : CertificateInfo.ofBytes? b = some c) : c.encoded = b := by
  simp only [CertificateInfo.ofBytes?, Option.bind_eq_bind, Option.bind_eq_some_iff,
    Option.pure_def, Option.some.injEq] at h
  obtain ⟨_, _, _, _, _, _, _, _, _, _, rfl⟩ := h
  rfl

namespace Handshake

/-- The certificates as they were sent, leaf first. -/
def sent (h : Handshake) : List Bytes := h.leaf :: h.rest

/-- The last certificate that was sent. -/
def last (h : Handshake) : Bytes := h.sent.getLast (List.cons_ne_nil h.leaf h.rest)

theorem getD_getLast?_rest (h : Handshake) : h.rest.getLast?.getD h.leaf = h.last := by
  rw [← Option.some.injEq, ← List.getLast?_cons]
  exact List.getLast?_eq_some_getLast (List.cons_ne_nil h.leaf h.rest)

end Handshake

namespace TrustStore

variable {store : TrustStore} {roots : List Bytes} {name : Bytes} {root : CertificateInfo}

/-- The root has the name, and no root before it has. -/
structure FirstNamed (catalog : List CertificateInfo) (name : Bytes) (root : CertificateInfo) :
    Prop where
  subject_eq : root.subject = name
  exists_cut : ∃ before after, catalog = before ++ root :: after ∧
    ∀ other ∈ before, other.subject ≠ name

section Catalog

variable {catalog : List CertificateInfo}

theorem find?_eq_some_iff :
    catalog.find? (fun root => root.subject == name) = some root ↔ FirstNamed catalog name root := by
  simp only [List.find?_eq_some_iff_append, beq_iff_eq, Bool.not_eq_true', beq_eq_false_iff_ne]
  exact ⟨fun ⟨hname, hcut⟩ => ⟨hname, hcut⟩, fun ⟨hname, hcut⟩ => ⟨hname, hcut⟩⟩

theorem FirstNamed.mem (h : FirstNamed catalog name root) : root ∈ catalog := by
  obtain ⟨before, after, rfl, -⟩ := h.exists_cut
  exact List.mem_append_right before List.mem_cons_self

theorem FirstNamed.unique {other : CertificateInfo} (h : FirstNamed catalog name root)
    (hother : FirstNamed catalog name other) : root = other := by
  rw [← Option.some.injEq, ← find?_eq_some_iff.mpr h, find?_eq_some_iff.mpr hother]

theorem exists_firstNamed (hroot : root ∈ catalog) (hname : root.subject = name) :
    ∃ first, FirstNamed catalog name first := by
  simp only [← find?_eq_some_iff]
  rw [← Option.isSome_iff_exists, List.find?_isSome]
  exact ⟨root, hroot, beq_iff_eq.mpr hname⟩

end Catalog

/-- The issuer of a certificate is looked for by its name alone. -/
theorem findIssuer_eq_some {certificate : Bytes} : store.findIssuer certificate = some root ↔
    ∃ c, CertificateInfo.ofBytes? certificate = some c ∧
      FirstNamed store.catalog c.issuer root := by
  simp only [findIssuer, Option.bind_eq_bind, Option.bind_eq_some_iff, find?_eq_some_iff]

/-- What is kept of root certificates. -/
def holding (roots : List Bytes) : TrustStore where
  anchors := roots.filterMap fun root => (Trust.Anchor.ofBytes root).toOption
  catalog := roots.filterMap CertificateInfo.ofBytes?

theorem ofRoots_eq_ok :
    ofRoots roots = .ok store ↔ (holding roots).anchors ≠ [] ∧ store = holding roots := by
  unfold ofRoots
  dsimp only
  rw [← holding.eq_1]
  split_ifs with hempty
  · exact ⟨nofun, fun h => (h.1 (List.isEmpty_iff.mp hempty)).elim⟩
  · rw [Except.ok.injEq, eq_comm]
    exact (and_iff_right fun h => hempty (List.isEmpty_iff.mpr h)).symm

/-- What stands in the catalog was read from the roots. -/
theorem mem_catalog (h : ofRoots roots = .ok store) (hroot : root ∈ store.catalog) :
    root.encoded ∈ roots ∧ CertificateInfo.ofBytes? root.encoded = some root := by
  obtain ⟨-, rfl⟩ := ofRoots_eq_ok.mp h
  obtain ⟨b, hb, hread⟩ := List.mem_filterMap.mp hroot
  obtain rfl := CertificateInfo.encoded_of_ofBytes? hread
  exact ⟨hb, hread⟩

end TrustStore

namespace PinVerifier

open TrustStore

variable {store : TrustStore} {roots : List Bytes} {h : Handshake} {root : CertificateInfo}
  {host : String} {port : Nat}

/-- The last certificate is followed by a root that has its issuer's name and other bytes. -/
structure Appends (store : TrustStore) (h : Handshake) (last root : CertificateInfo) : Prop where
  reads : CertificateInfo.ofBytes? h.last = some last
  first : FirstNamed store.catalog last.issuer root
  ne_last : root.encoded ≠ h.last

theorem completeChain_eq (store : TrustStore) (h : Handshake) :
    completeChain store h = match store.findIssuer h.last with
      | some root => if root.encoded ≠ h.last then h.sent ++ [root.encoded] else h.sent
      | none => h.sent := by
  rw [← h.getD_getLast?_rest]
  rfl

theorem completeChain_of_findIssuer (hroot : store.findIssuer h.last = some root) :
    completeChain store h =
      if root.encoded ≠ h.last then h.sent ++ [root.encoded] else h.sent := by
  rw [completeChain_eq, hroot]

theorem completeChain_cases (store : TrustStore) (h : Handshake) :
    completeChain store h = h.sent ∨
      ∃ last root, Appends store h last root ∧
        completeChain store h = h.sent ++ [root.encoded] := by
  cases hroot : store.findIssuer h.last with
  | none =>
    left
    rw [completeChain_eq, hroot]
  | some root =>
    obtain ⟨last, hread, hfirst⟩ := findIssuer_eq_some.mp hroot
    rw [completeChain_of_findIssuer hroot]
    split_ifs with hne
    · exact .inr ⟨last, root, ⟨hread, hfirst, hne⟩, rfl⟩
    · exact .inl rfl

/-- Nothing is appended exactly if the root that is found is the last certificate. -/
theorem completeChain_eq_sent (hroot : store.findIssuer h.last = some root) :
    completeChain store h = h.sent ↔ root.encoded = h.last := by
  rw [completeChain_of_findIssuer hroot, ite_eq_right_iff, List.append_right_eq_self]
  simp only [ne_eq, List.cons_ne_nil, imp_false, Decidable.not_not]

/-- Behind a root of the catalog that issued itself nothing is appended exactly if it is the first
of its name. -/
theorem completeChain_eq_sent_iff (hstore : TrustStore.ofRoots roots = .ok store)
    (hroot : root ∈ store.catalog) (hlast : root.encoded = h.last)
    (hself : root.isSelfIssued = true) :
    completeChain store h = h.sent ↔ FirstNamed store.catalog root.subject root := by
  have hname : root.subject = root.issuer := beq_iff_eq.mp hself
  have hread : CertificateInfo.ofBytes? h.last = some root :=
    hlast ▸ (mem_catalog hstore hroot).2
  obtain ⟨first, hfirst⟩ := exists_firstNamed hroot hname
  rw [completeChain_eq_sent (findIssuer_eq_some.mpr ⟨root, hread, hfirst⟩), hname]
  constructor
  · intro hsame
    -- both are read from the same bytes
    have hfirstread := (mem_catalog hstore hfirst.mem).2
    rw [hsame, hread] at hfirstread
    obtain rfl := Option.some.inj hfirstread
    exact hfirst
  · intro hrootfirst
    rw [hfirst.unique hrootfirst, hlast]

/-- What was sent last is an intermediate of the completed chain exactly if the chain has become
longer, and it is no leaf. -/
theorem isIntermediate_last_iff (store : TrustStore) (h : Handshake) :
    PinValidation.IsIntermediate ⟨host, port, completeChain store h⟩ h.rest.length ↔
      h.rest ≠ [] ∧ completeChain store h ≠ h.sent := by
  rw [PinValidation.IsIntermediate, List.length_pos_iff]
  refine and_congr_right fun _ => ?_
  rcases completeChain_cases store h with hchain | ⟨_, root, -, hchain⟩
  · simp [hchain, Handshake.sent]
  · simp [hchain, Handshake.sent]

/-- A chain is completed as it was sent, or with the first root of the catalog that has its last
issuer's name. If it ends in a root of the catalog that issued itself, it is left as it is exactly
if that root is the first of its name; if it is not, and no leaf, it is an intermediate of the
completed chain. -/
theorem completeChain_appends (hstore : TrustStore.ofRoots roots = .ok store) (h : Handshake) :
    (completeChain store h = h.sent ∨
      ∃ last root, Appends store h last root ∧ root ∈ store.catalog ∧ root.encoded ∈ roots ∧
        completeChain store h = h.sent ++ [root.encoded]) ∧
    ∀ root ∈ store.catalog, root.encoded = h.last → root.isSelfIssued = true →
      (completeChain store h = h.sent ↔ FirstNamed store.catalog root.subject root) ∧
      ∀ host port,
        PinValidation.IsIntermediate ⟨host, port, completeChain store h⟩ h.rest.length ↔
          h.rest ≠ [] ∧ ¬FirstNamed store.catalog root.subject root := by
  constructor
  · rcases completeChain_cases store h with hsent | ⟨last, root, happends, hchain⟩
    · exact .inl hsent
    · have hroot := happends.first.mem
      exact .inr ⟨last, root, happends, hroot, (mem_catalog hstore hroot).1, hchain⟩
  · intro root hroot hlast hself
    have hkept := completeChain_eq_sent_iff hstore hroot hlast hself
    refine ⟨hkept, fun host port => ?_⟩
    rw [isIntermediate_last_iff, ne_eq (completeChain store h), hkept]

/-- The smallest of root certificates: without a name, with a key of the one byte 2. -/
def rootCertificate (serial : UInt8) : Bytes := [
    0x30, 0x41, 0x30, 0x37, 0x02, 0x01, serial, 0x30, 0x03, 0x06, 0x01, 0x2a, 0x30, 0x00, 0x30,
    0x1e, 0x17, 0x0d, 0x30, 0x30, 0x30, 0x31, 0x30, 0x31, 0x30, 0x30, 0x30, 0x30, 0x30, 0x30, 0x5a,
    0x17, 0x0d, 0x30, 0x30, 0x30, 0x31, 0x30, 0x31, 0x30, 0x30, 0x30, 0x30, 0x30, 0x30, 0x5a, 0x30,
    0x00, 0x30, 0x09, 0x30, 0x03, 0x06, 0x01, 0x2a, 0x03, 0x02, 0x00, 0x02, 0x30, 0x03, 0x06, 0x01,
    0x2a, 0x03, 0x01, 0x00]

/-- Two such roots, which differ in their serial numbers only. -/
def twinRoots : List Bytes := [rootCertificate 1, rootCertificate 2]

/-- A chain for the host `a.b` that ends in the second of the two. -/
def rootHandshake : Handshake :=
  ⟨.dns "a.b", PinValidation.wildcardCertificate,
    [PinValidation.wildcardCertificate, rootCertificate 2]⟩

/-- Where that one comes first, the chain is left as it was sent. -/
theorem completeChain_first_root :
    TrustStore.ofRoots twinRoots.reverse = .ok (.holding twinRoots.reverse) ∧
      ∃ root ∈ (TrustStore.holding twinRoots.reverse).catalog,
        root.encoded = rootHandshake.last ∧ root.isSelfIssued = true ∧
        completeChain (.holding twinRoots.reverse) rootHandshake = rootHandshake.sent := by
  have hstore : TrustStore.ofRoots twinRoots.reverse = .ok (.holding twinRoots.reverse) :=
    ofRoots_eq_ok.mpr ⟨by decide +kernel, rfl⟩
  have hroot : ∃ root ∈ (TrustStore.holding twinRoots.reverse).catalog,
      root.encoded = rootHandshake.last ∧ root.isSelfIssued = true ∧
      (TrustStore.holding twinRoots.reverse).catalog.find?
        (fun other => other.subject == root.subject) = some root := by
    decide +kernel
  obtain ⟨root, hroot, hlast, hself, hfound⟩ := hroot
  refine ⟨hstore, root, hroot, hlast, hself, ?_⟩
  exact ((completeChain_appends hstore rootHandshake).2 root hroot hlast hself).1.mpr
    (find?_eq_some_iff.mp hfound)

/-- Where it comes second, the chain is completed with the first, and the root that was sent is
rejected as an intermediate without a pin. As it was sent, the chain is accepted. -/
theorem completeChain_second_root :
    ∃ root ∈ (TrustStore.holding twinRoots).catalog,
      TrustStore.ofRoots twinRoots = .ok (.holding twinRoots) ∧
      root.encoded = rootHandshake.last ∧ root.isSelfIssued = true ∧
      completeChain (.holding twinRoots) rootHandshake =
        rootHandshake.sent ++ [rootCertificate 1] ∧
      PinValidation.evaluate (fun _ => .ok ()) PinValidation.wildcardPolicy
        ⟨"a.b", 443, rootHandshake.sent⟩ = .accepted ∧
      PinValidation.evaluate (fun _ => .ok ()) PinValidation.wildcardPolicy
        ⟨"a.b", 443, rootHandshake.sent ++ [rootCertificate 1]⟩ =
          .rejected .domainChecked (.pinMismatch "intermediate 2 (unnamed) is not pinned") := by
  have hroot : ∃ root ∈ (TrustStore.holding twinRoots).catalog,
      root.encoded = rootHandshake.last ∧ root.isSelfIssued = true := by
    decide +kernel
  obtain ⟨root, hroot, hlast, hself⟩ := hroot
  refine ⟨root, hroot, ofRoots_eq_ok.mpr ⟨by decide +kernel, rfl⟩, hlast, hself, ?_, ?_, ?_⟩
  all_goals decide +kernel

end PinVerifier

end DeviceSecurity
