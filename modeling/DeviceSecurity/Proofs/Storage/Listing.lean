import DeviceSecurity.Proofs.Cipher.Exact
import DeviceSecurity.Proofs.Storage.Codec
import DeviceSecurity.Proofs.Storage.Refinement

/-!
# What a vault lists and what it finds

Listing opens the stored keys, while lookup and removal seal the key they are given and ask for that
one text. The store may hold anything; of the store itself it is assumed that its operations, when
they succeed, tell the truth about its content (`Backing.Serves`). A key is listed once some stored
key decodes to it (`Vault.mem_keys`), it is found if its sealed form is stored
(`Vault.get_eq_none_iff`), and removing it takes away its sealed form only
(`Vault.content_of_remove`). So a listed key is found, and no longer listed once it is removed, as
far as the stored keys are sealed forms (`Vault.readable_of_listed`). Stored keys that are not, such
as one that was written in the clear, are listed all the same, and stay (`Vault.unsealed_stays`,
`Vault.legacy_stays`).
-/

namespace DeviceSecurity

/-! ## Stores -/

namespace Backing

/-- What the operations of the store answer when they succeed is true of its content, which gives
the value of a key. Reading keeps the content, and removing takes one key away from it. -/
structure Serves {σ : Type} (b : Backing σ) (content : σ → String → Option String) : Prop where
  get : ∀ key s value s', b.get key s = (.ok value, s') →
    value = content s key ∧ content s' = content s
  keys : ∀ s keys s', b.keys s = (.ok keys, s') →
    (∀ key, key ∈ keys ↔ (content s key).isSome) ∧ content s' = content s
  remove : ∀ key s removed s', b.remove key s = (.ok removed, s') →
    ∀ k, content s' k = if k = key then none else content s k

theorem serves_memory : memory.Serves Entries.get? where
  get key s value s' h := by
    cases h
    exact ⟨rfl, rfl⟩
  keys s keys s' h := by
    cases h
    exact ⟨fun key => Vault.mem_keys_iff, rfl⟩
  remove key s removed s' h := by
    cases h
    exact s.get?_erase key

end Backing

/-! ## Sealed forms -/

namespace StorageCodec

variable {c : StorageCodec} {key stored : String}

/-- The sealed form of a key is the stored key that opens to it, has no blanks around it and the
nonce of device-bound messages. -/
theorem encodeKey_eq_ok_iff : c.encodeKey key = .ok stored ↔
    ¬ Text.isTooLong key ∧ Text.trim stored = stored ∧
      ∃ m, SealedMessage.ofBase64 stored = .ok m ∧ m.nonce = deviceBoundNonce ∧
        (c.context false).openBytes m = .ok (Bytes.ofText key) := by
  constructor
  · intro h
    have hseal : (c.context false).sealText key [] = (.ok stored, []) := by
      rw [← h]
      exact c.encryptValue_key key []
    obtain ⟨m, hm, rfl⟩ := SealContext.sealText_eq_ok.mp hseal
    obtain ⟨hnonce, hread, hopen⟩ := SealContext.open_of_sealBytes hm
    rw [SealContext.nonce_deviceBound rfl] at hnonce
    refine ⟨fun hlong => ?_, (SealedMessage.toBase64_of_ofBase64 hread).1.symm, m, hread, ?_, ?_⟩
    · have hfault := c.encodeKey_eq key
      rw [if_pos hlong, h] at hfault
      cases hfault
    · exact (Except.ok.inj (Prod.mk.inj hnonce).1).symm
    · exact hopen _ ⟨rfl, rfl, fun _ => rfl⟩
  · rintro ⟨hshort, htrim, m, hm, hnonce, hopen⟩
    have hseal := SealContext.sealText_of_openText rfl hm hnonce hopen []
    rw [if_neg hshort, htrim] at hseal
    exact congrArg Prod.fst hseal

/-- Under the fallback a stored key that does not open is taken for the key itself. -/
theorem decodeKey_legacy (hpolicy : c.policy = .legacyFallback)
    (hclosed : ∀ plain, (c.context false).openText stored ≠ .ok plain) :
    c.decodeKey stored = .ok stored := by
  unfold decodeKey decryptValue
  cases hopen : (c.context false).openText stored with
  | ok plain => exact absurd hopen (hclosed plain)
  | error fault => rw [hpolicy]

/-- A stored key that does not open is the sealed form of no key. -/
theorem encodeKey_ne_of_closed (hclosed : ∀ plain, (c.context false).openText stored ≠ .ok plain)
    (key : String) : c.encodeKey key ≠ .ok stored := by
  intro h
  obtain ⟨-, -, m, hm, -, hopen⟩ := encodeKey_eq_ok_iff.mp h
  exact hclosed key (SealContext.openText_eq_ok.mpr ⟨m, hm, hopen⟩)

end StorageCodec

/-! ## Requests -/

namespace Vault

open VaultAction

variable {σ : Type} {v : Vault σ} {content : σ → String → Option String} {s s' : VaultState σ}
  {key : String}

/-- A stored key from which the vault lists `key`. -/
def ListsFrom (v : Vault σ) (content : String → Option String) (stored key : String) : Prop :=
  (content stored).isSome ∧ v.codec.decodeKey stored = .ok key

/-- The store holds the sealed form of `key`. -/
def HoldsSealed (v : Vault σ) (content : String → Option String) (key : String) : Prop :=
  ∃ stored, (content stored).isSome ∧ v.codec.encodeKey key = .ok stored

section Serves

variable (h : v.backing.Serves content)

include h

theorem mem_keys {listed : List String} (hlist : v.keys.runOn s = (.ok listed, s')) :
    (∀ key, key ∈ listed ↔ ∃ stored, v.ListsFrom (content s.store) stored key) ∧
      content s'.store = content s.store := by
  obtain ⟨stored, t, hkeys, hopened⟩ := runOn_bind_eq_ok.mp hlist
  obtain ⟨hdecode, rfl⟩ := runOn_ofResult_eq_ok.mp hopened
  obtain ⟨hstored, hkept⟩ := h.keys s.store stored t.store (runOn_onStore_eq_ok hkeys)
  refine ⟨fun key => ?_, hkept⟩
  rw [mem_of_mapM_eq_ok hdecode]
  exact exists_congr fun k => and_congr_left fun _ => hstored k

theorem get_eq_none_iff {answer : Option String} (hget : (v.get key).runOn s = (.ok answer, s')) :
    (answer = none ↔ ¬ v.HoldsSealed (content s.store) key) ∧
      content s'.store = content s.store := by
  obtain ⟨sealedKey, t, hsealed, hget⟩ := runOn_bind_eq_ok.mp hget
  obtain ⟨hkey, rfl⟩ := runOn_ofResult_eq_ok.mp hsealed
  obtain ⟨found, t, hlook, hget⟩ := runOn_bind_eq_ok.mp hget
  obtain ⟨hfound, hkept⟩ := h.get sealedKey _ found t.store (runOn_onStore_eq_ok hlook)
  have hholds : v.HoldsSealed (content s.store) key ↔ (content s.store sealedKey).isSome := by
    constructor
    · rintro ⟨stored, hstored, hsealed⟩
      rw [hkey] at hsealed
      rwa [Except.ok.inj hsealed]
    · exact fun hstored => ⟨sealedKey, hstored, hkey⟩
  rw [hholds, ← hfound]
  cases found with
  | none =>
    obtain ⟨hanswer, rfl⟩ := Prod.mk.inj hget
    obtain rfl := Except.ok.inj hanswer
    exact ⟨by simp, hkept⟩
  | some sealedValue =>
    simp only [runOn_map, runOn_ofResult] at hget
    obtain ⟨hanswer, rfl⟩ := Prod.mk.inj hget
    obtain ⟨value, -, rfl⟩ := map_eq_ok.mp hanswer
    exact ⟨by simp, hkept⟩

theorem content_of_remove (hremove : (v.remove key).runOn s = (.ok (), s')) :
    ∃ sealedKey, v.codec.encodeKey key = .ok sealedKey ∧
      ∀ k, content s'.store k = if k = sealedKey then none else content s.store k := by
  obtain ⟨sealedKey, t, hsealed, hremove⟩ := runOn_bind_eq_ok.mp hremove
  obtain ⟨hkey, rfl⟩ := runOn_ofResult_eq_ok.mp hsealed
  obtain ⟨removed, t, hrun, hdone⟩ := runOn_bind_eq_ok.mp hremove
  obtain ⟨-, rfl⟩ := Prod.mk.inj hdone
  exact ⟨sealedKey, hkey, h.remove sealedKey _ removed _ (runOn_onStore_eq_ok hrun)⟩

/-- What a vault lists after it removed a key. -/
theorem mem_keys_of_remove {later : List String} {t : VaultState σ}
    (hremove : (v.remove key).runOn s = (.ok (), s')) (hlist : v.keys.runOn s' = (.ok later, t)) :
    key ∈ later ↔
      ∃ stored, v.ListsFrom (content s.store) stored key ∧ v.codec.encodeKey key ≠ .ok stored := by
  obtain ⟨sealedKey, hkey, hcontent⟩ := content_of_remove h hremove
  rw [(mem_keys h hlist).1]
  refine exists_congr fun stored => ?_
  unfold ListsFrom
  rw [hcontent stored, hkey]
  by_cases hstored : stored = sealedKey
  · simp [hstored]
  · simp [hstored, Ne.symm hstored]

/-- A vault lists the keys that the stored keys decode to. In any state with the content that was
listed, looking a key up finds nothing exactly if its sealed form is not stored, and once it is
removed the key is still listed exactly if another stored key decodes to it. So a key that is listed
from its sealed form only is found, and no longer listed once it is removed. Listing and looking up
keep the content. -/
theorem readable_of_listed {listed : List String} (hlist : v.keys.runOn s = (.ok listed, s')) :
    content s'.store = content s.store ∧
    (∀ key, key ∈ listed ↔ ∃ stored, v.ListsFrom (content s.store) stored key) ∧
    ∀ t, content t.store = content s.store → ∀ key,
      (∀ answer t', (v.get key).runOn t = (.ok answer, t') →
        (answer = none ↔ ¬ v.HoldsSealed (content s.store) key) ∧
        content t'.store = content s.store) ∧
      (∀ t₁ later t₂, (v.remove key).runOn t = (.ok (), t₁) → v.keys.runOn t₁ = (.ok later, t₂) →
        (key ∈ later ↔ ∃ stored, v.ListsFrom (content s.store) stored key ∧
          v.codec.encodeKey key ≠ .ok stored)) ∧
      (key ∈ listed →
        (∀ stored, v.ListsFrom (content s.store) stored key → v.codec.encodeKey key = .ok stored) →
        (∀ t', (v.get key).runOn t ≠ (.ok none, t')) ∧
        ∀ t₁ later t₂, (v.remove key).runOn t = (.ok (), t₁) →
          v.keys.runOn t₁ = (.ok later, t₂) → key ∉ later) := by
  obtain ⟨hlisted, hkept⟩ := mem_keys h hlist
  refine ⟨hkept, hlisted, fun t ht key => ?_⟩
  rw [← ht] at hlisted ⊢
  have hget : ∀ answer t', (v.get key).runOn t = (.ok answer, t') →
      (answer = none ↔ ¬ v.HoldsSealed (content t.store) key) ∧
        content t'.store = content t.store :=
    fun answer t' hrun => get_eq_none_iff h hrun
  have hremove : ∀ t₁ later t₂, (v.remove key).runOn t = (.ok (), t₁) →
      v.keys.runOn t₁ = (.ok later, t₂) → (key ∈ later ↔
        ∃ stored, v.ListsFrom (content t.store) stored key ∧ v.codec.encodeKey key ≠ .ok stored) :=
    fun t₁ later t₂ hrun hlater => mem_keys_of_remove h hrun hlater
  refine ⟨hget, hremove, fun hmem hsealed => ⟨fun t' hnone => ?_, ?_⟩⟩
  · obtain ⟨stored, hstored⟩ := (hlisted key).mp hmem
    exact (hget none t' hnone).1.mp rfl ⟨stored, hstored.1, hsealed stored hstored⟩
  · intro t₁ later t₂ hrun hlater hstill
    obtain ⟨stored, hstored, hother⟩ := (hremove t₁ later t₂ hrun hlater).mp hstill
    exact hother (hsealed stored hstored)

/-- A stored key that is not the sealed form of the key that it decodes to has that key listed, and
removing the key does not take it away. -/
theorem unsealed_stays {stored : String} (hlists : v.ListsFrom (content s.store) stored key)
    (hother : v.codec.encodeKey key ≠ .ok stored) :
    (∀ listed s', v.keys.runOn s = (.ok listed, s') → key ∈ listed) ∧
    ∀ s₁ later s₂, (v.remove key).runOn s = (.ok (), s₁) →
      v.keys.runOn s₁ = (.ok later, s₂) → key ∈ later := by
  refine ⟨fun listed s' hlist => ((mem_keys h hlist).1 key).mpr ⟨stored, hlists⟩, ?_⟩
  intro s₁ later s₂ hremove hlater
  exact (mem_keys_of_remove h hremove hlater).mpr ⟨stored, hlists, hother⟩

/-- So it is with a key that was written in the clear, under the fallback. -/
theorem legacy_stays {stored : String} (hpolicy : v.codec.policy = .legacyFallback)
    (hstored : (content s.store stored).isSome)
    (hclosed : ∀ plain, (v.codec.context false).openText stored ≠ .ok plain) :
    (∀ listed s', v.keys.runOn s = (.ok listed, s') → stored ∈ listed) ∧
    ∀ s₁ later s₂, (v.remove stored).runOn s = (.ok (), s₁) →
      v.keys.runOn s₁ = (.ok later, s₂) → stored ∈ later :=
  unsealed_stays h ⟨hstored, StorageCodec.decodeKey_legacy hpolicy hclosed⟩
    (StorageCodec.encodeKey_ne_of_closed hclosed stored)

end Serves

/-- A sealed key with a value in the clear, under the fallback. -/
theorem readable_of_listed_sealed :
    let v : Vault Entries := ⟨.memory, ⟨⟨List.replicate 16 7, by decide⟩, .legacyFallback⟩, false⟩
    ∃ sealedKey, v.codec.encodeKey "legacy" = .ok sealedKey ∧
      let s : VaultState Entries := ⟨[(sealedKey, "plain value")], []⟩
      v.backing.Serves Entries.get? ∧ v.keys.runOn s = (.ok ["legacy"], s) ∧
        (∀ s', (v.get "legacy").runOn s ≠ (.ok none, s')) ∧
        ∀ s₁ later s₂, (v.remove "legacy").runOn s = (.ok (), s₁) →
          v.keys.runOn s₁ = (.ok later, s₂) → "legacy" ∉ later := by
  intro v
  have hshort : ¬ Text.isTooLong "legacy" = true := by decide +kernel
  obtain ⟨sealedKey, hkey⟩ := v.codec.exists_encodeKey hshort
  refine ⟨sealedKey, hkey, ?_⟩
  intro s
  have hlist : v.keys.runOn s = (.ok ["legacy"], s) := by
    show ([sealedKey].mapM v.codec.decodeKey, s) = _
    simp [StorageCodec.decodeKey_of_encodeKey hkey]
  have honly : ∀ stored, v.ListsFrom (Entries.get? s.store) stored "legacy" →
      v.codec.encodeKey "legacy" = .ok stored := by
    rintro stored ⟨hstored, -⟩
    obtain rfl : stored = sealedKey := List.mem_singleton.mp (mem_keys_iff.mpr hstored)
    exact hkey
  obtain ⟨-, -, hall⟩ := readable_of_listed Backing.serves_memory hlist
  exact ⟨Backing.serves_memory, hlist, (hall s rfl "legacy").2.2 (by simp) honly⟩

/-- A key in the clear, under the fallback: it is listed, nothing is found under it, and it is
listed again after it was removed. -/
theorem listed_unreadable :
    let v : Vault Entries := ⟨.memory, ⟨⟨List.replicate 16 7, by decide⟩, .legacyFallback⟩, false⟩
    let s : VaultState Entries := ⟨[("legacy", "plain value")], []⟩
    v.keys.runOn s = (.ok ["legacy"], s) ∧ (v.get "legacy").runOn s = (.ok none, s) ∧
      (v.remove "legacy").runOn s = (.ok (), s) := by
  intro v s
  have hclosed : ∀ plain, (v.codec.context false).openText "legacy" ≠ .ok plain := by
    intro plain hopen
    obtain ⟨m, hm, -⟩ := SealContext.openText_eq_ok.mp hopen
    cases hm
  have hshort : ¬ Text.isTooLong "legacy" = true := by decide +kernel
  obtain ⟨sealedKey, hkey⟩ := v.codec.exists_encodeKey hshort
  have hne : sealedKey ≠ "legacy" := by
    rintro rfl
    exact StorageCodec.encodeKey_ne_of_closed hclosed "legacy" hkey
  refine ⟨?_, ?_, ?_⟩
  · show (["legacy"].mapM v.codec.decodeKey, s) = _
    simp [StorageCodec.decodeKey_legacy rfl hclosed]
  · have hlook : v.backing.get sealedKey s.store = (.ok none, s.store) := by
      show (Except.ok (Entries.get? s.store sealedKey), s.store) = _
      simp [s, Entries.get?, hne]
    unfold get
    rw [runOn_bind, runOn_ofResult, hkey]
    simp only [runOn_bind, runOn_onStore, hlook]
    rfl
  · have herase : s.store.erase sealedKey = s.store := by simp [s, Entries.erase, hne.symm]
    unfold remove
    rw [runOn_bind, runOn_ofResult, hkey]
    show (Except.ok (), { s with store := s.store.erase sealedKey }) = _
    rw [herase]

end Vault

end DeviceSecurity
