import DeviceSecurity.Proofs.Storage.Action
import DeviceSecurity.Proofs.Storage.Codec

/-!
# Items of a vault

The item under a key is the value that the vault finds there, as the content of the store has it
(`Vault.item`). Of the store it is assumed that looking up and setting do what they say
(`Backing.Stores`). Then what is set is the item of its key and touches no other, because no two
keys share a sealed form; a merge puts the merged text in the place of the item
(`Vault.item_merge`); and after any number of merges each item is what the patches for its own key
make of it, one after another (`Vault.item_multiMerge`).
-/

namespace DeviceSecurity

namespace Backing

/-- Looking a key up answers what the content has under it and keeps the content; setting a key puts
the value there and leaves all other keys alone. -/
structure Stores {σ : Type} (b : Backing σ) (content : σ → String → Option String) : Prop where
  get : ∀ key s value s', b.get key s = (.ok value, s') →
    value = content s key ∧ content s' = content s
  set : ∀ key value s s', b.set key value s = (.ok (), s') →
    ∀ k, content s' k = if k = key then some value else content s k

theorem stores_memory : memory.Stores Entries.get? where
  get key s value s' h := by
    cases h
    exact ⟨rfl, rfl⟩
  set key value s s' h := by
    cases h
    exact s.get?_insert key value

end Backing

namespace Vault

open VaultAction

variable {σ : Type} {v : Vault σ}

/-! ## Reading and merging -/

/-- A key is read in three steps: it is sealed, its sealed form is looked up, and what is found is
opened. -/
theorem runOn_get (v : Vault σ) (key : String) (s : VaultState σ) : (v.get key).runOn s =
    match v.codec.encodeKey key with
    | .error fault => (.error fault, s)
    | .ok sealedKey =>
      match v.backing.get sealedKey s.store with
      | (.error fault, store) => (.error fault, ⟨store, s.entropy⟩)
      | (.ok none, store) => (.ok none, ⟨store, s.entropy⟩)
      | (.ok (some stored), store) =>
        (some <$> v.codec.decryptValue stored v.hard, ⟨store, s.entropy⟩) := by
  unfold get
  rw [runOn_bind, runOn_ofResult]
  cases v.codec.encodeKey key with
  | error fault => rfl
  | ok sealedKey =>
    dsimp only
    rw [runOn_bind, runOn_onStore]
    rcases v.backing.get sealedKey s.store with ⟨fault | _ | stored, store⟩
    · rfl
    · rfl
    · exact runOn_map _ _ _

/-- The text that a merge writes. -/
def mergedText (stored : Option String) (patch : String) : Except Error String :=
  match stored with
  | some stored => Storage.mergeText stored patch
  | none => (fun _ => patch) <$> Storage.objectOfText patch

theorem merge_eq (key patch : String) : v.merge key patch =
    v.get key >>= fun stored => ofResult (mergedText stored patch) >>= v.set key := by
  unfold merge mergedText
  refine bind_congr fun stored => ?_
  cases stored <;> rfl

theorem multiMerge_nil (v : Vault σ) : v.multiMerge [] = pure () := rfl

theorem multiMerge_cons (v : Vault σ) (key patch : String) (entries : List (String × String)) :
    v.multiMerge ((key, patch) :: entries) = v.merge key patch >>= fun _ => v.multiMerge entries :=
  rfl

theorem runOn_multiMerge_cons_ok {key patch : String} {entries : List (String × String)}
    {s t s' : VaultState σ} (hfirst : (v.merge key patch).runOn s = (.ok (), t))
    (hrest : (v.multiMerge entries).runOn t = (.ok (), s')) :
    (v.multiMerge ((key, patch) :: entries)).runOn s = (.ok (), s') :=
  runOn_bind_eq_ok.mpr ⟨(), t, hfirst, hrest⟩

/-! ## Items -/

/-- The item under a key, as the content of the store has it. -/
def item (v : Vault σ) (content : String → Option String) (key : String) :
    Except Error (Option String) := do
  let sealedKey ← v.codec.encodeKey key
  match content sealedKey with
  | none => return none
  | some stored => some <$> v.codec.decryptValue stored v.hard

theorem item_of_encodeKey {key sealedKey : String} (h : v.codec.encodeKey key = .ok sealedKey)
    (content : String → Option String) : v.item content key = match content sealedKey with
      | none => .ok none
      | some stored => some <$> v.codec.decryptValue stored v.hard := by
  rw [item, h]
  rfl

/-- The patches for a key, in their order. -/
def patchesFor (key : String) (entries : List (String × String)) : List String :=
  entries.filterMap fun e => if e.1 = key then some e.2 else none

/-- What patches make of an item, one after another. -/
def mergedItem (stored : Option String) (patches : List String) : Except Error (Option String) :=
  patches.foldlM (fun stored patch => some <$> mergedText stored patch) stored

theorem patchesFor_cons (key : String) (e : String × String) (entries : List (String × String)) :
    patchesFor key (e :: entries) =
      if e.1 = key then e.2 :: patchesFor key entries else patchesFor key entries := by
  unfold patchesFor
  by_cases h : e.1 = key <;> simp [h]

theorem mergedItem_nil (stored : Option String) : mergedItem stored [] = .ok stored := rfl

theorem mergedItem_cons {stored : Option String} {patch merged : String}
    (h : mergedText stored patch = .ok merged) (patches : List String) :
    mergedItem stored (patch :: patches) = mergedItem (some merged) patches := by
  rw [mergedItem, List.foldlM_cons, h]
  rfl

section Stores

variable {content : σ → String → Option String} (h : v.backing.Stores content)
  {s s' : VaultState σ} {key : String}

include h

theorem item_get {answer : Option String} (hget : (v.get key).runOn s = (.ok answer, s')) :
    v.item (content s.store) key = .ok answer ∧ content s'.store = content s.store := by
  obtain ⟨sealedKey, t, hsealed, hget⟩ := runOn_bind_eq_ok.mp hget
  obtain ⟨hkey, rfl⟩ := runOn_ofResult_eq_ok.mp hsealed
  obtain ⟨found, t, hlook, hget⟩ := runOn_bind_eq_ok.mp hget
  obtain ⟨hfound, hkept⟩ := h.get sealedKey _ found t.store (runOn_onStore_eq_ok hlook)
  rw [item_of_encodeKey hkey, ← hfound]
  cases found with
  | none =>
    obtain ⟨hanswer, rfl⟩ := Prod.mk.inj hget
    exact ⟨hanswer, hkept⟩
  | some sealedValue =>
    rw [runOn_map, runOn_ofResult] at hget
    obtain ⟨hanswer, rfl⟩ := Prod.mk.inj hget
    exact ⟨hanswer, hkept⟩

/-- What is set is the item of its key, and no other item is touched. -/
theorem item_set {value : String} (hset : (v.set key value).runOn s = (.ok (), s')) :
    v.item (content s'.store) key = .ok (some value) ∧
      ∀ k, k ≠ key → v.item (content s'.store) k = v.item (content s.store) k := by
  obtain ⟨⟨sealedKey, sealedValue⟩, t, hentry, hset⟩ := runOn_bind_eq_ok.mp hset
  rw [runOn_onEntropy, Prod.mk.injEq] at hentry
  obtain ⟨hentry, rfl⟩ := hentry
  obtain ⟨hkey, hvalue⟩ := StorageCodec.encodeEntry_eq_ok (Prod.ext hentry rfl)
  have hcontent := h.set sealedKey sealedValue _ _ (runOn_onStore_eq_ok hset)
  constructor
  · have hopen := StorageCodec.decryptValue_of_encryptValue hvalue
    rw [item_of_encodeKey hkey, hcontent, if_pos rfl]
    exact congrArg (some <$> ·) hopen
  · intro k hk
    cases hother : v.codec.encodeKey k with
    | error fault =>
      rw [item, item, hother]
      rfl
    | ok sealedOther =>
      have hne : sealedOther ≠ sealedKey := fun hsame =>
        hk (StorageCodec.encodeKey_injective hother (hsame ▸ hkey))
      rw [item_of_encodeKey hother, item_of_encodeKey hother, hcontent, if_neg hne]

/-- A merge puts the merged text in the place of the item. -/
theorem item_merge {patch : String} (hmerge : (v.merge key patch).runOn s = (.ok (), s')) :
    ∃ stored merged, v.item (content s.store) key = .ok stored ∧
      mergedText stored patch = .ok merged ∧ v.item (content s'.store) key = .ok (some merged) ∧
      ∀ k, k ≠ key → v.item (content s'.store) k = v.item (content s.store) k := by
  rw [merge_eq] at hmerge
  obtain ⟨stored, t, hget, hmerge⟩ := runOn_bind_eq_ok.mp hmerge
  obtain ⟨hstored, hkept⟩ := item_get h hget
  obtain ⟨merged, t, hmerged, hset⟩ := runOn_bind_eq_ok.mp hmerge
  obtain ⟨htext, rfl⟩ := runOn_ofResult_eq_ok.mp hmerged
  obtain ⟨hitem, hothers⟩ := item_set h hset
  exact ⟨stored, merged, hstored, htext, hitem, fun k hk => by rw [hothers k hk, hkept]⟩

/-- After a sequence of merges an item is what the patches for its key make of it, one after
another. An item without patches stays. -/
theorem item_multiMerge {entries : List (String × String)}
    (hmerge : (v.multiMerge entries).runOn s = (.ok (), s')) (key : String) :
    (patchesFor key entries = [] ∧ v.item (content s'.store) key = v.item (content s.store) key) ∨
    ∃ stored merged, v.item (content s.store) key = .ok stored ∧
      patchesFor key entries ≠ [] ∧ mergedItem stored (patchesFor key entries) = .ok (some merged) ∧
      v.item (content s'.store) key = .ok (some merged) := by
  induction entries generalizing s with
  | nil =>
    cases hmerge
    exact .inl ⟨rfl, rfl⟩
  | cons e entries ih =>
    obtain ⟨k, patch⟩ := e
    rw [multiMerge_cons] at hmerge
    obtain ⟨_, t, hfirst, hrest⟩ := runOn_bind_eq_ok.mp hmerge
    obtain ⟨stored, merged, hstored, htext, hitem, hothers⟩ := item_merge h hfirst
    rw [patchesFor_cons]
    by_cases hk : k = key
    · subst hk
      refine .inr ?_
      rw [if_pos rfl]
      rcases ih hrest with ⟨hnone, hsame⟩ | ⟨stored', merged', hstored', -, hmerged, hitem'⟩
      · refine ⟨stored, merged, hstored, List.cons_ne_nil _ _, ?_, hsame.trans hitem⟩
        rw [mergedItem_cons htext, hnone, mergedItem_nil]
      · rw [hitem] at hstored'
        obtain rfl := Except.ok.inj hstored'
        exact ⟨stored, merged', hstored, List.cons_ne_nil _ _,
          (mergedItem_cons htext _).trans hmerged, hitem'⟩
    · rw [if_neg hk, ← hothers key (Ne.symm hk)]
      exact ih hrest

end Stores

/-! ## In memory -/

section Memory

variable {v : Vault Entries} (hmemory : v.backing = .memory) (hsoft : v.hard = false)
  {s : VaultState Entries} {key : String}

theorem item_of_empty (v : Vault Entries) (hkey : ¬Text.isTooLong key) :
    v.item (Entries.get? []) key = .ok none := by
  obtain ⟨sealedKey, hsealed⟩ := v.codec.exists_encodeKey hkey
  rw [item_of_encodeKey hsealed]
  rfl

include hmemory

theorem runOn_get_memory (key : String) (s : VaultState Entries) :
    (v.get key).runOn s = (v.item (Entries.get? s.store) key, s) := by
  rw [runOn_get, hmemory]
  cases hkey : v.codec.encodeKey key with
  | error fault =>
    rw [item, hkey]
    rfl
  | ok sealedKey =>
    rw [item_of_encodeKey hkey]
    cases hlook : Entries.get? s.store sealedKey <;> simp [Backing.memory, hlook]

include hsoft

/-- In memory, what is not too long can be set device-bound. -/
theorem exists_runOn_set_memory {value : String} (hkey : ¬Text.isTooLong key)
    (hvalue : ¬Text.isTooLong value) (s : VaultState Entries) :
    ∃ s', (v.set key value).runOn s = (.ok (), s') := by
  obtain ⟨sealedKey, hsealedKey⟩ := v.codec.exists_encodeKey hkey
  have hseal := SealContext.sealText_of_nonce (SealContext.associatedData_le (c := v.codec.context
    v.hard) rfl) value (SealContext.nonce_deviceBound (by rw [hsoft]; rfl) s.entropy)
  rw [if_neg hvalue] at hseal
  obtain ⟨sealedValue, hseal⟩ := hseal
  have hentry : v.codec.encodeEntry key value v.hard s.entropy =
      (.ok (sealedKey, sealedValue), s.entropy) := by
    rw [StorageCodec.encodeEntry, hsealedKey, StorageCodec.encryptValue]
    dsimp only
    rw [hseal]
  refine ⟨⟨s.store.insert sealedKey sealedValue, s.entropy⟩, ?_⟩
  rw [set, runOn_bind, runOn_onEntropy, hentry, hmemory]
  rfl

/-- In memory, a merge goes through unless what it writes is too long. -/
theorem exists_runOn_merge_memory {stored : Option String} {patch merged : String}
    (hitem : v.item (Entries.get? s.store) key = .ok stored)
    (hmerged : mergedText stored patch = .ok merged) (hkey : ¬Text.isTooLong key)
    (hshort : ¬Text.isTooLong merged) : ∃ s', (v.merge key patch).runOn s = (.ok (), s') ∧
      v.item (Entries.get? s'.store) key = .ok (some merged) ∧
      ∀ k, k ≠ key → v.item (Entries.get? s'.store) k = v.item (Entries.get? s.store) k := by
  obtain ⟨s', hset⟩ := exists_runOn_set_memory hmemory hsoft hkey hshort s
  refine ⟨s', ?_, item_set (hmemory ▸ Backing.stores_memory) hset⟩
  rw [merge_eq]
  refine runOn_bind_eq_ok.mpr ⟨stored, s, ?_, runOn_bind_eq_ok.mpr ⟨merged, s, ?_, hset⟩⟩
  · rw [runOn_get_memory hmemory, hitem]
  · rw [runOn_ofResult, hmerged]

/-- So do two merges, into one item or into two. -/
theorem exists_runOn_multiMerge_memory {stored stored' : Option String}
    {key' patch patch' merged merged' : String}
    (hitem : v.item (Entries.get? s.store) key = .ok stored)
    (hmerged : mergedText stored patch = .ok merged) (hkey : ¬Text.isTooLong key)
    (hshort : ¬Text.isTooLong merged)
    (hitem' : (key' = key ∧ stored' = some merged) ∨
      (key' ≠ key ∧ v.item (Entries.get? s.store) key' = .ok stored'))
    (hmerged' : mergedText stored' patch' = .ok merged') (hkey' : ¬Text.isTooLong key')
    (hshort' : ¬Text.isTooLong merged') :
    ∃ s', (v.multiMerge [(key, patch), (key', patch')]).runOn s = (.ok (), s') ∧
      v.item (Entries.get? s'.store) key' = .ok (some merged') ∧
      (key' ≠ key → v.item (Entries.get? s'.store) key = .ok (some merged)) := by
  obtain ⟨t, hfirst, hnew, hothers⟩ :=
    exists_runOn_merge_memory hmemory hsoft hitem hmerged hkey hshort
  have hthere : v.item (Entries.get? t.store) key' = .ok stored' := by
    rcases hitem' with ⟨rfl, rfl⟩ | ⟨hne, hitem'⟩
    · exact hnew
    · exact (hothers key' hne).trans hitem'
  obtain ⟨s', hsecond, hnew', hothers'⟩ :=
    exists_runOn_merge_memory hmemory hsoft hthere hmerged' hkey' hshort'
  refine ⟨s', runOn_multiMerge_cons_ok hfirst (runOn_multiMerge_cons_ok hsecond rfl), hnew',
    fun hne => (hothers' key hne.symm).trans hnew⟩

end Memory

end Vault

end DeviceSecurity
