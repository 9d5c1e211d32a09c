import DeviceSecurity.Proofs.Cipher.Key
import DeviceSecurity.Proofs.Storage.Action
import DeviceSecurity.Proofs.Storage.PlainMap

/-!
# A vault in memory is a plain map

The content of the store is, entry by entry, the sealed form of a list of plain entries with
distinct keys (`Vault.Seals`), and that list is the plain map. Every request keeps this so and is
answered as the plain map answers it (`refines_serve`), because sealing a key twice gives the same
text, different keys have different sealed forms, and every sealed value opens. The argument
follows the actions: `Refines` relates an action of the vault to one of the plain map and passes
through sequences of actions (`Refines.bind`, `Refines.forM`).
-/

namespace DeviceSecurity

/-! ## The relation -/

/-- A stored entry and the plain entry that it seals. -/
def StorageCodec.Seals (c : StorageCodec) (hard : Bool) (stored plain : String × String) : Prop :=
  c.encodeKey plain.1 = .ok stored.1 ∧ c.decryptValue stored.2 hard = .ok plain.2

/-- The stored entries are the sealed forms of plain entries with distinct keys, which make up the
map. -/
def StorageCodec.SealsMap (c : StorageCodec) (hard : Bool) (stored : Entries) (map : PlainMap) :
    Prop :=
  ∃ plain : Entries, List.Forall₂ (c.Seals hard) stored plain ∧ plain.keys.Nodup ∧
    ∀ key, map.lookup key = plain.get? key

/-- Results that say the same: related values, or a refusal and an error that reports it. -/
def Agrees {α β : Type} (R : α → β → Prop) : Except Error α → Except Refusal β → Prop
  | .ok a, .ok b => R a b
  | .error e, .error refusal => refusal.Reports e
  | _, _ => False

/-- The same reply, with the keys of a map listed once each. -/
def VaultReply.Matches : VaultReply (List String) → VaultReply (Finset String) → Prop
  | .done, .done => True
  | .value a, .value b => a = b
  | .values a, .values b => a = b
  | .keys a, .keys b => a.Nodup ∧ a.toFinset = b
  | _, _ => False

namespace Vault

variable (v : Vault Entries)

/-- The store holds the sealed map, and as much entropy is left. -/
structure Represents (s : VaultState Entries) (p : PlainState) : Prop where
  seals : v.codec.SealsMap v.hard s.store p.map
  left : s.entropy.length = p.left

/-- From related states an action does what a plain action does: the results agree, and the states
are related again. -/
def Refines {α β : Type} (R : α → β → Prop) (a : VaultAction Entries α) (b : PlainAction β) :
    Prop :=
  ∀ s p, v.Represents s p →
    Agrees R (a.runOn s).1 (b.runOn p).1 ∧ v.Represents (a.runOn s).2 (b.runOn p).2

variable {v} {α β γ δ : Type} {R : α → β → Prop} {S : γ → δ → Prop}

namespace Refines

theorem pure {x : α} {y : β} (h : R x y) : v.Refines R (pure x) (pure y) :=
  fun _ _ hs => ⟨h, hs⟩

theorem bind {a : VaultAction Entries α} {b : PlainAction β} {f : α → VaultAction Entries γ}
    {g : β → PlainAction δ} (hab : v.Refines R a b)
    (hfg : ∀ x y, R x y → v.Refines S (f x) (g y)) : v.Refines S (a >>= f) (b >>= g) := by
  intro s p hs
  have h := hab s p hs
  unfold VaultAction.runOn PlainAction.runOn at *
  rw [run_run_bind a f s, run_run_bind b g p]
  revert h
  rcases (ExceptT.run a).run s with ⟨e | x, s'⟩ <;>
    rcases (ExceptT.run b).run p with ⟨refusal | y, p'⟩ <;> rintro ⟨hagrees, hstate⟩
  · exact ⟨hagrees, hstate⟩
  · exact hagrees.elim
  · exact hagrees.elim
  · exact hfg x y hagrees s' p' hstate

theorem map {a : VaultAction Entries α} {b : PlainAction β} {f : α → γ} {g : β → δ}
    (hab : v.Refines R a b) (hfg : ∀ x y, R x y → S (f x) (g y)) :
    v.Refines S (f <$> a) (g <$> b) := by
  rw [← bind_pure_comp, ← bind_pure_comp]
  exact hab.bind fun x y h => pure (hfg x y h)

/-- A sequence of related actions stops at the same place. -/
theorem forM {ι : Type} {f : ι → VaultAction Entries Unit} {g : ι → PlainAction Unit}
    {T : Unit → Unit → Prop} (hT : T () ()) (h : ∀ i, v.Refines T (f i) (g i)) (l : List ι) :
    v.Refines T (l.forM f) (l.forM g) := by
  induction l with
  | nil => exact pure hT
  | cons i l ih =>
    show v.Refines T (f i >>= fun _ => l.forM f) (g i >>= fun _ => l.forM g)
    exact (h i).bind fun _ _ _ => ih

end Refines

/-! ## Stored entries -/

section Entries

variable {c : StorageCodec} {hard : Bool} {stored plain : Entries} {key sealedKey : String}
  (h : List.Forall₂ (c.Seals hard) stored plain) (hkey : c.encodeKey key = .ok sealedKey)

include h hkey

/-- Under a sealed key stands the sealed value of the key. -/
theorem get?_seals :
    Option.Rel (fun sealedValue value => c.decryptValue sealedValue hard = .ok value)
      (stored.get? sealedKey) (plain.get? key) := by
  induction h with
  | nil => exact .none
  | @cons stored plain storedRest plainRest hentry _ ih =>
    obtain ⟨k', sv⟩ := stored
    obtain ⟨k, value⟩ := plain
    obtain ⟨hk, hvalue⟩ := hentry
    by_cases heq : key = k
    · subst heq
      obtain rfl : sealedKey = k' := Except.ok.inj (hkey.symm.trans hk)
      simpa [Entries.get?] using Option.Rel.some hvalue
    · have hne : sealedKey ≠ k' := by
        rintro rfl
        exact heq (StorageCodec.encodeKey_injective hkey hk)
      simpa [Entries.get?, List.lookup_cons, beq_eq_false_iff_ne.mpr heq,
        beq_eq_false_iff_ne.mpr hne] using ih

/-- Inserting a sealed entry seals the plain entries with the plain one inserted. -/
theorem insert_seals {sealedValue value : String}
    (hvalue : c.decryptValue sealedValue hard = .ok value) :
    List.Forall₂ (c.Seals hard) (stored.insert sealedKey sealedValue) (plain.insert key value) := by
  induction h with
  | nil => exact .cons ⟨hkey, hvalue⟩ .nil
  | @cons stored plain storedRest plainRest hentry hrest ih =>
    obtain ⟨k', sv⟩ := stored
    obtain ⟨k, w⟩ := plain
    unfold Entries.insert
    by_cases heq : k = key
    · subst heq
      obtain rfl : k' = sealedKey := Except.ok.inj (hentry.1.symm.trans hkey)
      rw [if_pos rfl, if_pos rfl]
      exact .cons ⟨hkey, hvalue⟩ hrest
    · have hne : k' ≠ sealedKey := by
        rintro rfl
        exact heq (StorageCodec.encodeKey_injective hentry.1 hkey)
      rw [if_neg heq, if_neg hne]
      exact .cons hentry ih

/-- Erasing a sealed key seals the plain entries with the key erased. -/
theorem erase_seals :
    List.Forall₂ (c.Seals hard) (stored.erase sealedKey) (plain.erase key) := by
  induction h with
  | nil => exact .nil
  | @cons stored plain storedRest plainRest hentry hrest ih =>
    obtain ⟨k', sv⟩ := stored
    obtain ⟨k, w⟩ := plain
    unfold Entries.erase at *
    by_cases heq : k = key
    · subst heq
      obtain rfl : k' = sealedKey := Except.ok.inj (hentry.1.symm.trans hkey)
      simpa using ih
    · have hne : k' ≠ sealedKey := by
        rintro rfl
        exact heq (StorageCodec.encodeKey_injective hentry.1 hkey)
      simpa [heq, hne] using And.intro hentry ih

omit hkey in
/-- The sealed keys open to the plain ones. -/
theorem mapM_decodeKey : stored.keys.mapM c.decodeKey = .ok plain.keys := by
  induction h with
  | nil => rfl
  | cons hentry _ ih =>
    unfold Entries.keys at *
    rw [List.map_cons, List.map_cons, List.mapM_cons, ih,
      StorageCodec.decodeKey_of_encodeKey hentry.1]
    rfl

end Entries

theorem mem_keys_iff {entries : Entries} {key : String} :
    key ∈ entries.keys ↔ (entries.get? key).isSome := by
  induction entries with
  | nil => simp [Entries.keys, Entries.get?]
  | cons e rest ih =>
    obtain ⟨k, w⟩ := e
    unfold Entries.keys Entries.get? at *
    by_cases h : key = k
    · simp [h]
    · simp [List.lookup_cons, beq_eq_false_iff_ne.mpr h, h, ← ih]

theorem nodup_keys_insert {entries : Entries} (h : entries.keys.Nodup) (key value : String) :
    (entries.insert key value).keys.Nodup := by
  induction entries with
  | nil => simp [Entries.insert, Entries.keys]
  | cons e rest ih =>
    obtain ⟨k, w⟩ := e
    obtain ⟨hk, hrest⟩ := List.nodup_cons.mp h
    unfold Entries.insert
    split
    · next heq =>
      subst heq
      exact List.nodup_cons.mpr ⟨hk, hrest⟩
    · next heq =>
      refine List.nodup_cons.mpr ⟨?_, ih hrest⟩
      intro hmem
      rcases (Entries.mem_keys_insert rest key value k).mp hmem with h | h
      · exact heq h
      · exact hk h

theorem nodup_keys_erase {entries : Entries} (h : entries.keys.Nodup) (key : String) :
    (entries.erase key).keys.Nodup :=
  h.sublist (List.filter_sublist.map _)

/-! ## Merged texts -/

theorem malformed_of_objectOfText {text : String} {e : Error}
    (h : Storage.objectOfText text = .error e) : Refusal.malformed.Reports e := by
  unfold Storage.objectOfText at h
  split at h
  · exact ⟨_, (Except.error.inj h).symm⟩
  · split at h
    · cases h
    · exact ⟨_, (Except.error.inj h).symm⟩

/-- A merge of texts fails only for what is no JSON object. -/
theorem malformed_of_mergeText {base patch : String} {e : Error}
    (h : Storage.mergeText base patch = .error e) : Refusal.malformed.Reports e := by
  unfold Storage.mergeText at h
  rcases bind_eq_error.mp h with h | ⟨stored, -, h⟩
  · exact malformed_of_objectOfText h
  · rcases bind_eq_error.mp h with h | ⟨changes, -, h⟩
    · exact malformed_of_objectOfText h
    · cases h

/-! ## Single steps -/

variable (v)

/-- A storage key is sealed unless it is too long. -/
theorem refines_encodeKey (key : String) :
    v.Refines (fun sealedKey _ => v.codec.encodeKey key = .ok sealedKey)
      (VaultAction.ofResult (v.codec.encodeKey key)) (PlainAction.requireShort key) := by
  intro s p hs
  have hkey := v.codec.encodeKey_eq key
  unfold PlainAction.requireShort
  split
  · next hlong =>
    rw [if_pos hlong] at hkey
    rw [hkey]
    exact ⟨⟨_, rfl⟩, hs⟩
  · next hshort =>
    rw [if_neg hshort] at hkey
    obtain ⟨sealedKey, hsealed⟩ := hkey
    rw [hsealed]
    exact ⟨rfl, hs⟩

/-- There is a nonce for a value unless hard mode finds too little entropy. -/
theorem refines_nonce :
    v.Refines (fun nonce _ => nonce.length = Gcm.nonceSize)
      (VaultAction.onEntropy (v.codec.context v.hard).nonce) (PlainAction.takeNonce v.hard) := by
  intro s p hs
  have hrun : (PlainAction.takeNonce v.hard).runOn p =
      if !v.hard then (.ok (), p)
      else if p.left < Gcm.nonceSize then (.error .noEntropy, p)
      else (.ok (), { p with left := p.left - Gcm.nonceSize }) := rfl
  rw [hrun]
  show Agrees _ ((v.codec.context v.hard).nonce s.entropy).1 _ ∧
    v.Represents { s with entropy := ((v.codec.context v.hard).nonce s.entropy).2 } _
  cases hhard : v.hard with
  | false => exact ⟨rfl, hs⟩
  | true =>
    rw [SealContext.nonce_sharedKey rfl, hs.left, if_neg (c := (!true) = true) (by simp)]
    by_cases hleft : p.left < Gcm.nonceSize
    · rw [if_pos hleft, if_pos hleft]
      exact ⟨rfl, hs⟩
    · rw [if_neg hleft, if_neg hleft]
      have hlength : s.entropy.length = p.left := hs.left
      refine ⟨?_, hs.seals, ?_⟩
      · show (s.entropy.take Gcm.nonceSize).length = Gcm.nonceSize
        rw [List.length_take]
        omega
      · show (s.entropy.drop Gcm.nonceSize).length = p.left - Gcm.nonceSize
        rw [List.length_drop, hlength]

/-- A value that is not too long is sealed under any nonce. -/
theorem refines_sealWith {nonce : Bytes} (hnonce : nonce.length = Gcm.nonceSize) (value : String) :
    v.Refines (fun sealedValue _ => v.codec.decryptValue sealedValue v.hard = .ok value)
      (VaultAction.ofResult
        (SealedMessage.toBase64 <$> (v.codec.context v.hard).sealWith nonce (Bytes.ofText value)))
      (PlainAction.requireShort value) := by
  intro s p hs
  have hseal := SealContext.sealWith_eq (c := v.codec.context v.hard)
    (SealContext.associatedData_le rfl) nonce value
  unfold PlainAction.requireShort
  split
  · next hlong =>
    rw [if_pos hlong] at hseal
    rw [hseal]
    exact ⟨⟨_, rfl⟩, hs⟩
  · next hshort =>
    rw [if_neg hshort] at hseal
    obtain ⟨m, hm⟩ := hseal
    rw [hm]
    exact ⟨StorageCodec.decryptValue_of_openText (SealContext.openText_of_sealWith hnonce hm), hs⟩

section Memory

variable (hv : v.backing = .memory)

include hv

theorem refines_store {key sealedKey value sealedValue : String}
    (hkey : v.codec.encodeKey key = .ok sealedKey)
    (hvalue : v.codec.decryptValue sealedValue v.hard = .ok value) :
    v.Refines (fun _ _ => True) (VaultAction.onStore (v.backing.set sealedKey sealedValue))
      (PlainAction.change (·.insert key value)) := by
  intro s p hs
  rw [hv]
  refine ⟨trivial, ?_, hs.left⟩
  obtain ⟨plain, hseals, hnodup, hlookup⟩ := hs.seals
  refine ⟨plain.insert key value, insert_seals hseals hkey hvalue,
    nodup_keys_insert hnodup key value, fun k => ?_⟩
  show Finmap.lookup k (p.map.insert key value) = _
  rw [Entries.get?_insert]
  split
  · next h =>
    subst h
    exact Finmap.lookup_insert _
  · next h => rw [Finmap.lookup_insert_of_ne _ h, hlookup]

theorem refines_lookup {key sealedKey : String} (hkey : v.codec.encodeKey key = .ok sealedKey) :
    v.Refines (Option.Rel fun sealedValue value =>
        v.codec.decryptValue sealedValue v.hard = .ok value)
      (VaultAction.onStore (v.backing.get sealedKey)) (PlainAction.look (·.lookup key)) := by
  intro s p hs
  rw [hv]
  refine ⟨?_, hs⟩
  obtain ⟨plain, hseals, -, hlookup⟩ := hs.seals
  show Option.Rel _ (s.store.get? sealedKey) (p.map.lookup key)
  rw [hlookup]
  exact get?_seals hseals hkey

theorem refines_erase {key sealedKey : String} (hkey : v.codec.encodeKey key = .ok sealedKey) :
    v.Refines (fun _ _ => True) (VaultAction.onStore (v.backing.remove sealedKey))
      (PlainAction.change (·.erase key)) := by
  intro s p hs
  rw [hv]
  refine ⟨trivial, ?_, hs.left⟩
  obtain ⟨plain, hseals, hnodup, hlookup⟩ := hs.seals
  refine ⟨plain.erase key, erase_seals hseals hkey, nodup_keys_erase hnodup key, fun k => ?_⟩
  show Finmap.lookup k (p.map.erase key) = _
  rw [Entries.get?_erase]
  split
  · next h =>
    subst h
    exact Finmap.lookup_erase _ _
  · next h => rw [Finmap.lookup_erase_ne h, hlookup]

theorem refines_empty :
    v.Refines (fun _ _ => True) (VaultAction.onStore v.backing.clear)
      (PlainAction.change fun _ => ∅) := by
  intro s p hs
  rw [hv]
  exact ⟨trivial, ⟨[], .nil, .nil, fun _ => Finmap.lookup_empty _⟩, hs.left⟩

theorem refines_listing :
    v.Refines (fun (keys : List String) (present : Finset String) =>
        keys.Nodup ∧ keys.toFinset = present) v.keys (PlainAction.look (·.keys)) := by
  intro s p hs
  obtain ⟨plain, hseals, hnodup, hlookup⟩ := hs.seals
  have hrun : v.keys.runOn s = (.ok plain.keys, s) := by
    unfold keys VaultAction.runOn
    rw [run_run_bind, hv]
    show (s.store.keys.mapM v.codec.decodeKey, s) = _
    rw [mapM_decodeKey hseals]
  rw [hrun]
  refine ⟨⟨hnodup, ?_⟩, hs⟩
  ext k
  rw [List.mem_toFinset, Finmap.mem_keys, ← Finmap.lookup_isSome, hlookup]
  exact mem_keys_iff

/-! ## Requests -/

theorem refines_set (key value : String) :
    v.Refines (fun _ _ => True) (v.set key value) (PlainAction.write v.hard key value) := by
  have hset : v.set key value = (do
      let sealedKey ← VaultAction.ofResult (v.codec.encodeKey key)
      let nonce ← VaultAction.onEntropy (v.codec.context v.hard).nonce
      let sealedValue ← VaultAction.ofResult
        (SealedMessage.toBase64 <$> (v.codec.context v.hard).sealWith nonce (Bytes.ofText value))
      VaultAction.onStore (v.backing.set sealedKey sealedValue)) := by
    refine VaultAction.ext fun s => ?_
    simp only [set, VaultAction.runOn_bind, VaultAction.runOn_onEntropy, VaultAction.runOn_ofResult,
      StorageCodec.encodeEntry, StorageCodec.encryptValue, SealContext.sealText,
      SealContext.sealBytes]
    cases v.codec.encodeKey key with
    | error fault => rfl
    | ok sealedKey =>
      rcases hnonce : (v.codec.context v.hard).nonce s.entropy with ⟨fault | nonce, rest⟩
      · simp [hnonce]
      · cases hseal : (v.codec.context v.hard).sealWith nonce (Bytes.ofText value) with
        | error fault => simp [hnonce, hseal]
        | ok m => simp [hnonce, hseal]
  rw [hset]
  refine (v.refines_encodeKey key).bind fun sealedKey _ hkey => ?_
  refine v.refines_nonce.bind fun nonce _ hnonce => ?_
  refine (v.refines_sealWith hnonce value).bind fun sealedValue _ hvalue => ?_
  exact v.refines_store hv hkey hvalue

theorem refines_get (key : String) :
    v.Refines Eq (v.get key) (PlainAction.read key) := by
  unfold get PlainAction.read
  refine (v.refines_encodeKey key).bind fun sealedKey _ hkey => ?_
  rw [← bind_pure (PlainAction.look _)]
  refine (v.refines_lookup hv hkey).bind fun found value hfound => ?_
  cases hfound with
  | none => exact Refines.pure rfl
  | @some sealedValue value hvalue =>
    show v.Refines Eq (some <$> VaultAction.ofResult (v.codec.decryptValue sealedValue v.hard)) _
    rw [hvalue]
    exact Refines.pure rfl

omit hv in
/-- What a merge writes is decided as the plain map decides it. -/
theorem refines_mergedText (stored : Option String) (patch : String) :
    v.Refines Eq
      (match stored with
        | some stored => VaultAction.ofResult (Storage.mergeText stored patch)
        | none => VaultAction.ofResult ((fun _ => patch) <$> Storage.objectOfText patch))
      (PlainAction.mergedText stored patch) := by
  cases stored with
  | some stored =>
    show v.Refines Eq (VaultAction.ofResult (Storage.mergeText stored patch)) _
    simp only [PlainAction.mergedText]
    cases hmerge : Storage.mergeText stored patch with
    | ok merged => exact Refines.pure rfl
    | error e => exact fun s p hs => ⟨malformed_of_mergeText hmerge, hs⟩
  | none =>
    show v.Refines Eq (VaultAction.ofResult ((fun _ => patch) <$> Storage.objectOfText patch)) _
    simp only [PlainAction.mergedText, Storage.objectOfText]
    cases Json.ofText? patch with
    | none => exact fun s p hs => ⟨⟨_, rfl⟩, hs⟩
    | some value =>
      cases value with
      | object members => exact Refines.pure rfl
      | _ => exact fun s p hs => ⟨⟨_, rfl⟩, hs⟩

theorem refines_merge (key patch : String) :
    v.Refines (fun _ _ => True) (v.merge key patch) (PlainAction.merge v.hard key patch) := by
  refine (v.refines_get hv key).bind fun stored found hfound => ?_
  subst hfound
  have hmerged := v.refines_mergedText stored patch
  have hwrite : ∀ merged written : String, merged = written → v.Refines (fun _ _ => True)
      (v.set key merged) (PlainAction.write v.hard key written) := by
    rintro merged _ rfl
    exact v.refines_set hv key merged
  cases stored with
  | some stored => exact hmerged.bind hwrite
  | none => exact hmerged.bind hwrite

theorem refines_remove (key : String) :
    v.Refines (fun _ _ => True) (v.remove key) (PlainAction.remove key) := by
  unfold remove PlainAction.remove
  refine (v.refines_encodeKey key).bind fun sealedKey _ hkey => ?_
  rw [← bind_pure_unit (x := PlainAction.change _)]
  exact (v.refines_erase hv hkey).bind fun _ _ _ => Refines.pure trivial

/-! ## Several entries -/

omit hv in
theorem readAll_cons (key : String) (keys : List String) :
    PlainAction.readAll (key :: keys) = (do
      let value ← PlainAction.read key
      let values ← PlainAction.readAll keys
      return (key, value) :: values) := by
  refine ExceptT.ext (funext fun p => ?_)
  show (PlainAction.readAll (key :: keys)).run.run p = _
  unfold PlainAction.read PlainAction.readAll PlainAction.requireShort
  cases hkey : Text.isTooLong key <;> cases hkeys : keys.any Text.isTooLong
  · simp [hkey, hkeys]
    rfl
  · simp [hkey, hkeys]
    rfl
  · simp [hkey, hkeys]
    rfl
  · simp [hkey, hkeys]
    rfl

theorem refines_multiGet (keys : List String) :
    v.Refines Eq (v.multiGet keys) (PlainAction.readAll keys) := by
  unfold multiGet
  induction keys with
  | nil => exact fun s p hs => ⟨rfl, hs⟩
  | cons key keys ih =>
    rw [readAll_cons, List.mapM_cons, bind_assoc]
    refine (v.refines_get hv key).bind fun value found hvalue => ?_
    subst hvalue
    rw [pure_bind]
    refine ih.bind fun values found hvalues => ?_
    subst hvalues
    exact Refines.pure rfl

theorem refines_multiSet (entries : List (String × String)) :
    v.Refines (fun _ _ => True) (v.multiSet entries)
      (entries.forM fun e => PlainAction.write v.hard e.1 e.2) := by
  refine Refines.forM trivial (fun e => ?_) entries
  exact v.refines_set hv e.1 e.2

theorem refines_multiMerge (entries : List (String × String)) :
    v.Refines (fun _ _ => True) (v.multiMerge entries)
      (entries.forM fun e => PlainAction.merge v.hard e.1 e.2) := by
  refine Refines.forM trivial (fun e => ?_) entries
  exact v.refines_merge hv e.1 e.2

theorem refines_multiRemove (keys : List String) :
    v.Refines (fun _ _ => True) (v.multiRemove keys) (keys.forM PlainAction.remove) :=
  Refines.forM trivial (v.refines_remove hv) keys

/-- Every request is answered as the plain map answers it. -/
theorem refines_serve (request : VaultRequest) :
    v.Refines VaultReply.Matches (v.serve request) (PlainAction.serve v.hard request) := by
  have hdone : ∀ _ _ : Unit, True →
      VaultReply.Matches (VaultReply.done : VaultReply (List String)) VaultReply.done :=
    fun _ _ _ => trivial
  cases request with
  | set key value => exact (v.refines_set hv key value).map hdone
  | get key => exact (v.refines_get hv key).map fun _ _ h => h
  | merge key patch => exact (v.refines_merge hv key patch).map hdone
  | remove key => exact (v.refines_remove hv key).map hdone
  | keys => exact (v.refines_listing hv).map fun _ _ h => h
  | multiGet keys => exact (v.refines_multiGet hv keys).map fun _ _ h => h
  | multiSet entries => exact (v.refines_multiSet hv entries).map hdone
  | multiMerge entries => exact (v.refines_multiMerge hv entries).map hdone
  | multiRemove keys => exact (v.refines_multiRemove hv keys).map hdone
  | clear => exact (v.refines_empty hv).map hdone

/-! ## Runs -/

/-- A sequence of requests is answered as the plain map answers it, and leaves related states. -/
theorem answers_agree (requests : List VaultRequest) {s : VaultState Entries} {p : PlainState}
    (hs : v.Represents s p) :
    List.Forall₂ (Agrees VaultReply.Matches) (v.answers requests s).1
        (PlainState.answers v.hard requests p).1 ∧
      v.Represents (v.answers requests s).2 (PlainState.answers v.hard requests p).2 := by
  induction requests generalizing s p with
  | nil => exact ⟨.nil, hs⟩
  | cons request later ih =>
    obtain ⟨hreply, hstate⟩ := v.refines_serve hv request s p hs
    obtain ⟨hreplies, hfinal⟩ := ih hstate
    exact ⟨.cons hreply hreplies, hfinal⟩

end Memory

/-- The store holds one entry for each present key. -/
theorem Represents.length_eq {v : Vault Entries} {s : VaultState Entries} {p : PlainState}
    (h : v.Represents s p) : s.store.length = p.map.keys.card := by
  obtain ⟨plain, hseals, hnodup, hlookup⟩ := h.seals
  have hkeys : p.map.keys = plain.keys.toFinset := by
    ext key
    rw [Finmap.mem_keys, ← Finmap.lookup_isSome, hlookup, List.mem_toFinset]
    exact mem_keys_iff.symm
  rw [hkeys, List.toFinset_card_of_nodup hnodup, hseals.length_eq]
  exact (List.length_map _).symm

/-- Over an empty store in memory, under the codec of any secret but the empty one, every sequence
of requests is answered as the plain map answers it; the store then holds the sealed map, one entry
for each present key. -/
theorem answers_eq_plain {secret : String} (hsecret : secret ≠ "") (policy : DecodePolicy)
    (hard : Bool) (requests : List VaultRequest) (entropy : Entropy) :
    ∃ codec, StorageCodec.ofSecret secret = .ok codec ∧
      let v : Vault Entries := ⟨.memory, codec.withPolicy policy, hard⟩
      let run := v.answers requests ⟨[], entropy⟩
      let plain := PlainState.answers hard requests ⟨∅, entropy.length⟩
      List.Forall₂ (Agrees VaultReply.Matches) run.1 plain.1 ∧ v.Represents run.2 plain.2 ∧
        run.2.store.length = plain.2.map.keys.card := by
  obtain ⟨key, hkey⟩ := CipherKey.exists_forStorage hsecret
  have hcodec : StorageCodec.ofSecret secret = .ok ⟨key, .strict⟩ := by
    unfold StorageCodec.ofSecret
    rw [hkey]
    rfl
  refine ⟨_, hcodec, ?_⟩
  intro v run plain
  have hempty : v.Represents ⟨[], entropy⟩ ⟨∅, entropy.length⟩ :=
    ⟨⟨[], .nil, .nil, fun _ => Finmap.lookup_empty _⟩, rfl⟩
  obtain ⟨hreplies, hstate⟩ := v.answers_agree rfl requests hempty
  exact ⟨hreplies, hstate, hstate.length_eq⟩

/-- The vault of a one-letter secret, asked to set a value, to read it and to list its keys. -/
theorem answers_eq_plain_single : "s" ≠ "" ∧
    ∃ codec, StorageCodec.ofSecret "s" = .ok codec ∧
      let v : Vault Entries := ⟨.memory, codec.withPolicy .strict, false⟩
      let requests := [.set "k" "v", .get "k", .keys]
      let run := v.answers requests ⟨[], []⟩
      let plain := PlainState.answers false requests ⟨∅, 0⟩
      List.Forall₂ (Agrees VaultReply.Matches) run.1 plain.1 ∧ v.Represents run.2 plain.2 ∧
        run.2.store.length = plain.2.map.keys.card :=
  ⟨by decide, answers_eq_plain (by decide) .strict false [.set "k" "v", .get "k", .keys] []⟩

end Vault

end DeviceSecurity
