import DeviceSecurity.Proofs.Storage.Item
import DeviceSecurity.Proofs.Storage.PlainMap
import DeviceSecurity.Proofs.Text.Encoding

/-!
# The fallback extends strict decoding

A codec that falls back gives what strict decoding gives and, where that fails, the stored text
(`StorageCodec.decryptValue_legacy`). Nothing is assumed of the store or of what it holds. Every
request that a strict vault answers is answered alike by the vault that falls back
(`Vault.serve_extendedBy`); what that one reads fails with the store only, or for a key that is too
long to be sealed (`Vault.ReadFails`). Requests that look at no stored text are the same under both
policies. A merge differs where the strict one fails for the text that it finds: it goes on with
that text as it stands (`Vault.Unreadable.runOn_merge`), and a sequence of merges then goes on with
the later ones. All is stated together in `Vault.legacy_extends_strict`. Neither the keys that are
too long nor the merges that the strict vault leaves out come from a text that does not open
(`Vault.legacy_limits`).
-/

namespace DeviceSecurity

/-! ## Stored texts -/

namespace StorageCodec

variable {c : StorageCodec} {stored : String} {hard : Bool}

/-- What the fallback makes of a stored text: what it holds or else the text itself. -/
def reveal (c : StorageCodec) (hard : Bool) (stored : String) : String :=
  match (c.context hard).openText stored with
  | .ok plain => plain
  | .error _ => stored

theorem decryptValue_strict (c : StorageCodec) (stored : String) (hard : Bool) :
    (c.withPolicy .strict).decryptValue stored hard = (c.context hard).openText stored := by
  have hcontext : (c.withPolicy .strict).context hard = c.context hard := rfl
  unfold decryptValue
  rw [hcontext]
  cases (c.context hard).openText stored <;> rfl

/-- Under the fallback every stored text is revealed. -/
theorem decryptValue_legacy (c : StorageCodec) (stored : String) (hard : Bool) :
    (c.withPolicy .legacyFallback).decryptValue stored hard = .ok (c.reveal hard stored) := by
  have hcontext : (c.withPolicy .legacyFallback).context hard = c.context hard := rfl
  unfold decryptValue reveal
  rw [hcontext]
  cases (c.context hard).openText stored <;> rfl

/-- So is every key that a store gives. -/
theorem decodeKey_eq_reveal (c : StorageCodec) : (c.withPolicy .legacyFallback).decodeKey =
    fun stored => pure (c.reveal false stored) :=
  funext fun stored => c.decryptValue_legacy stored false

theorem reveal_of_ok {plain : String}
    (h : (c.withPolicy .strict).decryptValue stored hard = .ok plain) :
    c.reveal hard stored = plain := by
  rw [decryptValue_strict] at h
  rw [reveal, h]

theorem reveal_of_error {fault : Error}
    (h : (c.withPolicy .strict).decryptValue stored hard = .error fault) :
    c.reveal hard stored = stored := by
  rw [decryptValue_strict] at h
  rw [reveal, h]

end StorageCodec

/-! ## Actions -/

namespace VaultAction

variable {σ α β : Type}

/-- Where the first action succeeds the second does the same. -/
def ExtendedBy (a b : VaultAction σ α) : Prop :=
  ∀ s x s', a.runOn s = (.ok x, s') → b.runOn s = (.ok x, s')

namespace ExtendedBy

variable {a b : VaultAction σ α} {f g : α → VaultAction σ β}

theorem refl (a : VaultAction σ α) : a.ExtendedBy a := fun _ _ _ h => h

theorem bind (hab : a.ExtendedBy b) (hfg : ∀ x, (f x).ExtendedBy (g x)) :
    (a >>= f).ExtendedBy (b >>= g) := by
  intro s y s' h
  obtain ⟨x, t, ha, hf⟩ := runOn_bind_eq_ok.mp h
  exact runOn_bind_eq_ok.mpr ⟨x, t, hab s x t ha, hfg x t y s' hf⟩

theorem map (h : a.ExtendedBy b) (p : α → β) : (p <$> a).ExtendedBy (p <$> b) := by
  rw [← bind_pure_comp, ← bind_pure_comp]
  exact h.bind fun _ => refl _

theorem ofResult {r t : Except Error α} (h : ∀ x, r = .ok x → t = .ok x) :
    (VaultAction.ofResult r : VaultAction σ α).ExtendedBy (VaultAction.ofResult t) := by
  intro s x s' hrun
  obtain ⟨hr, rfl⟩ := runOn_ofResult_eq_ok.mp hrun
  exact runOn_ofResult_eq_ok.mpr ⟨h x hr, rfl⟩

theorem mapM {ι : Type} {f g : ι → VaultAction σ α} (h : ∀ i, (f i).ExtendedBy (g i))
    (l : List ι) : (l.mapM f).ExtendedBy (l.mapM g) := by
  induction l with
  | nil => exact refl _
  | cons i l ih =>
    rw [List.mapM_cons, List.mapM_cons]
    exact (h i).bind fun x => ih.bind fun xs => refl _

theorem forM {ι : Type} {f g : ι → VaultAction σ Unit} (h : ∀ i, (f i).ExtendedBy (g i))
    (l : List ι) : (l.forM f).ExtendedBy (l.forM g) := by
  induction l with
  | nil => exact refl _
  | cons i l ih => exact (h i).bind fun _ => ih

end ExtendedBy

end VaultAction

/-! ## Vaults -/

/-- Requests that look at no stored text. -/
def VaultRequest.IsBlind : VaultRequest → Prop
  | .set .. | .remove _ | .multiSet _ | .multiRemove _ | .clear => True
  | .get _ | .merge .. | .keys | .multiGet _ | .multiMerge _ => False

namespace Vault

open VaultAction

variable {σ : Type} {v : Vault σ} {s s' : VaultState σ} {key patch : String} {fault : Error}

/-- The vault under another policy. -/
def withPolicy (v : Vault σ) (policy : DecodePolicy) : Vault σ :=
  { v with codec := v.codec.withPolicy policy }

@[simp] theorem codec_withPolicy (v : Vault σ) (policy : DecodePolicy) :
    (v.withPolicy policy).codec = v.codec.withPolicy policy := rfl

@[simp] theorem backing_withPolicy (v : Vault σ) (policy : DecodePolicy) :
    (v.withPolicy policy).backing = v.backing := rfl

/-! ### Requests that look at no stored text -/

theorem set_withPolicy (v : Vault σ) (policy : DecodePolicy) (key value : String) :
    (v.withPolicy policy).set key value = v.set key value := rfl

theorem remove_withPolicy (v : Vault σ) (policy : DecodePolicy) (key : String) :
    (v.withPolicy policy).remove key = v.remove key := rfl

/-- Requests that look at no stored text do the same under every policy. -/
theorem serve_withPolicy {request : VaultRequest} (h : request.IsBlind) (v : Vault σ)
    (policy : DecodePolicy) : (v.withPolicy policy).serve request = v.serve request := by
  cases request with
  | set key value => rw [serve, set_withPolicy, serve]
  | remove key => rw [serve, remove_withPolicy, serve]
  | multiSet entries => simp only [serve, multiSet, set_withPolicy]
  | multiRemove keys =>
    have hremove : (v.withPolicy policy).remove = v.remove := funext (v.remove_withPolicy policy)
    rw [serve, serve, multiRemove, multiRemove, hremove]
  | clear => rw [serve, serve, clear, clear, backing_withPolicy]
  | _ => exact h.elim

/-! ### Where strict decoding succeeds -/

theorem get_extendedBy (v : Vault σ) (key : String) :
    ((v.withPolicy .strict).get key).ExtendedBy ((v.withPolicy .legacyFallback).get key) := by
  refine (ExtendedBy.refl _).bind fun sealedKey => ?_
  refine (ExtendedBy.refl _).bind fun found => ?_
  cases found with
  | none => exact ExtendedBy.refl _
  | some sealedValue =>
    refine (ExtendedBy.ofResult fun plain hplain => ?_).map some
    rw [codec_withPolicy, StorageCodec.decryptValue_legacy]
    exact congrArg Except.ok (StorageCodec.reveal_of_ok hplain)

theorem merge_extendedBy (v : Vault σ) (key patch : String) :
    ((v.withPolicy .strict).merge key patch).ExtendedBy
      ((v.withPolicy .legacyFallback).merge key patch) :=
  (v.get_extendedBy key).bind fun _ => ExtendedBy.refl _

theorem keys_extendedBy (v : Vault σ) :
    (v.withPolicy .strict).keys.ExtendedBy (v.withPolicy .legacyFallback).keys := by
  refine (ExtendedBy.refl _).bind fun sealedKeys => ExtendedBy.ofResult fun keys hkeys => ?_
  refine mapM_eq_ok_of_imp (fun stored key hkey => ?_) hkeys
  rw [codec_withPolicy, StorageCodec.decodeKey_eq_reveal]
  exact congrArg Except.ok (StorageCodec.reveal_of_ok hkey)

theorem multiGet_extendedBy (v : Vault σ) (keys : List String) :
    ((v.withPolicy .strict).multiGet keys).ExtendedBy
      ((v.withPolicy .legacyFallback).multiGet keys) := by
  refine ExtendedBy.mapM (fun key => ?_) keys
  exact (v.get_extendedBy key).bind fun _ => ExtendedBy.refl _

theorem multiMerge_extendedBy (v : Vault σ) (entries : List (String × String)) :
    ((v.withPolicy .strict).multiMerge entries).ExtendedBy
      ((v.withPolicy .legacyFallback).multiMerge entries) := by
  refine ExtendedBy.forM (fun e => ?_) entries
  exact v.merge_extendedBy e.1 e.2

/-- What a strict vault answers the one that falls back answers alike, and leaves the same state. -/
theorem serve_extendedBy (v : Vault σ) (request : VaultRequest) :
    ((v.withPolicy .strict).serve request).ExtendedBy
      ((v.withPolicy .legacyFallback).serve request) := by
  have hblind : request.IsBlind → ((v.withPolicy .strict).serve request).ExtendedBy
      ((v.withPolicy .legacyFallback).serve request) := by
    intro h
    rw [serve_withPolicy h, serve_withPolicy h]
    exact ExtendedBy.refl _
  cases request with
  | get key => exact (v.get_extendedBy key).map _
  | merge key patch => exact (v.merge_extendedBy key patch).map _
  | keys => exact v.keys_extendedBy.map _
  | multiGet keys => exact (v.multiGet_extendedBy keys).map _
  | multiMerge entries => exact (v.multiMerge_extendedBy entries).map _
  | _ => exact hblind trivial

/-! ### Reading under the fallback -/

/-- The reasons not to read a key under the fallback: the key is too long to be sealed, or the store
fails to look its sealed form up. -/
inductive ReadFails (v : Vault σ) (key : String) (s : VaultState σ) :
    Error → VaultState σ → Prop
  | tooLong (h : Text.isTooLong key = true) : ReadFails v key s SealContext.sealFailure s
  | store {sealedKey : String} {fault : Error} {store : σ}
    (hkey : v.codec.encodeKey key = .ok sealedKey)
    (h : v.backing.get sealedKey s.store = (.error fault, store)) :
    ReadFails v key s fault ⟨store, s.entropy⟩

/-- Policies differ in what they make of a text that is found. -/
theorem runOn_get_withPolicy (v : Vault σ) (policy : DecodePolicy) (key : String)
    (s : VaultState σ) : ((v.withPolicy policy).get key).runOn s =
      match v.codec.encodeKey key with
      | .error fault => (.error fault, s)
      | .ok sealedKey =>
        match v.backing.get sealedKey s.store with
        | (.error fault, store) => (.error fault, ⟨store, s.entropy⟩)
        | (.ok none, store) => (.ok none, ⟨store, s.entropy⟩)
        | (.ok (some stored), store) =>
          (some <$> (v.codec.withPolicy policy).decryptValue stored v.hard, ⟨store, s.entropy⟩) :=
  (v.withPolicy policy).runOn_get key s

/-- Under the fallback a text that is found is revealed. -/
theorem runOn_get_legacy (v : Vault σ) (key : String) (s : VaultState σ) :
    ((v.withPolicy .legacyFallback).get key).runOn s =
      match v.codec.encodeKey key with
      | .error fault => (.error fault, s)
      | .ok sealedKey =>
        (Option.map (v.codec.reveal v.hard) <$> (v.backing.get sealedKey s.store).1,
          ⟨(v.backing.get sealedKey s.store).2, s.entropy⟩) := by
  rw [runOn_get_withPolicy]
  cases v.codec.encodeKey key with
  | error fault => rfl
  | ok sealedKey =>
    dsimp only
    rcases v.backing.get sealedKey s.store with ⟨fault | _ | stored, store⟩
    · rfl
    · rfl
    · dsimp only
      rw [StorageCodec.decryptValue_legacy]
      rfl

/-- Under the fallback all keys that the store gives are revealed. -/
theorem runOn_keys_legacy (v : Vault σ) (s : VaultState σ) :
    (v.withPolicy .legacyFallback).keys.runOn s =
      (List.map (v.codec.reveal false) <$> (v.backing.keys s.store).1,
        ⟨(v.backing.keys s.store).2, s.entropy⟩) := by
  unfold keys
  rw [runOn_bind, runOn_onStore, backing_withPolicy]
  rcases v.backing.keys s.store with ⟨fault | sealedKeys, store⟩
  · rfl
  · dsimp only
    rw [runOn_ofResult, codec_withPolicy, StorageCodec.decodeKey_eq_reveal, List.mapM_pure]
    rfl

theorem readFails_of_get
    (h : ((v.withPolicy .legacyFallback).get key).runOn s = (.error fault, s')) :
    v.ReadFails key s fault s' := by
  have hsealed := v.codec.encodeKey_eq key
  rw [runOn_get_legacy] at h
  cases hkey : v.codec.encodeKey key with
  | error reason =>
    rw [hkey] at h hsealed
    obtain ⟨⟨⟩, rfl⟩ := Prod.mk.inj h
    split at hsealed
    · next hlong =>
      obtain rfl := Except.error.inj hsealed
      exact .tooLong hlong
    · obtain ⟨_, ⟨⟩⟩ := hsealed
  | ok sealedKey =>
    rw [hkey] at h
    obtain ⟨hfault, rfl⟩ := Prod.mk.inj h
    exact .store hkey (Prod.ext (map_eq_error.mp hfault) rfl)

/-- Reading several keys stops at the first that is not read. -/
theorem exists_cut_of_multiGet {keys : List String}
    (h : ((v.withPolicy .legacyFallback).multiGet keys).runOn s = (.error fault, s')) :
    ∃ done key later values t, keys = done ++ key :: later ∧
      ((v.withPolicy .legacyFallback).multiGet done).runOn s = (.ok values, t) ∧
      v.ReadFails key t fault s' := by
  obtain ⟨done, key, later, values, t, hkeys, hdone, hkey⟩ := exists_cut_of_mapM h
  rcases runOn_bind_eq_error.mp hkey with hget | ⟨_, _, -, ⟨⟩⟩
  exact ⟨done, key, later, values, t, hkeys, hdone, readFails_of_get hget⟩

theorem fails_of_keys (h : (v.withPolicy .legacyFallback).keys.runOn s = (.error fault, s')) :
    v.backing.keys s.store = (.error fault, s'.store) ∧ s'.entropy = s.entropy := by
  rw [runOn_keys_legacy] at h
  obtain ⟨hfault, rfl⟩ := Prod.mk.inj h
  exact ⟨Prod.ext (map_eq_error.mp hfault) rfl, rfl⟩

/-! ### Merging under the fallback -/

/-- The store holds a text under the key that strict decoding does not open. -/
inductive Unreadable (v : Vault σ) (key : String) (s : VaultState σ) (stored : String)
    (fault : Error) : VaultState σ → Prop
  | found {sealedKey : String} {store : σ} (hkey : v.codec.encodeKey key = .ok sealedKey)
    (hget : v.backing.get sealedKey s.store = (.ok (some stored), store))
    (hopen : (v.codec.withPolicy .strict).decryptValue stored v.hard = .error fault) :
    Unreadable v key s stored fault ⟨store, s.entropy⟩

theorem Unreadable.runOn_get {stored : String} (h : v.Unreadable key s stored fault s') :
    ((v.withPolicy .strict).get key).runOn s = (.error fault, s') ∧
      ((v.withPolicy .legacyFallback).get key).runOn s = (.ok (some stored), s') := by
  obtain ⟨hkey, hget, hopen⟩ := h
  have hreveal := v.codec.decryptValue_legacy stored v.hard
  rw [StorageCodec.reveal_of_error hopen] at hreveal
  constructor
  · simp only [runOn_get_withPolicy, hkey, hget, hopen, error_map]
  · simp only [runOn_get_withPolicy, hkey, hget, hreveal, ok_map]

/-- Where there is no such text a key is read alike under both policies. -/
theorem runOn_get_eq_or_unreadable (v : Vault σ) (key : String) (s : VaultState σ) :
    ((v.withPolicy .legacyFallback).get key).runOn s =
        ((v.withPolicy .strict).get key).runOn s ∨
      ∃ stored fault s', v.Unreadable key s stored fault s' := by
  rw [runOn_get_withPolicy, runOn_get_withPolicy]
  cases hkey : v.codec.encodeKey key with
  | error fault => exact .inl rfl
  | ok sealedKey =>
    dsimp only
    rcases hget : v.backing.get sealedKey s.store with ⟨fault | _ | stored, store⟩
    · exact .inl rfl
    · exact .inl rfl
    · cases hopen : (v.codec.withPolicy .strict).decryptValue stored v.hard with
      | error fault => exact .inr ⟨stored, fault, _, .found hkey hget hopen⟩
      | ok plain =>
        refine .inl ?_
        dsimp only
        rw [StorageCodec.decryptValue_legacy, StorageCodec.reveal_of_ok hopen, hopen]

/-- A merge that strict decoding refuses for the text that it finds goes on with that text. -/
theorem Unreadable.runOn_merge {stored : String} (h : v.Unreadable key s stored fault s')
    (patch : String) : ((v.withPolicy .strict).merge key patch).runOn s = (.error fault, s') ∧
      ((v.withPolicy .legacyFallback).merge key patch).runOn s =
        (ofResult (Storage.mergeText stored patch) >>= v.set key).runOn s' := by
  obtain ⟨hstrict, hlegacy⟩ := h.runOn_get
  constructor
  · rw [merge_eq, runOn_bind, hstrict]
  · rw [merge_eq, runOn_bind, hlegacy]
    rfl

/-- All other merges are the same under both policies. -/
theorem runOn_merge_eq_or_unreadable (v : Vault σ) (key patch : String) (s : VaultState σ) :
    ((v.withPolicy .legacyFallback).merge key patch).runOn s =
        ((v.withPolicy .strict).merge key patch).runOn s ∨
      ∃ stored fault s', v.Unreadable key s stored fault s' := by
  refine (v.runOn_get_eq_or_unreadable key s).imp_left fun h => ?_
  rw [merge_eq, merge_eq, runOn_bind, runOn_bind, h]
  rfl

/-- Where the two policies part in a sequence of merges: those before some entry are done alike, and
for this one strict decoding does not open the text that it finds. The strict vault stops there,
while the other one merges into the text as it stands and goes on. -/
inductive Parts (v : Vault σ) (entries : List (String × String)) (s : VaultState σ) : Prop
  | at (done later : List (String × String)) (key patch stored : String) (fault : Error)
    (t t' : VaultState σ) (hentries : entries = done ++ (key, patch) :: later)
    (hdone : ((v.withPolicy .strict).multiMerge done).runOn s = (.ok (), t))
    (hunreadable : v.Unreadable key t stored fault t')
    (hstrict : ((v.withPolicy .strict).multiMerge entries).runOn s = (.error fault, t'))
    (hlegacy : ((v.withPolicy .legacyFallback).multiMerge entries).runOn s =
      ((ofResult (Storage.mergeText stored patch) >>= v.set key) >>= fun _ =>
        (v.withPolicy .legacyFallback).multiMerge later).runOn t')

theorem runOn_multiMerge_eq_or_parts (v : Vault σ) (entries : List (String × String))
    (s : VaultState σ) :
    ((v.withPolicy .legacyFallback).multiMerge entries).runOn s =
        ((v.withPolicy .strict).multiMerge entries).runOn s ∨ v.Parts entries s := by
  induction entries generalizing s with
  | nil => exact .inl (by rw [multiMerge_nil, multiMerge_nil])
  | cons e entries ih =>
    obtain ⟨key, patch⟩ := e
    rcases v.runOn_merge_eq_or_unreadable key patch s with hsame | ⟨stored, fault, t, h⟩
    · rcases hmerge : ((v.withPolicy .strict).merge key patch).runOn s with ⟨fault | _, t⟩ <;>
        rw [hmerge] at hsame
      · refine .inl ?_
        rw [multiMerge_cons, multiMerge_cons, runOn_bind, runOn_bind, hsame, hmerge]
      · rcases ih t with hrest | ⟨done, later, k, p, stored, fault, u, u', rfl, hdone, h, hs, hl⟩
        · refine .inl ?_
          rw [multiMerge_cons, multiMerge_cons, runOn_bind, runOn_bind, hsame, hmerge]
          exact hrest
        · refine .inr (.at ((key, patch) :: done) later k p stored fault u u' rfl ?_ h ?_ ?_)
          · exact runOn_bind_eq_ok.mpr ⟨(), t, hmerge, hdone⟩
          · rw [multiMerge_cons, runOn_bind, hmerge]
            exact hs
          · rw [multiMerge_cons, runOn_bind, hsame]
            exact hl
    · obtain ⟨hstrict, hlegacy⟩ := h.runOn_merge patch
      refine .inr (.at [] entries key patch stored fault s t rfl rfl h ?_ ?_)
      · rw [multiMerge_cons, runOn_bind, hstrict]
      · rw [multiMerge_cons, runOn_bind, hlegacy]
        exact (runOn_bind _ _ t).symm

/-- The fallback extends strict decoding, for every store, content, codec and mode. Decoding never
fails under it: it gives what strict decoding gives and, where that fails, the stored text itself.
What the strict vault answers to a request the other one answers alike, in the same state. Reading a
key, several keys or all keys fails only where the store does, or for a key that is too long to be
sealed under either policy. Requests that look at no stored text are one and the same action. A
merge is the same in every state but one in which strict decoding does not open the text under the
key: there it goes on with this text, which is merged or refused as it stands; and so it is with the
first such merge of several. -/
theorem legacy_extends_strict (v : Vault σ) :
    let strict := v.withPolicy .strict
    let legacy := v.withPolicy .legacyFallback
    (∀ stored hard, ∃ text, legacy.codec.decryptValue stored hard = .ok text ∧
      (∀ plain, strict.codec.decryptValue stored hard = .ok plain → text = plain) ∧
      (∀ fault, strict.codec.decryptValue stored hard = .error fault → text = stored)) ∧
    (∀ request s reply s', (strict.serve request).runOn s = (.ok reply, s') →
      (legacy.serve request).runOn s = (.ok reply, s')) ∧
    (∀ key s fault s', (legacy.get key).runOn s = (.error fault, s') →
      v.ReadFails key s fault s') ∧
    (∀ keys s fault s', (legacy.multiGet keys).runOn s = (.error fault, s') →
      ∃ done key later values t, keys = done ++ key :: later ∧
        (legacy.multiGet done).runOn s = (.ok values, t) ∧ v.ReadFails key t fault s') ∧
    (∀ s fault s', legacy.keys.runOn s = (.error fault, s') →
      v.backing.keys s.store = (.error fault, s'.store) ∧ s'.entropy = s.entropy) ∧
    (∀ request : VaultRequest, request.IsBlind → legacy.serve request = strict.serve request) ∧
    (∀ key patch s, (legacy.merge key patch).runOn s = (strict.merge key patch).runOn s ∨
      ∃ stored fault t, v.Unreadable key s stored fault t ∧
        (strict.merge key patch).runOn s = (.error fault, t) ∧
        (legacy.merge key patch).runOn s =
          (ofResult (Storage.mergeText stored patch) >>= v.set key).runOn t) ∧
    ∀ entries s, (legacy.multiMerge entries).runOn s = (strict.multiMerge entries).runOn s ∨
      v.Parts entries s := by
  intro strict legacy
  refine ⟨fun stored hard => ?_, fun request => v.serve_extendedBy request,
    fun key s fault s' h => readFails_of_get h,
    fun keys s fault s' h => exists_cut_of_multiGet h, fun s fault s' h => fails_of_keys h,
    fun request h => ?_, fun key patch s => ?_, v.runOn_multiMerge_eq_or_parts⟩
  · exact ⟨_, v.codec.decryptValue_legacy stored hard, fun _ => StorageCodec.reveal_of_ok,
      fun _ => StorageCodec.reveal_of_error⟩
  · rw [serve_withPolicy h, serve_withPolicy h]
  · refine (v.runOn_merge_eq_or_unreadable key patch s).imp_right ?_
    rintro ⟨stored, fault, t, h⟩
    exact ⟨stored, fault, t, h, h.runOn_merge patch⟩

/-- A key that is too long to be sealed is read under neither policy. -/
theorem runOn_get_of_isTooLong (v : Vault σ) (policy : DecodePolicy) (s : VaultState σ)
    (h : Text.isTooLong key = true) :
    ((v.withPolicy policy).get key).runOn s = (.error SealContext.sealFailure, s) := by
  have hsealed := v.codec.encodeKey_eq key
  rw [if_pos h] at hsealed
  rw [runOn_get_withPolicy, hsealed]

theorem isTooLong_replicate {n : Nat} (h : Gcm.maxLength < n) :
    Text.isTooLong (String.ofList (List.replicate n 'a')) = true := by
  have hascii : ∀ c ∈ (String.ofList (List.replicate n 'a')).toList, Text.IsAscii c := by
    intro c hc
    rw [String.toList_ofList] at hc
    rw [List.eq_of_mem_replicate hc]
    decide
  rw [Text.isTooLong, Bytes.length_ofText hascii, String.length_ofList, List.length_replicate]
  exact decide_eq_true h

/-- In memory, where the text under one key does not open, the strict vault leaves out a later
merge under a key without an item. The one that falls back makes it. -/
theorem later_merge_of_unreadable {v : Vault Entries} {s : VaultState Entries}
    {key later patch text stored merged sealedLater : String} (hmemory : v.backing = .memory)
    (hsoft : v.hard = false) (hfound : v.Unreadable key s stored fault s) (hne : later ≠ key)
    (hlater : v.codec.encodeKey later = .ok sealedLater)
    (hnone : Entries.get? s.store sealedLater = none)
    (hmerged : mergedText (some stored) patch = .ok merged) (hwritten : mergedText none text =
      .ok text) (hkeyShort : ¬Text.isTooLong key) (hlaterShort : ¬Text.isTooLong later)
    (hmergedShort : ¬Text.isTooLong merged) (htextShort : ¬Text.isTooLong text) :
    ((v.withPolicy .strict).get later).runOn s = (.ok none, s) ∧
      ((v.withPolicy .strict).multiMerge [(key, patch), (later, text)]).runOn s =
        (.error fault, s) ∧
      ∃ s', ((v.withPolicy .legacyFallback).multiMerge [(key, patch), (later, text)]).runOn s =
          (.ok (), s') ∧
        ((v.withPolicy .legacyFallback).get later).runOn s' = (.ok (some text), s') := by
  have hbacking : ∀ policy, (v.withPolicy policy).backing = .memory := fun _ => hmemory
  have hmissing : ∀ policy,
      (v.withPolicy policy).item (Entries.get? s.store) later = .ok none := by
    intro policy
    have hitem := (v.withPolicy policy).item_of_encodeKey hlater (Entries.get? s.store)
    rwa [hnone] at hitem
  have hstored : (v.withPolicy .legacyFallback).item (Entries.get? s.store) key =
      .ok (some stored) := by
    have hget := hfound.runOn_get.2
    rw [runOn_get_memory (hbacking _)] at hget
    exact (Prod.mk.inj hget).1
  have hmode : (v.withPolicy .legacyFallback).hard = false := hsoft
  obtain ⟨s', hrun, hitem, -⟩ := exists_runOn_multiMerge_memory (hbacking _) hmode hstored hmerged
    hkeyShort hmergedShort (.inr ⟨hne, hmissing _⟩) hwritten hlaterShort htextShort
  refine ⟨?_, ?_, s', hrun, ?_⟩
  · rw [runOn_get_memory (hbacking _), hmissing]
  · rw [multiMerge_cons, runOn_bind, (hfound.runOn_merge _).1]
  · rw [runOn_get_memory (hbacking _), hitem]

/-- In a store that never fails, a key of more than 2^36 bytes is not read under the fallback
either. And where the text under one key was never sealed, the strict vault leaves out a later merge
under another key, under which nothing is stored; the one that falls back makes it. -/
theorem legacy_limits :
    let v : Vault Entries := ⟨.memory, ⟨⟨List.replicate 16 7, by decide⟩, .strict⟩, false⟩
    let strict := v.withPolicy .strict
    let legacy := v.withPolicy .legacyFallback
    let entries := [("a", "\x7b\"y\":2\x7d"), ("b", "\x7b\"z\":3\x7d")]
    let fault := Error.malformedInput "invalid base64: Invalid symbol 123, offset 0."
    (∀ key s, v.backing.get key s = (.ok (s.get? key), s)) ∧
    (∀ s, (legacy.get (String.ofList (List.replicate 0x1000000001 'a'))).runOn s =
      (.error SealContext.sealFailure, s)) ∧
    ∃ sealedKey, v.codec.encodeKey "a" = .ok sealedKey ∧
      let s : VaultState Entries := ⟨[(sealedKey, "\x7b\"x\":1\x7d")], []⟩
      (strict.get "b").runOn s = (.ok none, s) ∧
      (strict.multiMerge entries).runOn s = (.error fault, s) ∧
      ∃ s', (legacy.multiMerge entries).runOn s = (.ok (), s') ∧
        (legacy.get "b").runOn s' = (.ok (some "\x7b\"z\":3\x7d"), s') := by
  intro v strict legacy entries fault
  have hlong := isTooLong_replicate (n := 0x1000000001) (by decide)
  refine ⟨fun _ _ => rfl, fun s => v.runOn_get_of_isTooLong _ s hlong, ?_⟩
  clear hlong
  have hshort : ¬Text.isTooLong "a" ∧ ¬Text.isTooLong "b" ∧
      ¬Text.isTooLong "\x7b\"x\":1,\"y\":2\x7d" ∧ ¬Text.isTooLong "\x7b\"z\":3\x7d" := by
    decide +kernel
  obtain ⟨ha, hb, hmergedShort, htextShort⟩ := hshort
  have hopen : strict.codec.decryptValue "\x7b\"x\":1\x7d" false = .error fault := by
    decide +kernel
  have hmerged : mergedText (some "\x7b\"x\":1\x7d") "\x7b\"y\":2\x7d" =
      .ok "\x7b\"x\":1,\"y\":2\x7d" := by decide +kernel
  have hwritten : mergedText none "\x7b\"z\":3\x7d" = .ok "\x7b\"z\":3\x7d" := by
    decide +kernel
  obtain ⟨sealedKey, hkey⟩ := v.codec.exists_encodeKey ha
  obtain ⟨sealedLater, hlater⟩ := v.codec.exists_encodeKey hb
  have hne : sealedLater ≠ sealedKey := by
    rintro rfl
    exact absurd (StorageCodec.encodeKey_injective hkey hlater) (by decide)
  refine ⟨sealedKey, hkey, ?_⟩
  intro s
  have hlook : v.backing.get sealedKey s.store = (.ok (some "\x7b\"x\":1\x7d"), s.store) := by
    simp [v, s, Backing.memory, Entries.get?]
  have hnone : Entries.get? s.store sealedLater = none := by
    simp [s, Entries.get?, hne]
  exact later_merge_of_unreadable rfl rfl (.found hkey hlook hopen) (by decide) hlater hnone hmerged
    hwritten ha hb hmergedShort htextShort

end Vault

end DeviceSecurity
