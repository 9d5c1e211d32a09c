import DeviceSecurity.Proofs.Entropy.Use
import DeviceSecurity.Proofs.Storage.Atomicity
import DeviceSecurity.Proofs.Storage.Item

/-!
# Entropy of a vault

A vault uses entropy for the values that it seals, and for nothing else. An entry is written in
three steps (`Vault.Writes`): its key is sealed, without entropy, then its value, and then both go
to the store. Requests that read or remove leave the entropy alone, and so does a merge that is
refused before it writes (`Vault.Takes`); a request for several items uses what its items use, one
after the other, up to the first that fails (`Vault.exists_takesAll`).
-/

namespace DeviceSecurity

/-! ## Actions -/

namespace VaultAction

variable {σ α : Type}

theorem fixes_entropy_ofResult (r : Except Error α) :
    Fixes VaultState.entropy (ofResult r : VaultAction σ α) :=
  fun _ => rfl

theorem fixes_entropy_onStore (f : σ → Except Error α × σ) :
    Fixes VaultState.entropy (onStore f) :=
  fun _ => rfl

end VaultAction

/-- Requests that write entries. -/
def VaultRequest.IsWrite : VaultRequest → Prop
  | .set .. | .merge .. | .multiSet _ | .multiMerge _ => True
  | .get _ | .remove _ | .keys | .multiGet _ | .multiRemove _ | .clear => False

namespace Vault

open VaultAction

variable {σ : Type} {v : Vault σ}

/-! ## Reading and removing -/

theorem fixes_entropy_get (key : String) : Fixes VaultState.entropy (v.get key) := by
  refine (fixes_entropy_ofResult _).bind fun sealedKey => ?_
  refine (fixes_entropy_onStore _).bind fun stored => ?_
  cases stored with
  | none => exact fixes_entropy_ofResult (.ok none)
  | some sealedValue => exact (fixes_entropy_ofResult _).map some

theorem fixes_entropy_remove (key : String) : Fixes VaultState.entropy (v.remove key) := by
  refine (fixes_entropy_ofResult _).bind fun sealedKey => ?_
  exact (fixes_entropy_onStore _).bind fun _ => fixes_entropy_ofResult (.ok ())

theorem fixes_entropy_keys : Fixes VaultState.entropy v.keys :=
  (fixes_entropy_onStore _).bind fun _ => fixes_entropy_ofResult _

theorem fixes_entropy_multiGet (keys : List String) : Fixes VaultState.entropy (v.multiGet keys) :=
  Fixes.mapM
    (fun key => (fixes_entropy_get key).bind fun value => fixes_entropy_ofResult (.ok (key, value)))
    keys

/-! ## Writing -/

/-- How an entry is written, with the state that is left. A key or a value that is too long is not
sealed, and then nothing is stored. -/
inductive Writes (v : Vault σ) (s : VaultState σ) (key value : String) :
    List EntropyUse → VaultState σ → Prop
  | keyRefused {fault : Error} (hkey : v.codec.encodeKey key = .error fault) :
    Writes v s key value [] s
  | valueRefused {sealedKey : String} {fault : Error} {uses : List EntropyUse} {rest : Entropy}
    (hkey : v.codec.encodeKey key = .ok sealedKey)
    (h : (v.codec.context v.hard).Draws (Bytes.ofText value) s.entropy uses (.error fault, rest)) :
    Writes v s key value uses ⟨s.store, rest⟩
  | stored {sealedKey : String} {m : SealedMessage} {uses : List EntropyUse} {rest : Entropy}
    (hkey : v.codec.encodeKey key = .ok sealedKey)
    (h : (v.codec.context v.hard).Draws (Bytes.ofText value) s.entropy uses (.ok m, rest)) :
    Writes v s key value uses ⟨(v.backing.set sealedKey m.toBase64 s.store).2, rest⟩

theorem exists_writes (v : Vault σ) (s : VaultState σ) (key value : String) :
    ∃ uses, v.Writes s key value uses ((v.set key value).runOn s).2 := by
  rw [set, runOn_bind, runOn_onEntropy, StorageCodec.encodeEntry]
  cases hkey : v.codec.encodeKey key with
  | error fault => exact ⟨[], .keyRefused hkey⟩
  | ok sealedKey =>
    obtain ⟨uses, hdraws⟩ :=
      (v.codec.context v.hard).exists_draws (Bytes.ofText value) s.entropy
    rw [StorageCodec.encryptValue, SealContext.sealText_eq]
    rcases hseal : (v.codec.context v.hard).sealBytes (Bytes.ofText value) s.entropy
      with ⟨fault | m, rest⟩ <;> rw [hseal] at hdraws
    · exact ⟨uses, .valueRefused hkey hdraws⟩
    · exact ⟨uses, .stored hkey hdraws⟩

theorem Writes.spends {s s' : VaultState σ} {key value : String} {uses : List EntropyUse}
    (h : v.Writes s key value uses s') : s.entropy.Spends uses s'.entropy := by
  cases h with
  | keyRefused => exact .nil s.entropy
  | valueRefused hkey h => exact h.spends
  | stored hkey h => exact h.spends

/-! ## Requests -/

/-- What a request for one item uses, with the state that is left. A merge uses nothing if the entry
is not read or if one of the texts is no JSON object; else it writes the merged text. -/
inductive Takes (v : Vault σ) (s : VaultState σ) :
    VaultRequest → List EntropyUse → VaultState σ → Prop
  | spare {request : VaultRequest} (h : ¬ request.IsWrite) (store : σ) :
    Takes v s request [] ⟨store, s.entropy⟩
  | set {key value : String} {uses : List EntropyUse} {s' : VaultState σ}
    (h : v.Writes s key value uses s') : Takes v s (.set key value) uses s'
  | mergeUnread {key patch : String} {fault : Error} {store : σ}
    (hget : (v.get key).runOn s = (.error fault, ⟨store, s.entropy⟩)) :
    Takes v s (.merge key patch) [] ⟨store, s.entropy⟩
  | mergeRefused {key patch : String} {stored : Option String} {fault : Error} {store : σ}
    (hget : (v.get key).runOn s = (.ok stored, ⟨store, s.entropy⟩))
    (hmerge : mergedText stored patch = .error fault) :
    Takes v s (.merge key patch) [] ⟨store, s.entropy⟩
  | merge {key patch merged : String} {stored : Option String} {store : σ}
    {uses : List EntropyUse} {s' : VaultState σ}
    (hget : (v.get key).runOn s = (.ok stored, ⟨store, s.entropy⟩))
    (hmerge : mergedText stored patch = .ok merged)
    (h : v.Writes ⟨store, s.entropy⟩ key merged uses s') : Takes v s (.merge key patch) uses s'

/-- What requests use that are served until one fails, with the state that is left. -/
inductive TakesAll (v : Vault σ) :
    VaultState σ → List VaultRequest → List EntropyUse → VaultState σ → Prop
  | nil (s : VaultState σ) : TakesAll v s [] [] s
  | cons {s s₁ s' : VaultState σ} {item : VaultRequest} {items : List VaultRequest}
    {reply : VaultReply (List String)} {uses later : List EntropyUse}
    (hreply : (v.serve item).runOn s = (.ok reply, s₁)) (h : v.Takes s item uses s₁)
    (hlater : TakesAll v s₁ items later s') : TakesAll v s (item :: items) (uses ++ later) s'
  | failed {s s' : VaultState σ} {item : VaultRequest} {items : List VaultRequest} {fault : Error}
    {uses : List EntropyUse} (hfault : (v.serve item).runOn s = (.error fault, s'))
    (h : v.Takes s item uses s') : TakesAll v s (item :: items) uses s'

/-- A merge reads, decides on the text, and writes it. -/
theorem exists_takes_merge (v : Vault σ) (s : VaultState σ) (key patch : String) :
    ∃ uses, v.Takes s (.merge key patch) uses ((v.merge key patch).runOn s).2 := by
  -- The read may have moved the store, but it has left the entropy.
  have hspare := fixes_entropy_get (v := v) key s
  rw [merge_eq, runOn_bind]
  rcases hget : (v.get key).runOn s with ⟨fault | stored, store, entropy⟩ <;>
    rw [hget] at hspare <;> obtain rfl : entropy = s.entropy := hspare
  · exact ⟨[], .mergeUnread hget⟩
  · dsimp only
    rw [runOn_bind, runOn_ofResult]
    cases hmerge : mergedText stored patch with
    | error fault => exact ⟨[], .mergeRefused hget hmerge⟩
    | ok merged =>
      obtain ⟨uses, hwrites⟩ := v.exists_writes ⟨store, s.entropy⟩ key merged
      exact ⟨uses, .merge hget hmerge hwrites⟩

/-- What a request leaves that does not write. -/
theorem takes_of_fixes {a : VaultAction σ (VaultReply (List String))} {request : VaultRequest}
    (hrequest : ¬ request.IsWrite) (h : Fixes VaultState.entropy a) (s : VaultState σ) :
    v.Takes s request [] (a.runOn s).2 := by
  have hstate : (a.runOn s).2 = ⟨(a.runOn s).2.store, s.entropy⟩ := by rw [← h s]
  rw [hstate]
  exact .spare hrequest _

theorem exists_takes {item : VaultRequest} (hitem : item.items = [item]) (s : VaultState σ) :
    ∃ uses, v.Takes s item uses ((v.serve item).runOn s).2 := by
  cases item with
  | set key value =>
    obtain ⟨uses, hwrites⟩ := v.exists_writes s key value
    rw [serve, runOn_map]
    exact ⟨uses, .set hwrites⟩
  | merge key patch =>
    rw [serve, runOn_map]
    exact v.exists_takes_merge s key patch
  | get key => exact ⟨[], takes_of_fixes id ((fixes_entropy_get key).map _) s⟩
  | remove key => exact ⟨[], takes_of_fixes id ((fixes_entropy_remove key).map _) s⟩
  | keys => exact ⟨[], takes_of_fixes id (fixes_entropy_keys.map _) s⟩
  | multiGet keys => exact ⟨[], takes_of_fixes id ((fixes_entropy_multiGet keys).map _) s⟩
  | clear => exact ⟨[], takes_of_fixes id ((fixes_entropy_onStore _).map _) s⟩
  | multiSet entries => cases entries <;> cases hitem
  | multiMerge entries => cases entries <;> cases hitem
  | multiRemove keys => cases keys <;> cases hitem

section Items

variable {ι : Type} {f : ι → VaultAction σ Unit} {item : ι → VaultRequest}
  (hitem : ∀ i, v.serve (item i) = (fun _ => .done) <$> f i)

include hitem

theorem exists_takesAll_items (hsingle : ∀ i, (item i).items = [item i]) (l : List ι)
    (s : VaultState σ) :
    ∃ uses, v.TakesAll s (l.map item) uses ((l.forM f).runOn s).2 := by
  induction l generalizing s with
  | nil => exact ⟨[], .nil s⟩
  | cons i l ih =>
    obtain ⟨uses, htakes⟩ := exists_takes (v := v) (hsingle i) s
    have hserve := runOn_serve_item hitem i s
    rw [hserve] at htakes
    rw [List.map_cons, runOn_forM_cons]
    rcases hfirst : (f i).runOn s with ⟨fault | x, s₁⟩ <;> rw [hfirst] at hserve htakes
    · exact ⟨uses, .failed hserve htakes⟩
    · obtain ⟨later, hlater⟩ := ih s₁
      exact ⟨uses ++ later, .cons hserve htakes hlater⟩

end Items

/-- Whatever a vault is asked for, the items of the request use the entropy in turn. -/
theorem exists_takesAll (v : Vault σ) (s : VaultState σ) (request : VaultRequest) :
    ∃ uses, v.TakesAll s request.items uses ((v.serve request).runOn s).2 := by
  have hone : request.items = [request] →
      ∃ uses, v.TakesAll s request.items uses ((v.serve request).runOn s).2 := by
    intro hsingle
    obtain ⟨uses, htakes⟩ := exists_takes (v := v) hsingle s
    rw [hsingle]
    rcases hserve : (v.serve request).runOn s with ⟨fault | reply, s'⟩ <;> rw [hserve] at htakes
    · exact ⟨uses, .failed hserve htakes⟩
    · exact ⟨uses ++ [], .cons hserve htakes (.nil s')⟩
  cases request with
  | multiSet entries =>
    rw [serve, runOn_map]
    exact exists_takesAll_items (fun _ => rfl) (fun _ => rfl) entries s
  | multiMerge entries =>
    rw [serve, runOn_map]
    exact exists_takesAll_items (fun _ => rfl) (fun _ => rfl) entries s
  | multiRemove keys =>
    rw [serve, runOn_map]
    exact exists_takesAll_items (fun _ => rfl) (fun _ => rfl) keys s
  | _ => exact hone rfl

theorem Takes.spends {s s' : VaultState σ} {request : VaultRequest} {uses : List EntropyUse}
    (h : v.Takes s request uses s') : s.entropy.Spends uses s'.entropy := by
  cases h with
  | spare | mergeUnread | mergeRefused => exact .nil s.entropy
  | set h => exact h.spends
  | merge hget hmerge h => exact h.spends

theorem TakesAll.spends {s s' : VaultState σ} {requests : List VaultRequest}
    {uses : List EntropyUse} (h : v.TakesAll s requests uses s') :
    s.entropy.Spends uses s'.entropy := by
  induction h with
  | nil s => exact .nil s.entropy
  | cons _ h _ ih => exact h.spends.append ih
  | failed _ h => exact h.spends

end Vault

end DeviceSecurity
