import DeviceSecurity.Proofs.Storage.Action
import DeviceSecurity.Proofs.Storage.PlainMap

/-!
# Vaults whose requests fail

What a failed request leaves in the store. Nothing is assumed of the store but that its operations
leave its content alone when they fail, and reading ones always (`Backing.KeepsOnFailure`); it may
fail at any time and hold anything. A request for one item reads first and writes last, and writes
once, so when it fails the content is as before. A request for several items stops at the first that
fails and leaves what the items before it made of the content (`Vault.kept_of_failure`).
-/

namespace DeviceSecurity

/-! ## Stores -/

namespace Backing

variable {σ κ : Type} {content : σ → κ} {b : Backing σ}

/-- The content of the store is changed by no operation that fails and by none that reads. -/
structure KeepsOnFailure (b : Backing σ) (content : σ → κ) : Prop where
  get : ∀ key s, content (b.get key s).2 = content s
  keys : ∀ s, content (b.keys s).2 = content s
  set : ∀ key value s fault s', b.set key value s = (.error fault, s') → content s' = content s
  remove : ∀ key s fault s', b.remove key s = (.error fault, s') → content s' = content s
  clear : ∀ s fault s', b.clear s = (.error fault, s') → content s' = content s

theorem keepsOnFailure_memory : memory.KeepsOnFailure id where
  get _ _ := rfl
  keys _ := rfl
  set _ _ _ _ _ h := by cases h
  remove _ _ _ _ h := by cases h
  clear _ _ _ h := by cases h

/-- An operation that fails when the next entry of a schedule says so, and then does nothing. -/
def interrupt {α : Type} (f : σ → Except Error α × σ) :
    σ × List Bool → Except Error α × σ × List Bool
  | (s, true :: schedule) => (.error (.internal "store interrupted"), s, schedule)
  | (s, schedule) => ((f s).1, (f s).2, schedule.tail)

/-- The store with a schedule of the times at which it fails. -/
def interrupted (b : Backing σ) : Backing (σ × List Bool) where
  get key := interrupt (b.get key)
  set key value := interrupt (b.set key value)
  remove key := interrupt (b.remove key)
  keys := interrupt b.keys
  clear := interrupt b.clear

section Interrupt

variable {α : Type} {f : σ → Except Error α × σ}

theorem interrupt_keeps (h : ∀ s, content (f s).2 = content s) (s : σ × List Bool) :
    content (interrupt f s).2.1 = content s.1 := by
  obtain ⟨s, _ | ⟨_ | _, schedule⟩⟩ := s
  · exact h s
  · exact h s
  · rfl

theorem interrupt_keepsOnFailure
    (h : ∀ s fault s', f s = (.error fault, s') → content s' = content s) (s : σ × List Bool)
    (fault : Error) (s' : σ × List Bool) (hrun : interrupt f s = (.error fault, s')) :
    content s'.1 = content s.1 := by
  have hfirst : ∀ s schedule, ((f s).1, (f s).2, schedule) = (Except.error fault, s') →
      content s'.1 = content s := by
    intro s schedule hs
    obtain ⟨hfault, rfl⟩ := Prod.mk.inj hs
    exact h s fault _ (Prod.ext hfault rfl)
  obtain ⟨s, _ | ⟨_ | _, schedule⟩⟩ := s
  · exact hfirst s _ hrun
  · exact hfirst s _ hrun
  · obtain ⟨-, rfl⟩ := Prod.mk.inj hrun
    rfl

end Interrupt

/-- A store that keeps its content on failure does so at whatever times it is made to fail. -/
theorem KeepsOnFailure.interrupted (h : b.KeepsOnFailure content) :
    b.interrupted.KeepsOnFailure fun s => content s.1 where
  get key := interrupt_keeps (h.get key)
  keys := interrupt_keeps h.keys
  set key value := interrupt_keepsOnFailure (h.set key value)
  remove key := interrupt_keepsOnFailure (h.remove key)
  clear := interrupt_keepsOnFailure h.clear

end Backing

/-! ## Requests -/

namespace VaultRequest

/-- Requests that read. -/
def IsRead : VaultRequest → Prop
  | .get _ | .keys | .multiGet _ => True
  | .set .. | .merge .. | .remove _ | .multiSet _ | .multiMerge _ | .multiRemove _ | .clear => False

/-- The requests that a request to write several items stands for; any other stands for itself. -/
def items : VaultRequest → List VaultRequest
  | .multiSet entries => entries.map fun e => .set e.1 e.2
  | .multiMerge entries => entries.map fun e => .merge e.1 e.2
  | .multiRemove removed => removed.map .remove
  | request => [request]

end VaultRequest

namespace Vault

open VaultAction

variable {σ κ : Type} {content : σ → κ} {v : Vault σ}

/-! ## Single items -/

section Keeps

variable (h : v.backing.KeepsOnFailure content)

include h

theorem keeps_get (key : String) : Keeps content (v.get key) := by
  refine (keeps_ofResult _).bind fun sealedKey => ?_
  refine (keeps_onStore (h.get sealedKey)).bind fun stored => ?_
  cases stored with
  | none => exact keeps_ofResult (.ok none)
  | some sealedValue => exact (keeps_ofResult _).map some

theorem keeps_keys : Keeps content v.keys :=
  (keeps_onStore h.keys).bind fun _ => keeps_ofResult _

theorem keeps_multiGet (keys : List String) : Keeps content (v.multiGet keys) :=
  Keeps.mapM (fun key => (keeps_get h key).bind fun value => keeps_ofResult (.ok (key, value))) keys

/-- Sealing comes before the one operation that writes. -/
theorem keepsOnFailure_set (key value : String) : KeepsOnFailure content (v.set key value) :=
  (keeps_onEntropy _).bind_keepsOnFailure fun entry =>
    keepsOnFailure_onStore (h.set entry.1 entry.2)

/-- A merge reads and decides on a text before it writes. -/
theorem keepsOnFailure_merge (key patch : String) : KeepsOnFailure content (v.merge key patch) := by
  refine (keeps_get h key).bind_keepsOnFailure fun stored => ?_
  cases stored with
  | none => exact (keeps_ofResult _).bind_keepsOnFailure (keepsOnFailure_set h key)
  | some stored => exact (keeps_ofResult _).bind_keepsOnFailure (keepsOnFailure_set h key)

theorem keepsOnFailure_remove (key : String) : KeepsOnFailure content (v.remove key) := by
  refine (keeps_ofResult _).bind_keepsOnFailure fun sealedKey => ?_
  rw [bind_pure_comp]
  exact (keepsOnFailure_onStore (h.remove sealedKey)).map _

theorem keepsOnFailure_clear : KeepsOnFailure content v.clear := keepsOnFailure_onStore h.clear

theorem keeps_serve_of_isRead {request : VaultRequest} (hread : request.IsRead) :
    Keeps content (v.serve request) := by
  cases request with
  | get key => exact (keeps_get h key).map _
  | keys => exact (keeps_keys h).map _
  | multiGet keys => exact (keeps_multiGet h keys).map _
  | _ => exact hread.elim

/-- A request for one item changes nothing when it fails. -/
theorem keepsOnFailure_serve_of_single {request : VaultRequest}
    (hsingle : request.items = [request]) : KeepsOnFailure content (v.serve request) := by
  cases request with
  | set key value => exact (keepsOnFailure_set h key value).map _
  | get key => exact (keeps_get h key).keepsOnFailure.map _
  | merge key patch => exact (keepsOnFailure_merge h key patch).map _
  | remove key => exact (keepsOnFailure_remove h key).map _
  | keys => exact (keeps_keys h).keepsOnFailure.map _
  | multiGet keys => exact (keeps_multiGet h keys).keepsOnFailure.map _
  | multiSet entries => cases entries <;> cases hsingle
  | multiMerge entries => cases entries <;> cases hsingle
  | multiRemove keys => cases keys <;> cases hsingle
  | clear => exact (keepsOnFailure_clear h).map _

end Keeps

/-! ## Several items -/

section Items

variable {ι : Type} {f : ι → VaultAction σ Unit} {item : ι → VaultRequest}
  (hitem : ∀ i, v.serve (item i) = (fun _ => .done) <$> f i)

include hitem

theorem runOn_serve_item (i : ι) (s : VaultState σ) :
    (v.serve (item i)).runOn s = ((fun _ => .done) <$> ((f i).runOn s).1, ((f i).runOn s).2) := by
  rw [hitem, runOn_map]

/-- A sequence of writes that are all done answers the requests for them. -/
theorem answers_of_forM {l : List ι} {s s' : VaultState σ}
    (h : (l.forM f).runOn s = (.ok (), s')) :
    v.answers (l.map item) s = (l.map fun _ => .ok .done, s') := by
  induction l generalizing s with
  | nil =>
    obtain ⟨-, rfl⟩ := Prod.mk.inj h
    rfl
  | cons i l ih =>
    rw [runOn_forM_cons] at h
    rcases hfirst : (f i).runOn s with ⟨e | x, s₁⟩ <;> rw [hfirst] at h
    · cases h
    · have hserve := runOn_serve_item hitem i s
      rw [hfirst] at hserve
      simp only [List.map_cons, answers, hserve, ih h]
      rfl

/-- A sequence of writes that fails answers the requests up to the one that fails. -/
theorem exists_cut_of_items {l : List ι} {fault : Error} {s s' : VaultState σ}
    (h : (l.forM f).runOn s = (.error fault, s')) :
    ∃ done failed later s₁, l.map item = done ++ failed :: later ∧
      v.answers done s = (done.map fun _ => .ok .done, s₁) ∧
      (v.serve failed).runOn s₁ = (.error fault, s') := by
  obtain ⟨done, i, later, s₁, rfl, hdone, hi⟩ := exists_cut_of_forM h
  refine ⟨done.map item, item i, later.map item, s₁, by simp, ?_, ?_⟩
  · rw [answers_of_forM hitem hdone, List.map_map]
    rfl
  · rw [runOn_serve_item hitem, hi]
    rfl

end Items

/-- Of the items of a request that fails, those before some item were written, and that one failed
with the error of the request and left its state. -/
theorem exists_cut_of_serve {request : VaultRequest} {fault : Error} {s s' : VaultState σ}
    (h : (v.serve request).runOn s = (.error fault, s')) :
    ∃ done failed later s₁, request.items = done ++ failed :: later ∧
      v.answers done s = (done.map fun _ => .ok .done, s₁) ∧
      (v.serve failed).runOn s₁ = (.error fault, s') := by
  cases request with
  | multiSet entries => exact exists_cut_of_items (fun _ => rfl) (runOn_of_map_error h)
  | multiMerge entries => exact exists_cut_of_items (fun _ => rfl) (runOn_of_map_error h)
  | multiRemove keys => exact exists_cut_of_items (fun _ => rfl) (runOn_of_map_error h)
  | _ => exact ⟨[], _, [], s, rfl, rfl, h⟩

/-- Every item of a request stands for itself. -/
theorem items_of_mem {request item : VaultRequest} (h : item ∈ request.items) :
    item.items = [item] := by
  cases request with
  | multiSet | multiMerge | multiRemove =>
    obtain ⟨_, -, rfl⟩ := List.mem_map.mp h
    rfl
  | _ =>
    obtain rfl := List.mem_singleton.mp h
    rfl

/-- Over a store that keeps its content on failure, requests that read change nothing. A request
that fails changes nothing either or, if it writes several items, leaves the content that the items
before the failing one led to. -/
theorem kept_of_failure (h : v.backing.KeepsOnFailure content) (request : VaultRequest)
    (s : VaultState σ) :
    (request.IsRead → content ((v.serve request).runOn s).2.store = content s.store) ∧
      ∀ fault s', (v.serve request).runOn s = (.error fault, s') →
        (request.items = [request] → content s'.store = content s.store) ∧
        ∃ done failed later s₁, request.items = done ++ failed :: later ∧
          v.answers done s = (done.map fun _ => .ok .done, s₁) ∧
          (v.serve failed).runOn s₁ = (.error fault, s') ∧ content s'.store = content s₁.store := by
  refine ⟨fun hread => keeps_serve_of_isRead h hread s, fun fault s' hfault => ⟨?_, ?_⟩⟩
  · intro hsingle
    exact keepsOnFailure_serve_of_single h hsingle s fault s' hfault
  · obtain ⟨done, failed, later, s₁, hitems, hdone, hfailed⟩ := exists_cut_of_serve hfault
    have hmem : failed ∈ request.items := by simp [hitems]
    exact ⟨done, failed, later, s₁, hitems, hdone, hfailed,
      keepsOnFailure_serve_of_single h (items_of_mem hmem) s₁ fault s' hfailed⟩

/-- Three objects merged into an empty store that is interrupted when the second is looked up. -/
theorem kept_of_failure_interrupted :
    let v : Vault (Entries × List Bool) :=
      ⟨Backing.memory.interrupted, ⟨⟨List.replicate 16 7, by decide⟩, .strict⟩, true⟩
    let s : VaultState (Entries × List Bool) :=
      ⟨([], [false, false, true]), List.replicate 36 1⟩
    let request : VaultRequest :=
      .multiMerge [("a", "\x7b\x7d"), ("b", "\x7b\x7d"), ("c", "\x7b\x7d")]
    let fault : Error := .internal "store interrupted"
    v.backing.KeepsOnFailure (fun s => s.1) ∧
      ∃ s', (v.serve request).runOn s = (.error fault, s') ∧
        ∃ done failed later s₁, request.items = done ++ failed :: later ∧
          v.answers done s = (done.map fun _ => .ok .done, s₁) ∧
          (v.serve failed).runOn s₁ = (.error fault, s') ∧ s'.store.1 = s₁.store.1 := by
  intro v s request fault
  have hstore : v.backing.KeepsOnFailure (fun s => s.1) :=
    Backing.keepsOnFailure_memory.interrupted
  have hfault : ((v.serve request).runOn s).1 = .error fault := by decide +kernel
  rcases hrun : (v.serve request).runOn s with ⟨reply, s'⟩
  rw [hrun] at hfault
  subst hfault
  exact ⟨hstore, s', rfl, ((kept_of_failure hstore request s).2 fault s' hrun).2⟩

end Vault

end DeviceSecurity
