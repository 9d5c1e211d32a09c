import DeviceSecurity.Proofs.Result
import DeviceSecurity.Storage.Vault

/-!
# Running the actions of a vault

What an action does to the state and which actions leave the content of the store alone, always
(`Keeps`) or at least when they fail (`KeepsOnFailure`). The content is what a reader of the store
can see of its state. An action that only reads keeps the content, and one that reads and then
writes once keeps it on failure (`Keeps.bind_keepsOnFailure`).
-/

namespace DeviceSecurity.VaultAction

variable {σ κ α β : Type}

theorem runOn_bind (a : VaultAction σ α) (f : α → VaultAction σ β) (s : VaultState σ) :
    (a >>= f).runOn s = match a.runOn s with
      | (.ok x, s) => (f x).runOn s
      | (.error e, s) => (.error e, s) := by
  unfold runOn
  rw [run_run_bind]
  rcases (ExceptT.run a).run s with ⟨e | x, s⟩ <;> rfl

theorem runOn_map (f : α → β) (a : VaultAction σ α) (s : VaultState σ) :
    (f <$> a).runOn s = (f <$> (a.runOn s).1, (a.runOn s).2) := by
  rw [← bind_pure_comp, runOn_bind]
  rcases a.runOn s with ⟨e | x, s⟩ <;> rfl

theorem runOn_of_map_error {f : α → β} {a : VaultAction σ α} {s s' : VaultState σ} {fault : Error}
    (h : (f <$> a).runOn s = (.error fault, s')) : a.runOn s = (.error fault, s') := by
  rw [runOn_map, Prod.mk.injEq] at h
  exact Prod.ext (map_eq_error.mp h.1) h.2

theorem runOn_onStore (f : σ → Except Error α × σ) (s : VaultState σ) :
    (onStore f).runOn s = ((f s.store).1, { s with store := (f s.store).2 }) := rfl

theorem runOn_onEntropy (f : Entropy → Except Error α × Entropy) (s : VaultState σ) :
    (onEntropy f).runOn s = ((f s.entropy).1, { s with entropy := (f s.entropy).2 }) := rfl

theorem runOn_ofResult (r : Except Error α) (s : VaultState σ) : (ofResult r).runOn s = (r, s) :=
  rfl

/-- A sequence of actions succeeds if each of them does where the one before left off. -/
theorem runOn_bind_eq_ok {a : VaultAction σ α} {f : α → VaultAction σ β} {s s' : VaultState σ}
    {y : β} : (a >>= f).runOn s = (.ok y, s') ↔
      ∃ x t, a.runOn s = (.ok x, t) ∧ (f x).runOn t = (.ok y, s') := by
  rw [runOn_bind]
  rcases a.runOn s with ⟨e | x, t⟩
  · simp
  · constructor
    · exact fun h => ⟨x, t, rfl, h⟩
    · rintro ⟨_, _, ⟨⟩, h⟩
      exact h

/-- A sequence of actions fails with the first of them that does. -/
theorem runOn_bind_eq_error {a : VaultAction σ α} {f : α → VaultAction σ β} {s s' : VaultState σ}
    {fault : Error} : (a >>= f).runOn s = (.error fault, s') ↔
      a.runOn s = (.error fault, s') ∨
        ∃ x t, a.runOn s = (.ok x, t) ∧ (f x).runOn t = (.error fault, s') := by
  rw [runOn_bind]
  rcases a.runOn s with ⟨e | x, t⟩
  · simp
  · constructor
    · exact fun h => .inr ⟨x, t, rfl, h⟩
    · rintro (⟨⟨⟩⟩ | ⟨_, _, ⟨⟩, h⟩)
      exact h

theorem runOn_ofResult_eq_ok {r : Except Error α} {s s' : VaultState σ} {x : α} :
    (ofResult r).runOn s = (.ok x, s') ↔ r = .ok x ∧ s = s' := by
  rw [runOn_ofResult, Prod.mk.injEq]

theorem runOn_onStore_eq_ok {f : σ → Except Error α × σ} {s s' : VaultState σ} {x : α}
    (h : (onStore f).runOn s = (.ok x, s')) : f s.store = (.ok x, s'.store) := by
  rw [runOn_onStore, Prod.mk.injEq] at h
  obtain ⟨hx, rfl⟩ := h
  exact Prod.ext hx rfl

theorem ext {a b : VaultAction σ α} (h : ∀ s, a.runOn s = b.runOn s) : a = b :=
  ExceptT.ext (funext h)

/-! ## What actions keep -/

/-- Whatever comes of the action, the view of its state stays what it is. -/
def Fixes (view : VaultState σ → κ) (a : VaultAction σ α) : Prop :=
  ∀ s, view (a.runOn s).2 = view s

namespace Fixes

variable {view : VaultState σ → κ} {a : VaultAction σ α} {f : α → VaultAction σ β}

theorem bind (ha : Fixes view a) (hf : ∀ x, Fixes view (f x)) : Fixes view (a >>= f) := by
  intro s
  have hs := ha s
  rw [runOn_bind]
  rcases hrun : a.runOn s with ⟨e | x, s₁⟩ <;> rw [hrun] at hs
  · exact hs
  · exact (hf x s₁).trans hs

theorem map (g : α → β) (h : Fixes view a) : Fixes view (g <$> a) := by
  intro s
  rw [runOn_map]
  exact h s

theorem mapM {ι : Type} {f : ι → VaultAction σ α} (h : ∀ i, Fixes view (f i)) (l : List ι) :
    Fixes view (l.mapM f) := by
  induction l with
  | nil => exact fun _ => rfl
  | cons i l ih =>
    rw [List.mapM_cons]
    exact (h i).bind fun x => ih.bind fun xs => fun _ => rfl

end Fixes

/-- Whatever comes of the action, the content of the store stays what it is. -/
def Keeps (content : σ → κ) (a : VaultAction σ α) : Prop :=
  ∀ s, content (a.runOn s).2.store = content s.store

/-- When the action fails, the content of the store is what it was before. -/
def KeepsOnFailure (content : σ → κ) (a : VaultAction σ α) : Prop :=
  ∀ s fault s', a.runOn s = (.error fault, s') → content s'.store = content s.store

variable {content : σ → κ} {a : VaultAction σ α} {f : α → VaultAction σ β}

theorem keeps_ofResult (r : Except Error α) : Keeps content (ofResult r : VaultAction σ α) :=
  fun _ => rfl

theorem keeps_onStore {g : σ → Except Error α × σ} (h : ∀ s, content (g s).2 = content s) :
    Keeps content (onStore g) :=
  fun s => h s.store

theorem keepsOnFailure_onStore {g : σ → Except Error α × σ}
    (h : ∀ s fault s', g s = (.error fault, s') → content s' = content s) :
    KeepsOnFailure content (onStore g) := by
  intro s fault s' hrun
  rw [runOn_onStore, Prod.mk.injEq] at hrun
  obtain ⟨hfault, rfl⟩ := hrun
  exact h s.store fault _ (Prod.ext hfault rfl)

theorem keeps_onEntropy (g : Entropy → Except Error α × Entropy) :
    Keeps content (onEntropy g : VaultAction σ α) :=
  fun _ => rfl

namespace Keeps

theorem keepsOnFailure (h : Keeps content a) : KeepsOnFailure content a := by
  intro s fault s' hrun
  have hs := h s
  rwa [hrun] at hs

theorem fixes (h : Keeps content a) : Fixes (fun s => content s.store) a := h

theorem bind (ha : Keeps content a) (hf : ∀ x, Keeps content (f x)) : Keeps content (a >>= f) :=
  ha.fixes.bind hf

/-- What fails after an action that keeps the content has only itself to answer for. -/
theorem bind_keepsOnFailure (ha : Keeps content a) (hf : ∀ x, KeepsOnFailure content (f x)) :
    KeepsOnFailure content (a >>= f) := by
  intro s fault s' hrun
  have hs := ha s
  rw [runOn_bind] at hrun
  rcases hfirst : a.runOn s with ⟨e | x, s₁⟩ <;> rw [hfirst] at hs hrun
  · obtain ⟨-, rfl⟩ := Prod.mk.inj hrun
    exact hs
  · exact (hf x s₁ fault s' hrun).trans hs

theorem map (g : α → β) (h : Keeps content a) : Keeps content (g <$> a) := h.fixes.map g

theorem mapM {ι : Type} {f : ι → VaultAction σ α} (h : ∀ i, Keeps content (f i)) (l : List ι) :
    Keeps content (l.mapM f) :=
  Fixes.mapM (fun i => (h i).fixes) l

end Keeps

theorem KeepsOnFailure.map (g : α → β) (h : KeepsOnFailure content a) :
    KeepsOnFailure content (g <$> a) :=
  fun s fault s' hrun => h s fault s' (runOn_of_map_error hrun)

/-! ## Sequences -/

theorem runOn_forM_cons {ι : Type} (f : ι → VaultAction σ Unit) (i : ι) (l : List ι)
    (s : VaultState σ) : ((i :: l).forM f).runOn s = match (f i).runOn s with
      | (.ok _, s) => (l.forM f).runOn s
      | (.error e, s) => (.error e, s) := by
  show (f i >>= fun _ => l.forM f).runOn s = _
  rw [runOn_bind]
  rcases (f i).runOn s with ⟨e | x, s⟩ <;> rfl

/-- A sequence of actions that fails is cut by the action that does: those before it are done, and
those behind it are not begun. -/
theorem exists_cut_of_forM {ι : Type} {f : ι → VaultAction σ Unit} {l : List ι} {fault : Error}
    {s s' : VaultState σ} (h : (l.forM f).runOn s = (.error fault, s')) :
    ∃ done i later s₁, l = done ++ i :: later ∧ (done.forM f).runOn s = (.ok (), s₁) ∧
      (f i).runOn s₁ = (.error fault, s') := by
  induction l generalizing s with
  | nil => cases h
  | cons i l ih =>
    rw [runOn_forM_cons] at h
    rcases hfirst : (f i).runOn s with ⟨e | ⟨⟩, s₁⟩ <;> rw [hfirst] at h
    · obtain ⟨rfl, rfl⟩ : e = fault ∧ s₁ = s' := by simpa using h
      exact ⟨[], i, l, s, rfl, rfl, hfirst⟩
    · obtain ⟨done, j, later, s₂, rfl, hdone, hj⟩ := ih h
      refine ⟨i :: done, j, later, s₂, rfl, ?_, hj⟩
      rw [runOn_forM_cons, hfirst]
      exact hdone

/-- So is a sequence of actions with results. -/
theorem exists_cut_of_mapM {ι : Type} {f : ι → VaultAction σ α} {l : List ι} {fault : Error}
    {s s' : VaultState σ} (h : (l.mapM f).runOn s = (.error fault, s')) :
    ∃ done i later xs s₁, l = done ++ i :: later ∧ (done.mapM f).runOn s = (.ok xs, s₁) ∧
      (f i).runOn s₁ = (.error fault, s') := by
  induction l generalizing s with
  | nil => cases h
  | cons i l ih =>
    rw [List.mapM_cons] at h
    rcases runOn_bind_eq_error.mp h with hfirst | ⟨x, s₁, hfirst, h⟩
    · exact ⟨[], i, l, [], s, rfl, rfl, hfirst⟩
    · rcases runOn_bind_eq_error.mp h with hrest | ⟨xs, s₂, -, h⟩
      · obtain ⟨done, j, later, xs, s₂, rfl, hdone, hj⟩ := ih hrest
        refine ⟨i :: done, j, later, x :: xs, s₂, rfl, ?_, hj⟩
        rw [List.mapM_cons]
        exact runOn_bind_eq_ok.mpr ⟨x, s₁, hfirst, runOn_bind_eq_ok.mpr ⟨xs, s₂, hdone, rfl⟩⟩
      · cases h

end DeviceSecurity.VaultAction
