/-!
# Results

How results in `Except` pass through sequences of steps: `bind_eq_ok` and `bind_eq_error` take the
outcome of a sequence apart into the outcomes of its steps.
-/

namespace DeviceSecurity

variable {ε α β : Type}

@[simp] theorem ok_bind (a : α) (f : α → Except ε β) : (Except.ok a >>= f) = f a := rfl

@[simp] theorem error_bind (e : ε) (f : α → Except ε β) : (Except.error e >>= f) = .error e := rfl

@[simp] theorem ok_map (f : α → β) (a : α) : f <$> (Except.ok a : Except ε α) = .ok (f a) := rfl

@[simp] theorem error_map (f : α → β) (e : ε) : f <$> (Except.error e : Except ε α) = .error e :=
  rfl

@[simp] theorem throw_eq_error (e : ε) : (throw e : Except ε α) = .error e := rfl

@[simp] theorem pure_eq_ok (a : α) : (pure a : Except ε α) = .ok a := rfl

theorem bind_eq_ok {x : Except ε α} {f : α → Except ε β} {b : β} :
    x >>= f = .ok b ↔ ∃ a, x = .ok a ∧ f a = .ok b := by
  cases x with
  | ok a => simp
  | error e => simp

theorem bind_eq_error {x : Except ε α} {f : α → Except ε β} {e : ε} :
    x >>= f = .error e ↔ x = .error e ∨ ∃ a, x = .ok a ∧ f a = .error e := by
  cases x with
  | ok a => simp
  | error e => simp

theorem map_eq_ok {x : Except ε α} {f : α → β} {b : β} :
    x.map f = .ok b ↔ ∃ a, x = .ok a ∧ f a = b := by
  cases x with
  | ok a => simp [Except.map]
  | error e => simp [Except.map]

theorem map_eq_error {x : Except ε α} {f : α → β} {e : ε} :
    x.map f = .error e ↔ x = .error e := by
  cases x with
  | ok a => simp [Except.map]
  | error e => simp [Except.map]

/-- The results of a list of steps that all succeed. -/
theorem mem_of_mapM_eq_ok {f : α → Except ε β} {l : List α} {results : List β}
    (h : l.mapM f = .ok results) (y : β) : y ∈ results ↔ ∃ x ∈ l, f x = .ok y := by
  induction l generalizing results with
  | nil =>
    obtain rfl := Except.ok.inj h
    simp
  | cons a l ih =>
    rw [List.mapM_cons] at h
    obtain ⟨b, ha, h⟩ := bind_eq_ok.mp h
    obtain ⟨bs, hl, h⟩ := bind_eq_ok.mp h
    obtain rfl := Except.ok.inj h
    simp [ih hl, ha, eq_comm (a := y)]

/-- The first member of a list of which something holds is its head, or else the first of the
others. -/
theorem exists_cut_cons {P Q : α → Prop} {a : α} {l : List α} :
    (∃ before x after, a :: l = before ++ x :: after ∧ (∀ y ∈ before, P y) ∧ Q x) ↔
      Q a ∨ P a ∧ ∃ before x after, l = before ++ x :: after ∧ (∀ y ∈ before, P y) ∧ Q x := by
  constructor
  · rintro ⟨before, x, after, hl, hbefore, hx⟩
    match before with
    | [] =>
      obtain ⟨rfl, rfl⟩ := List.cons.inj hl
      exact .inl hx
    | _ :: before =>
      obtain ⟨rfl, rfl⟩ := List.cons.inj hl
      obtain ⟨ha, hbefore⟩ := List.forall_mem_cons.mp hbefore
      exact .inr ⟨ha, before, x, after, rfl, hbefore, hx⟩
  · rintro (ha | ⟨ha, before, x, after, rfl, hbefore, hx⟩)
    · exact ⟨[], a, l, rfl, nofun, ha⟩
    · exact ⟨a :: before, x, after, rfl, List.forall_mem_cons.mpr ⟨ha, hbefore⟩, hx⟩

/-- A list of steps fails as the first of them does that fails. -/
theorem mapM_eq_error {f : α → Except ε β} {l : List α} {e : ε} : l.mapM f = .error e ↔
    ∃ before x after, l = before ++ x :: after ∧ (∀ y ∈ before, ∃ b, f y = .ok b) ∧
      f x = .error e := by
  induction l with
  | nil => exact iff_of_false nofun (by simp)
  | cons a l ih =>
    rw [List.mapM_cons, bind_eq_error, exists_cut_cons, ← ih]
    constructor
    · rintro (ha | ⟨b, ha, hrest⟩)
      · exact .inl ha
      · rcases bind_eq_error.mp hrest with hl | ⟨bs, -, hnone⟩
        · exact .inr ⟨⟨b, ha⟩, hl⟩
        · cases hnone
    · rintro (ha | ⟨⟨b, ha⟩, hl⟩)
      · exact .inl ha
      · exact .inr ⟨b, ha, bind_eq_error.mpr (.inl hl)⟩

theorem exists_mapM_eq_error {f : α → Except ε β} {l : List α} :
    (∃ e, l.mapM f = .error e) ↔ ∃ x ∈ l, ∃ e, f x = .error e := by
  constructor
  · rintro ⟨e, h⟩
    obtain ⟨before, x, after, rfl, -, hx⟩ := mapM_eq_error.mp h
    exact ⟨x, by simp, e, hx⟩
  · induction l with
    | nil => exact nofun
    | cons a l ih =>
      rintro ⟨x, hmem, e, hx⟩
      rw [List.mapM_cons]
      cases ha : f a with
      | error e => exact ⟨e, rfl⟩
      | ok b =>
        have hlater : x ∈ l := by
          refine (List.mem_cons.mp hmem).resolve_left ?_
          rintro rfl
          cases ha.symm.trans hx
        obtain ⟨e, hl⟩ := ih ⟨x, hlater, e, hx⟩
        exact ⟨e, by rw [hl]; rfl⟩

theorem forM_cons (f : α → Except ε Unit) (a : α) (l : List α) :
    (a :: l).forM f = f a >>= fun _ => l.forM f := rfl

/-- A list of checks passes if all of them pass. -/
theorem forM_eq_ok {f : α → Except ε Unit} {l : List α} :
    l.forM f = .ok () ↔ ∀ x ∈ l, f x = .ok () := by
  induction l with
  | nil => exact iff_of_true rfl nofun
  | cons a l ih =>
    rw [forM_cons, bind_eq_ok, List.forall_mem_cons, ← ih]
    exact ⟨fun ⟨_, ha, hl⟩ => ⟨ha, hl⟩, fun ⟨ha, hl⟩ => ⟨(), ha, hl⟩⟩

/-- A list of checks fails as the first of them does that fails. -/
theorem forM_eq_error {f : α → Except ε Unit} {l : List α} {e : ε} : l.forM f = .error e ↔
    ∃ before x after, l = before ++ x :: after ∧ (∀ y ∈ before, f y = .ok ()) ∧ f x = .error e := by
  induction l with
  | nil => exact iff_of_false nofun (by simp)
  | cons a l ih =>
    rw [forM_cons, bind_eq_error, exists_cut_cons, ← ih]
    constructor
    · rintro (ha | ⟨_, ha, hl⟩)
      · exact .inl ha
      · exact .inr ⟨ha, hl⟩
    · rintro (ha | ⟨ha, hl⟩)
      · exact .inl ha
      · exact .inr ⟨(), ha, hl⟩

/-- Steps that succeed like others succeed like them in a list. -/
theorem mapM_eq_ok_of_imp {f g : α → Except ε β} (h : ∀ x y, f x = .ok y → g x = .ok y)
    {l : List α} {results : List β} (hl : l.mapM f = .ok results) : l.mapM g = .ok results := by
  induction l generalizing results with
  | nil => exact hl
  | cons a l ih =>
    rw [List.mapM_cons] at hl ⊢
    obtain ⟨b, ha, hl⟩ := bind_eq_ok.mp hl
    obtain ⟨bs, hrest, hl⟩ := bind_eq_ok.mp hl
    exact bind_eq_ok.mpr ⟨b, h a b ha, bind_eq_ok.mpr ⟨bs, ih hrest, hl⟩⟩

/-- A sequence of actions on a state stops at the first that fails, in the state that it left. -/
theorem run_run_bind {σ : Type} (a : ExceptT ε (StateM σ) α) (f : α → ExceptT ε (StateM σ) β)
    (s : σ) : (ExceptT.run (a >>= f)).run s = match (ExceptT.run a).run s with
      | (.ok x, s) => (ExceptT.run (f x)).run s
      | (.error e, s) => (.error e, s) := by
  rw [ExceptT.run_bind, StateT.run_bind]
  rcases (ExceptT.run a).run s with ⟨e | x, s⟩ <;> rfl

end DeviceSecurity
