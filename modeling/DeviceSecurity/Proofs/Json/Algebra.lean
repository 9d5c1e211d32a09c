import DeviceSecurity.Proofs.Json.Merge

/-!
# The algebra of merging

A canonical object is determined by what it has under each key (`object_ext`), so an equation of
merges is checked key by key, where `get?_mergeMembers` says what is found. The empty object changes
nothing and is overwritten by anything, and a patch laid over its own result changes nothing more
(`merge_self`, `merge_merge_self`).

Two patches commute over every base if they are free of conflicts (`ConflictFree`): under a key that
both have they carry objects, again free of conflicts. It is not enough that the patches commute
with each other, since a base may have an object where neither has one; what carries the induction
is that they commute with each other and over every base (`ConflictFree.commute`). So patches of
which no two conflict have one result in whatever order they are applied (`foldl_merge_perm`), and
each of them is still in it (`holdsValue_foldl_merge`, `holdsObject_foldl_merge`).
-/

namespace DeviceSecurity.Json

variable {a b base patch : Json} {members changes others : Members Json}

/-! ## Key by key -/

namespace Members

variable {α : Type} {l₁ l₂ : Members α} {key : String}

theorem get?_eq_none_of_lt {m : String × α} (h : Sorted (m :: l₁)) (hlt : key < m.1) :
    get? (m :: l₁) key = none := by
  refine get?_eq_none fun other hother => ?_
  rcases List.mem_cons.mp hother with rfl | hother
  · exact hlt.ne'
  · exact (lt_trans hlt ((sorted_cons.mp h).1 other hother)).ne'

theorem eq_of_get?_singleton {m : String × α} {x : α} (h : get? [m] key = some x) : m.2 = x := by
  rw [get?_cons] at h
  split at h
  · exact Option.some.inj h
  · cases h

/-- Sorted members are determined by what is found under each key. -/
theorem Sorted.ext (h₁ : Sorted l₁) (h₂ : Sorted l₂) (h : ∀ key, get? l₁ key = get? l₂ key) :
    l₁ = l₂ := by
  induction l₁ generalizing l₂ with
  | nil =>
    cases l₂ with
    | nil => rfl
    | cons m rest =>
      have hm := h m.1
      rw [get?_nil, get?_cons, if_pos rfl] at hm
      cases hm
  | cons m₁ rest₁ ih =>
    cases l₂ with
    | nil =>
      have hm := h m₁.1
      rw [get?_nil, get?_cons, if_pos rfl] at hm
      cases hm
    | cons m₂ rest₂ =>
      -- neither first key comes before the other, as the other list would lack it
      have hkey : m₁.1 = m₂.1 := by
        rcases lt_trichotomy m₁.1 m₂.1 with hlt | heq | hlt
        · have hm := h m₁.1
          rw [get?_eq_none_of_lt h₂ hlt, get?_cons, if_pos rfl] at hm
          cases hm
        · exact heq
        · have hm := h m₂.1
          rw [get?_eq_none_of_lt h₁ hlt, get?_cons, if_pos rfl] at hm
          cases hm
      have hvalue : m₁.2 = m₂.2 := by
        have hm := h m₁.1
        rw [get?_cons, get?_cons, if_pos rfl, if_pos hkey.symm] at hm
        exact Option.some.inj hm
      obtain ⟨hfirst₁, hrest₁⟩ := sorted_cons.mp h₁
      obtain ⟨hfirst₂, hrest₂⟩ := sorted_cons.mp h₂
      have hrest : rest₁ = rest₂ := by
        refine ih hrest₁ hrest₂ fun key => ?_
        by_cases hsame : m₁.1 = key
        · rw [get?_eq_none fun m hm => hsame ▸ (hfirst₁ m hm).ne',
            get?_eq_none fun m hm => hsame ▸ hkey ▸ (hfirst₂ m hm).ne']
        · have hm := h key
          rwa [get?_cons, get?_cons, if_neg hsame, if_neg (hkey ▸ hsame)] at hm
      rw [Prod.ext hkey hvalue, hrest]

end Members

/-- A canonical object is determined by what it has under each key. -/
theorem object_ext (hmembers : IsCanonical (object members)) (hothers : IsCanonical (object others))
    (h : ∀ key, Members.get? members key = Members.get? others key) :
    object members = object others :=
  congrArg object (hmembers.sorted.ext hothers.sorted h)

/-- An object is laid over another one key by key. -/
theorem exists_merge_object (hmembers : IsCanonical (object members))
    (hchanges : IsCanonical (object changes)) :
    ∃ merged, merge (object members) (object changes) = object merged ∧
      IsCanonical (object merged) ∧
      ∀ key, Members.get? merged key =
        overlay (Members.get? members key) (Members.get? changes key) := by
  have hmerged := isCanonical_merge hchanges hmembers
  rw [merge] at hmerged
  exact ⟨mergeMembers members changes, merge.eq_1 members changes, hmerged,
    get?_mergeMembers hchanges.sorted members⟩

/-! ## The empty object and repeated patches -/

theorem merge_empty (members : Members Json) :
    merge (object members) (object []) = object members := by
  rw [merge, mergeMembers]

theorem empty_merge (h : IsCanonical (object changes)) :
    merge (object []) (object changes) = object changes := by
  obtain ⟨merged, heq, hmerged, hget⟩ :=
    exists_merge_object (.object List.Pairwise.nil (by simp)) h
  rw [heq]
  refine object_ext hmerged h fun key => ?_
  rw [hget, Members.get?_nil]
  cases Members.get? changes key <;> rfl

/-- A value laid over itself is itself. -/
theorem merge_self (h : IsCanonical patch) : merge patch patch = patch := by
  induction h with
  | @object changes hsorted hvalues ih =>
    have hchanges : IsCanonical (object changes) := .object hsorted hvalues
    obtain ⟨merged, heq, hmerged, hget⟩ := exists_merge_object hchanges hchanges
    rw [heq]
    refine object_ext hmerged hchanges fun key => ?_
    rw [hget]
    cases hchange : Members.get? changes key with
    | none => rfl
    | some value =>
      obtain ⟨m, hm, rfl⟩ := Option.map_eq_some_iff.mp hchange
      exact congrArg some (ih m (List.mem_of_find?_eq_some hm))
  | _ => rfl

/-- A patch that is laid over its own result changes nothing more. -/
theorem merge_merge_self (hpatch : IsCanonical patch) (hbase : IsCanonical base) :
    merge (merge base patch) patch = merge base patch := by
  induction hpatch generalizing base with
  | @object changes hsorted hvalues ih =>
    have hchanges : IsCanonical (object changes) := .object hsorted hvalues
    cases hobject : base.isObject with
    | false => rw [merge_of_not_isObject_left hobject, merge_self hchanges]
    | true =>
      obtain ⟨members, rfl⟩ := exists_members hobject
      obtain ⟨once, honce, hcanonical, hget⟩ := exists_merge_object hbase hchanges
      obtain ⟨twice, htwice, hcanonical', hget'⟩ := exists_merge_object hcanonical hchanges
      rw [honce, htwice]
      refine object_ext hcanonical' hcanonical fun key => ?_
      rw [hget', hget]
      cases hchange : Members.get? changes key with
      | none => rw [overlay_none, overlay_none]
      | some value =>
        have hvalue := hchanges.get? hchange
        obtain ⟨m, hm, rfl⟩ := Option.map_eq_some_iff.mp hchange
        cases hstored : Members.get? members key with
        | none => exact congrArg some (merge_self hvalue)
        | some existing =>
          exact congrArg some (ih m (List.mem_of_find?_eq_some hm) (hbase.get? hstored))
  | _ => cases base <;> rfl

/-! ## Patches free of conflicts -/

/-- Two objects of which every key that both have carries objects again free of conflicts. -/
inductive ConflictFree : Json → Json → Prop
  | object {changes others : Members Json}
    (h : ∀ key x y, Members.get? changes key = some x → Members.get? others key = some y →
      ConflictFree x y) : ConflictFree (object changes) (object others)

theorem ConflictFree.symm (h : ConflictFree a b) : ConflictFree b a := by
  induction h with
  | object _ ih => exact .object fun key x y hx hy => ih key y x hy hx

/-- Objects without a common key are free of conflicts. -/
theorem conflictFree_of_disjoint (ha : a.isObject = true) (hb : b.isObject = true)
    (h : ∀ key ∈ a.memberNames, key ∉ b.memberNames) : ConflictFree a b := by
  obtain ⟨changes, rfl⟩ := exists_members ha
  obtain ⟨others, rfl⟩ := exists_members hb
  have hnames : ∀ {members : Members Json} {key x}, Members.get? members key = some x →
      key ∈ (Json.object members).memberNames := by
    intro members key x hget
    obtain ⟨m, hm, -⟩ := Option.map_eq_some_iff.mp hget
    have hkey : m.1 = key := by simpa using List.find?_some hm
    exact List.mem_map.mpr ⟨m, List.mem_of_find?_eq_some hm, hkey⟩
  exact .object fun key x y hx hy => absurd (hnames hy) (h key (hnames hx))

/-- Patches free of conflicts commute, with each other and over every base. -/
theorem ConflictFree.commute (h : ConflictFree a b) (ha : IsCanonical a) (hb : IsCanonical b) :
    merge a b = merge b a ∧
      ∀ base, IsCanonical base → merge (merge base a) b = merge (merge base b) a := by
  induction h with
  | @object changes others h ih =>
    have hsame : merge (Json.object changes) (Json.object others) =
        merge (Json.object others) (Json.object changes) := by
      obtain ⟨left, hleft, hcleft, hgetleft⟩ := exists_merge_object ha hb
      obtain ⟨right, hright, hcright, hgetright⟩ := exists_merge_object hb ha
      rw [hleft, hright]
      refine object_ext hcleft hcright fun key => ?_
      rw [hgetleft, hgetright]
      cases hx : Members.get? changes key with
      | none => cases Members.get? others key <;> rfl
      | some x =>
        cases hy : Members.get? others key with
        | none => rfl
        | some y => exact congrArg some (ih key x y hx hy (ha.get? hx) (hb.get? hy)).1
    refine ⟨hsame, fun base hbase => ?_⟩
    cases hobject : base.isObject with
    | false =>
      rw [merge_of_not_isObject_left hobject, merge_of_not_isObject_left hobject, hsame]
    | true =>
      obtain ⟨members, rfl⟩ := exists_members hobject
      obtain ⟨m₁, heq₁, hc₁, hget₁⟩ := exists_merge_object hbase ha
      obtain ⟨m₂, heq₂, hc₂, hget₂⟩ := exists_merge_object hbase hb
      obtain ⟨m₁₂, heq₁₂, hc₁₂, hget₁₂⟩ := exists_merge_object hc₁ hb
      obtain ⟨m₂₁, heq₂₁, hc₂₁, hget₂₁⟩ := exists_merge_object hc₂ ha
      rw [heq₁, heq₂, heq₁₂, heq₂₁]
      refine object_ext hc₁₂ hc₂₁ fun key => ?_
      rw [hget₁₂, hget₂₁, hget₁, hget₂]
      cases hx : Members.get? changes key with
      | none => rw [overlay_none, overlay_none]
      | some x =>
        cases hy : Members.get? others key with
        | none => rw [overlay_none, overlay_none]
        | some y =>
          obtain ⟨hxy, hover⟩ := ih key x y hx hy (ha.get? hx) (hb.get? hy)
          cases hstored : Members.get? members key with
          | none => exact congrArg some hxy
          | some existing => exact congrArg some (hover existing (hbase.get? hstored))

/-! ## Any number of patches -/

/-- Patches of which no two conflict have one result in any order. -/
theorem foldl_merge_perm {ps qs : List Json} (hperm : ps.Perm qs) (h : ∀ p ∈ ps, IsCanonical p)
    (hfree : ps.Pairwise ConflictFree) (hbase : IsCanonical base) :
    ps.foldl merge base = qs.foldl merge base := by
  induction hperm generalizing base with
  | nil => rfl
  | cons p hperm ih =>
    obtain ⟨hp, hrest⟩ := List.forall_mem_cons.mp h
    exact ih hrest (List.pairwise_cons.mp hfree).2 (isCanonical_merge hp hbase)
  | swap q p rest =>
    obtain ⟨hp, hrest⟩ := List.forall_mem_cons.mp h
    obtain ⟨hq, -⟩ := List.forall_mem_cons.mp hrest
    have hpq := (List.pairwise_cons.mp hfree).1 q List.mem_cons_self
    exact congrArg (rest.foldl merge ·) ((hpq.commute hp hq).2 base hbase)
  | trans hfirst _ ih₁ ih₂ =>
    rw [ih₁ h hfree hbase]
    exact ih₂ (fun p hp => h p (hfirst.mem_iff.mpr hp))
      (hfirst.pairwise hfree fun hab => hab.symm) hbase

/-- The patch is laid over what the others make of the base. -/
theorem exists_foldl_merge_eq {patches : List Json} (h : ∀ p ∈ patches, IsCanonical p)
    (hfree : patches.Pairwise ConflictFree) (hbase : IsCanonical base) (hpatch : patch ∈ patches) :
    ∃ others, patches.foldl merge base = merge others patch := by
  obtain ⟨before, after, rfl⟩ := List.append_of_mem hpatch
  have hperm : (before ++ patch :: after).Perm ((before ++ after) ++ [patch]) :=
    List.perm_middle.trans (List.perm_append_singleton patch (before ++ after)).symm
  refine ⟨(before ++ after).foldl merge base, ?_⟩
  rw [foldl_merge_perm hperm h hfree hbase, List.foldl_append]
  rfl

/-- The values of every patch are in the result. -/
theorem holdsValue_foldl_merge {patches : List Json} (h : ∀ p ∈ patches, IsCanonical p)
    (hfree : patches.Pairwise ConflictFree) (hbase : IsCanonical base) (hpatch : patch ∈ patches)
    {path : List String} {value : Json} (hvalue : patch.HoldsValue path value) :
    (patches.foldl merge base).HoldsValue path value := by
  obtain ⟨others, heq⟩ := exists_foldl_merge_eq h hfree hbase hpatch
  rw [heq]
  exact (holdsValue_merge (h patch hpatch)).mpr (.inl hvalue)

theorem holdsObject_foldl_merge {patches : List Json} (h : ∀ p ∈ patches, IsCanonical p)
    (hfree : patches.Pairwise ConflictFree) (hbase : IsCanonical base) (hpatch : patch ∈ patches)
    {path : List String} (hobject : patch.HoldsObject path) :
    (patches.foldl merge base).HoldsObject path := by
  obtain ⟨others, heq⟩ := exists_foldl_merge_eq h hfree hbase hpatch
  rw [heq]
  exact (holdsObject_merge (h patch hpatch)).mpr (.inl hobject)

end DeviceSecurity.Json
