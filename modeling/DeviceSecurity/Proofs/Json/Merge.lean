import DeviceSecurity.Proofs.Json.Canonical

/-!
# Merging by paths

A path of keys leads from an object over objects to a value (`Json.at?`). What a merge makes of two
objects is said here path by path (`Json.merge_paths`): the values of the patch that are no objects
stand where they stood, those of the base stand where the patch has nothing at their path and none
of its own above it, and there are no others. The argument is one equation for a key of merged
members (`Json.get?_mergeMembers`), followed along the path.
-/

namespace DeviceSecurity.Json

/-! ## Paths -/

/-- The value that a path of keys leads to. -/
def at? : Json → List String → Option Json
  | j, [] => some j
  | object members, key :: path => (Members.get? members key).bind fun value => value.at? path
  | _, _ :: _ => none

/-- A value that is no object stands at the path. -/
def HoldsValue (j : Json) (path : List String) (value : Json) : Prop :=
  j.at? path = some value ∧ value.isObject = false

/-- An object stands at the path. -/
def HoldsObject (j : Json) (path : List String) : Prop :=
  ∃ members, j.at? path = some (object members)

/-- A value that is no object stands at the path or above it. -/
def Covers (j : Json) (path : List String) : Prop :=
  ∃ above, above <+: path ∧ ∃ value, j.HoldsValue above value

/-- A value that is no object stands above the path. -/
def Shadows (j : Json) (path : List String) : Prop :=
  ∃ above, above <+: path ∧ above ≠ path ∧ ∃ value, j.HoldsValue above value

variable {base patch : Json} {members changes : Members Json} {key : String} {path : List String}

theorem at?_nil (j : Json) : j.at? [] = some j := by
  cases j <;> rfl

theorem at?_cons (members : Members Json) (key : String) (path : List String) :
    (object members).at? (key :: path) =
      (Members.get? members key).bind fun value => value.at? path := rfl

theorem at?_cons_of_not_isObject {j : Json} (h : j.isObject = false) (key : String)
    (path : List String) : j.at? (key :: path) = none := by
  cases j with
  | object members => cases h
  | _ => rfl

theorem exists_members {j : Json} (h : j.isObject = true) : ∃ members, j = object members := by
  cases j with
  | object members => exact ⟨members, rfl⟩
  | _ => cases h

theorem covers_of_not_isObject {j : Json} (h : j.isObject = false) (path : List String) :
    j.Covers path :=
  ⟨[], List.nil_prefix, j, at?_nil j, h⟩

/-- Below an object only its members cover a path. -/
theorem covers_cons : (object members).Covers (key :: path) ↔
    ∃ value, Members.get? members key = some value ∧ value.Covers path := by
  constructor
  · rintro ⟨above, habove, value, hvalue, hplain⟩
    cases above with
    | nil =>
      rw [at?_nil, Option.some.injEq] at hvalue
      rw [← hvalue] at hplain
      cases hplain
    | cons k above =>
      obtain ⟨rfl, hrest⟩ := List.cons_prefix_cons.mp habove
      obtain ⟨member, hmember, hvalue⟩ := Option.bind_eq_some_iff.mp hvalue
      exact ⟨member, hmember, above, hrest, value, hvalue, hplain⟩
  · rintro ⟨member, hmember, above, habove, value, hvalue, hplain⟩
    refine ⟨key :: above, List.cons_prefix_cons.mpr ⟨rfl, habove⟩, value, ?_, hplain⟩
    rw [at?_cons, hmember]
    exact hvalue

/-- Where nothing stands at the path itself, only what is above can cover it. -/
theorem not_covers_of_not_shadows {j : Json} (h : j.at? path = none) (hshadows : ¬j.Shadows path) :
    ¬j.Covers path := by
  rintro ⟨above, habove, value, hvalue⟩
  by_cases hsame : above = path
  · rw [HoldsValue, hsame, h] at hvalue
    cases hvalue.1
  · exact hshadows ⟨above, habove, hsame, value, hvalue⟩

theorem Shadows.covers {j : Json} (h : j.Shadows path) : j.Covers path := by
  obtain ⟨above, habove, -, hvalue⟩ := h
  exact ⟨above, habove, hvalue⟩

/-! ## One key -/

theorem merge_of_not_isObject_left (h : base.isObject = false) (patch : Json) :
    merge base patch = patch := by
  cases base with
  | object members => cases h
  | _ => cases patch <;> rfl

theorem merge_of_not_isObject_right (h : patch.isObject = false) (base : Json) :
    merge base patch = patch := by
  cases patch with
  | object changes => cases h
  | _ => cases base <;> rfl

/-- What is found under a key where a change is laid over what is stored. -/
def overlay : (stored change : Option Json) → Option Json
  | some existing, some value => some (merge existing value)
  | none, some value => some value
  | stored, none => stored

theorem overlay_none (stored : Option Json) : overlay stored none = stored := by
  cases stored <;> rfl

theorem overlay_of_not_isObject {value : Json} (h : value.isObject = false) (stored : Option Json) :
    overlay stored (some value) = some value := by
  cases stored with
  | none => rfl
  | some existing => exact congrArg some (merge_of_not_isObject_right h existing)

theorem overlay_of_isObject {value : Json} (h : value.isObject = true) (stored : Option Json) :
    ∃ members, overlay stored (some value) = some (object members) := by
  obtain ⟨changes, rfl⟩ := exists_members h
  cases stored with
  | none => exact ⟨changes, rfl⟩
  | some existing =>
    cases hexisting : existing.isObject with
    | false => exact ⟨changes, congrArg some (merge_of_not_isObject_left hexisting _)⟩
    | true =>
      obtain ⟨members, rfl⟩ := exists_members hexisting
      exact ⟨mergeMembers members changes, congrArg some (merge.eq_1 members changes)⟩

/-- Objects are merged and anything else is replaced, which is to merge it. -/
theorem ite_merge (existing value : Json) :
    (if existing.isObject && value.isObject then merge existing value else value) =
      merge existing value := by
  cases hexisting : existing.isObject with
  | false => rw [merge_of_not_isObject_left hexisting]; rfl
  | true =>
    cases hvalue : value.isObject with
    | false => rw [merge_of_not_isObject_right hvalue]; rfl
    | true => rfl

theorem mergeMembers_cons (members : Members Json) (key : String) (value : Json)
    (rest : Members Json) :
    ∃ merged, some merged = overlay (Members.get? members key) (some value) ∧
      mergeMembers members ((key, value) :: rest) =
        mergeMembers (Members.insert key merged members) rest := by
  rw [mergeMembers]
  cases Members.get? members key with
  | none => exact ⟨value, rfl, rfl⟩
  | some existing => exact ⟨merge existing value, rfl, by simp only [ite_merge]⟩

/-- A key of merged members has what its change makes of it. -/
theorem get?_mergeMembers (h : changes.Sorted) (members : Members Json) (key : String) :
    Members.get? (mergeMembers members changes) key =
      overlay (Members.get? members key) (Members.get? changes key) := by
  induction changes generalizing members with
  | nil => rw [mergeMembers, Members.get?_nil, overlay_none]
  | cons m rest ih =>
    obtain ⟨k, value⟩ := m
    obtain ⟨hfirst, hrest⟩ := Members.sorted_cons.mp h
    obtain ⟨merged, hmerged, heq⟩ := mergeMembers_cons members k value rest
    rw [heq, ih hrest, Members.get?_insert, Members.get?_cons]
    by_cases hk : k = key
    · -- no later change is for the key of the first one
      have hnone : Members.get? rest key = none :=
        Members.get?_eq_none fun m hm => hk ▸ (hfirst m hm).ne'
      rw [if_pos hk, if_pos hk, hnone, overlay_none, hmerged, hk]
    · rw [if_neg hk, if_neg hk]

theorem at?_merge_cons (h : changes.Sorted) (members : Members Json) (key : String)
    (path : List String) : (merge (object members) (object changes)).at? (key :: path) =
      (overlay (Members.get? members key) (Members.get? changes key)).bind
        fun value => value.at? path := by
  rw [merge, at?_cons, get?_mergeMembers h]

/-! ## A path -/

theorem IsCanonical.get? {value : Json} (h : IsCanonical (Json.object changes))
    (hget : Members.get? changes key = some value) : IsCanonical value := by
  obtain ⟨m, hm, rfl⟩ := Option.map_eq_some_iff.mp hget
  cases h with
  | object _ hmembers => exact hmembers m (List.mem_of_find?_eq_some hm)

theorem IsCanonical.sorted (h : IsCanonical (Json.object changes)) : changes.Sorted := by
  cases h with
  | object hsorted _ => exact hsorted

/-- What the patch has at a path is merged into what the base has there. -/
theorem at?_merge_of_some (hpatch : IsCanonical patch) {value : Json}
    (h : patch.at? path = some value) (base : Json) :
    (merge base patch).at? path = overlay (base.at? path) (some value) := by
  induction path generalizing base patch with
  | nil =>
    rw [at?_nil, Option.some.injEq] at h
    rw [at?_nil, at?_nil, h]
    rfl
  | cons key path ih =>
    cases hobject : patch.isObject with
    | false =>
      rw [at?_cons_of_not_isObject hobject] at h
      cases h
    | true =>
      obtain ⟨changes, rfl⟩ := exists_members hobject
      obtain ⟨change, hchange, hvalue⟩ := Option.bind_eq_some_iff.mp h
      cases hbase : base.isObject with
      | false => rw [merge_of_not_isObject_left hbase, at?_cons_of_not_isObject hbase, h]; rfl
      | true =>
        obtain ⟨members, rfl⟩ := exists_members hbase
        rw [at?_merge_cons hpatch.sorted, at?_cons, hchange]
        cases Members.get? members key with
        | none => exact hvalue
        | some existing => exact ih (hpatch.get? hchange) hvalue existing

/-- Below a value of the patch that is no object nothing is left. -/
theorem at?_merge_of_covers (hpatch : IsCanonical patch) (h : patch.at? path = none)
    (hcovers : patch.Covers path) (base : Json) : (merge base patch).at? path = none := by
  induction path generalizing base patch with
  | nil =>
    rw [at?_nil] at h
    cases h
  | cons key path ih =>
    cases hobject : patch.isObject with
    | false => rwa [merge_of_not_isObject_right hobject]
    | true =>
      obtain ⟨changes, rfl⟩ := exists_members hobject
      cases hbase : base.isObject with
      | false => rwa [merge_of_not_isObject_left hbase]
      | true =>
        obtain ⟨members, rfl⟩ := exists_members hbase
        obtain ⟨change, hchange, hcovers⟩ := covers_cons.mp hcovers
        rw [at?_cons, hchange] at h
        rw [at?_merge_cons hpatch.sorted, hchange]
        cases Members.get? members key with
        | none => exact h
        | some existing => exact ih (hpatch.get? hchange) h hcovers existing

/-- Where the patch has nothing, neither at the path nor a value above it, the base stays. -/
theorem at?_merge_of_not_covers (hpatch : IsCanonical patch) (h : patch.at? path = none)
    (hcovers : ¬patch.Covers path) (base : Json) :
    (merge base patch).at? path = base.at? path := by
  induction path generalizing base patch with
  | nil =>
    rw [at?_nil] at h
    cases h
  | cons key path ih =>
    cases hobject : patch.isObject with
    | false => exact (hcovers (covers_of_not_isObject hobject _)).elim
    | true =>
      obtain ⟨changes, rfl⟩ := exists_members hobject
      cases hbase : base.isObject with
      | false => rw [merge_of_not_isObject_left hbase, at?_cons_of_not_isObject hbase, h]
      | true =>
        obtain ⟨members, rfl⟩ := exists_members hbase
        rw [at?_merge_cons hpatch.sorted, at?_cons]
        cases hchange : Members.get? changes key with
        | none => rw [overlay_none]
        | some change =>
          rw [at?_cons, hchange] at h
          have hbelow : ¬change.Covers path :=
            fun hbelow => hcovers (covers_cons.mpr ⟨change, hchange, hbelow⟩)
          cases Members.get? members key with
          | none => exact h
          | some existing => exact ih (hpatch.get? hchange) h hbelow existing

/-! ## Canonical results -/

/-- What holds of the values on both sides, and of what a change makes of such a value, holds of the
values of the result. -/
theorem forall_mem_mergeMembers {p : Json → Prop} (hmembers : ∀ m ∈ members, p m.2)
    (hvalues : ∀ m ∈ changes, p m.2)
    (hmerge : ∀ m ∈ changes, ∀ base, p base → p (merge base m.2)) :
    ∀ m ∈ mergeMembers members changes, p m.2 := by
  induction changes generalizing members with
  | nil =>
    rw [mergeMembers]
    exact hmembers
  | cons change rest ih =>
    obtain ⟨key, value⟩ := change
    obtain ⟨hvalue, hothers⟩ := List.forall_mem_cons.mp hvalues
    obtain ⟨hchange, hrest⟩ := List.forall_mem_cons.mp hmerge
    obtain ⟨merged, hmerged, heq⟩ := mergeMembers_cons members key value rest
    have hp : p merged := by
      cases hstored : Members.get? members key with
      | none =>
        rw [hstored] at hmerged
        exact Option.some.inj hmerged ▸ hvalue
      | some existing =>
        obtain ⟨m, hm, rfl⟩ := Option.map_eq_some_iff.mp hstored
        rw [hstored] at hmerged
        exact Option.some.inj hmerged ▸ hchange _ (hmembers m (List.mem_of_find?_eq_some hm))
    rw [heq]
    refine ih (fun m hm => ?_) hothers hrest
    rcases Members.mem_insert hm with rfl | hm
    · exact hp
    · exact hmembers m hm

theorem sorted_mergeMembers (h : members.Sorted) :
    Members.Sorted (mergeMembers members changes) := by
  induction changes generalizing members with
  | nil =>
    rw [mergeMembers]
    exact h
  | cons change rest ih =>
    obtain ⟨key, value⟩ := change
    obtain ⟨merged, -, heq⟩ := mergeMembers_cons members key value rest
    rw [heq]
    exact ih (h.insert key merged)

/-- A canonical value laid over a canonical one makes a canonical one. -/
theorem isCanonical_merge (hpatch : IsCanonical patch) (hbase : IsCanonical base) :
    IsCanonical (merge base patch) := by
  induction hpatch generalizing base with
  | @object changes hsorted hvalues ih =>
    cases hobject : base.isObject with
    | false =>
      rw [merge_of_not_isObject_left hobject]
      exact .object hsorted hvalues
    | true =>
      obtain ⟨members, rfl⟩ := exists_members hobject
      cases hbase with
      | object hmembers hstored =>
        rw [merge]
        exact .object (sorted_mergeMembers hmembers)
          (forall_mem_mergeMembers hstored hvalues fun m hm base hbase => ih m hm hbase)
  | null => cases base <;> exact .null
  | bool b => cases base <;> exact .bool b
  | number n => cases base <;> exact .number n
  | string s => cases base <;> exact .string s
  | array hitems _ => cases base <;> exact .array hitems

/-! ## All paths -/

theorem holdsValue_merge (hpatch : IsCanonical patch) {value : Json} :
    (merge base patch).HoldsValue path value ↔ patch.HoldsValue path value ∨
      base.HoldsValue path value ∧ patch.at? path = none ∧ ¬patch.Shadows path := by
  cases hat : patch.at? path with
  | some change =>
    have hmerged := at?_merge_of_some hpatch hat base
    simp only [HoldsValue, hmerged, hat, reduceCtorEq, false_and, and_false, or_false]
    cases hchange : change.isObject with
    | false => rw [overlay_of_not_isObject hchange]
    | true =>
      -- an object merged into anything is an object, and so is neither value
      obtain ⟨members, hobject⟩ := overlay_of_isObject hchange (base.at? path)
      rw [hobject]
      refine iff_of_false ?_ ?_
      · rintro ⟨h, hplain⟩
        obtain rfl := Option.some.inj h
        cases hplain
      · rintro ⟨h, hplain⟩
        obtain rfl := Option.some.inj h
        rw [hchange] at hplain
        cases hplain
  | none =>
    by_cases hshadows : patch.Shadows path
    · have hmerged := at?_merge_of_covers hpatch hat hshadows.covers base
      simp [HoldsValue, hmerged, hat, hshadows]
    · have hmerged := at?_merge_of_not_covers hpatch hat
        (not_covers_of_not_shadows hat hshadows) base
      simp [HoldsValue, hmerged, hat, hshadows]

theorem holdsObject_merge (hpatch : IsCanonical patch) : (merge base patch).HoldsObject path ↔
    patch.HoldsObject path ∨ base.HoldsObject path ∧ ¬patch.Covers path := by
  cases hat : patch.at? path with
  | some change =>
    have hmerged := at?_merge_of_some hpatch hat base
    cases hchange : change.isObject with
    | false =>
      have hcovers : patch.Covers path := ⟨path, List.prefix_rfl, change, hat, hchange⟩
      rw [overlay_of_not_isObject hchange] at hmerged
      simp [HoldsObject, hmerged, hat, hcovers]
    | true =>
      obtain ⟨changes, rfl⟩ := exists_members hchange
      refine iff_of_true ?_ (.inl ⟨changes, hat⟩)
      rw [HoldsObject, hmerged]
      exact overlay_of_isObject hchange (base.at? path)
  | none =>
    by_cases hcovers : patch.Covers path
    · have hmerged := at?_merge_of_covers hpatch hat hcovers base
      simp [HoldsObject, hmerged, hat, hcovers]
    · have hmerged := at?_merge_of_not_covers hpatch hat hcovers base
      simp [HoldsObject, hmerged, hat, hcovers]

/-- What a merge makes of two values, path by path. A value that is no object stands where the patch
has it, and where the base has it if the patch has nothing there and no such value above; an object
stands where the patch has one, and where the base has one if the patch has no such value there or
above. A path that the patch does not reach leads to what it led to before. -/
theorem merge_paths (hpatch : IsCanonical patch) :
    (∀ path value, (merge base patch).HoldsValue path value ↔ patch.HoldsValue path value ∨
      base.HoldsValue path value ∧ patch.at? path = none ∧ ¬patch.Shadows path) ∧
    (∀ path, (merge base patch).HoldsObject path ↔
      patch.HoldsObject path ∨ base.HoldsObject path ∧ ¬patch.Covers path) ∧
    (∀ path, patch.at? path = none → ¬patch.Shadows path →
      (merge base patch).at? path = base.at? path) ∧
    (IsCanonical base → IsCanonical (merge base patch)) :=
  ⟨fun _ _ => holdsValue_merge hpatch, fun _ => holdsObject_merge hpatch,
    fun _ hat hshadows =>
      at?_merge_of_not_covers hpatch hat (not_covers_of_not_shadows hat hshadows) base,
    isCanonical_merge hpatch⟩

/-- An object merged into an object keeps what is beside it at every depth, an object takes the
place of an array, and a null that of an object. -/
theorem merge_paths_deep :
    let base := object [("a", object [("x", bool true), ("y", object [("z", null)])]),
      ("b", array [null]), ("c", object [("d", string "e")])]
    let patch := object [("a", object [("y", object [("w", string "v")])]), ("b", object []),
      ("c", null)]
    IsCanonical patch ∧ (merge base patch).HoldsValue ["a", "y", "z"] null ∧
      (merge base patch).HoldsValue ["a", "y", "w"] (string "v") ∧
      (merge base patch).HoldsObject ["b"] ∧ (merge base patch).HoldsValue ["c"] null ∧
      ∀ value, ¬(merge base patch).HoldsValue ["c", "d"] value := by
  intro base patch
  have hpatch : IsCanonical patch := isCanonical_canonical patch
  obtain ⟨hvalues, hobjects, -, -⟩ := @merge_paths base patch hpatch
  have hbeside : ¬patch.Shadows ["a", "y", "z"] := by
    intro hshadows
    obtain ⟨_, ⟨⟩, hbelow⟩ := covers_cons.mp hshadows.covers
    obtain ⟨_, ⟨⟩, hbelow⟩ := covers_cons.mp hbelow
    obtain ⟨_, ⟨⟩, -⟩ := covers_cons.mp hbelow
  refine ⟨hpatch, (hvalues _ _).mpr (.inr ⟨⟨rfl, rfl⟩, rfl, hbeside⟩),
    (hvalues _ _).mpr (.inl ⟨rfl, rfl⟩), (hobjects _).mpr (.inl ⟨[], rfl⟩),
    (hvalues _ _).mpr (.inl ⟨rfl, rfl⟩), fun value h => ?_⟩
  rcases (hvalues _ _).mp h with ⟨⟨⟩, -⟩ | ⟨-, -, hshadows⟩
  exact hshadows ⟨["c"], ⟨["d"], rfl⟩, by decide, null, rfl, rfl⟩

end DeviceSecurity.Json
