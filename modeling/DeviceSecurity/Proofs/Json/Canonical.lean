import DeviceSecurity.Json.Merge
import DeviceSecurity.Json.Parser
import Mathlib.Data.String.Basic

/-!
# Canonical values

In a canonical value the members of every object are sorted by key, each key once. `canonical`
brings every value into this form, so every text is read as a canonical value; and what is put into
sorted members is found again, whatever else they hold (`Members.get?_insert`).
-/

namespace DeviceSecurity.Json

namespace Members

variable {α : Type} {members : Members α} {key : String} {value : α}

/-- The members are sorted by key, and no key stands twice. -/
def Sorted (members : Members α) : Prop := members.Pairwise fun a b => a.1 < b.1

theorem sorted_cons {m : String × α} :
    Sorted (m :: members) ↔ (∀ other ∈ members, m.1 < other.1) ∧ Sorted members :=
  List.pairwise_cons

/-! ## Looking up -/

theorem get?_nil (key : String) : get? ([] : Members α) key = none := rfl

theorem get?_cons (m : String × α) (members : Members α) (key : String) :
    get? (m :: members) key = if m.1 = key then some m.2 else get? members key := by
  unfold get?
  by_cases h : m.1 = key
  · simp [h]
  · simp [h]

theorem get?_eq_none (h : ∀ m ∈ members, m.1 ≠ key) : get? members key = none := by
  unfold get?
  rw [List.find?_eq_none.mpr (by simpa using h)]
  rfl

/-- What is inserted is found under its key, and nothing else is touched. -/
theorem get?_insert (members : Members α) (key : String) (value : α) (k : String) :
    get? (insert key value members) k = if key = k then some value else get? members k := by
  induction members with
  | nil => exact get?_cons (key, value) [] k
  | cons m rest ih =>
    obtain ⟨k', v⟩ := m
    unfold insert
    split
    · exact get?_cons (key, value) ((k', v) :: rest) k
    · split
      · next hsame =>
        subst hsame
        rw [get?_cons, get?_cons]
        by_cases hk : key = k
        · rw [if_pos hk, if_pos hk]
        · rw [if_neg hk, if_neg hk, if_neg hk]
      · next hne =>
        rw [get?_cons, get?_cons, ih]
        by_cases hk : key = k
        · have hk' : k' ≠ k := fun h => hne (hk.trans h.symm)
          rw [if_pos hk, if_neg hk', if_pos hk]
        · rw [if_neg hk, if_neg hk]

/-! ## Sorting -/

theorem mem_insert {m : String × α} (h : m ∈ insert key value members) :
    m = (key, value) ∨ m ∈ members := by
  induction members with
  | nil => exact .inl (List.mem_singleton.mp h)
  | cons first rest ih =>
    unfold insert at h
    split at h
    · exact List.mem_cons.mp h
    · split at h
      · rcases List.mem_cons.mp h with h | h
        · exact .inl h
        · exact .inr (List.mem_cons_of_mem first h)
      · rcases List.mem_cons.mp h with rfl | h
        · exact .inr List.mem_cons_self
        · exact (ih h).imp_right (List.mem_cons_of_mem first)

/-- A member is put at its place. -/
theorem Sorted.insert (h : Sorted members) (key : String) (value : α) :
    Sorted (members.insert key value) := by
  induction members with
  | nil => exact List.pairwise_singleton _ _
  | cons m rest ih =>
    obtain ⟨k, v⟩ := m
    obtain ⟨hfirst, hrest⟩ := sorted_cons.mp h
    unfold Members.insert
    split
    · next hless =>
      refine sorted_cons.mpr ⟨fun other hother => ?_, h⟩
      rcases List.mem_cons.mp hother with rfl | hother
      · exact hless
      · exact lt_trans hless (hfirst other hother)
    · next hnot =>
      split
      · next hsame => exact sorted_cons.mpr ⟨fun other hother => hsame ▸ hfirst other hother, hrest⟩
      · next hne =>
        refine sorted_cons.mpr ⟨fun other hother => ?_, ih hrest⟩
        rcases mem_insert hother with rfl | hother
        · exact lt_of_le_of_ne (not_lt.mp hnot) (Ne.symm hne)
        · exact hfirst other hother

theorem sorted_sort (members : Members α) : Sorted members.sort := by
  have hfold : ∀ (l sorted : Members α), Sorted sorted →
      Sorted (l.foldl (fun sorted m => sorted.insert m.1 m.2) sorted) := by
    intro l
    induction l with
    | nil => exact fun _ h => h
    | cons m l ih => exact fun sorted h => ih _ (h.insert m.1 m.2)
  exact hfold members [] List.Pairwise.nil

theorem mem_sort {m : String × α} (h : m ∈ members.sort) : m ∈ members := by
  have hfold : ∀ (l sorted : Members α),
      m ∈ l.foldl (fun sorted m => sorted.insert m.1 m.2) sorted → m ∈ l ∨ m ∈ sorted := by
    intro l
    induction l with
    | nil => exact fun _ h => .inr h
    | cons first l ih =>
      intro sorted h
      rcases ih _ h with h | h
      · exact .inl (List.mem_cons_of_mem first h)
      · rcases mem_insert h with rfl | h
        · exact .inl List.mem_cons_self
        · exact .inr h
  rcases hfold members [] h with h | h
  · exact h
  · cases h

end Members

/-! ## Canonical values -/

/-- All objects in the value are sorted. -/
inductive IsCanonical : Json → Prop
  | null : IsCanonical null
  | bool (b : Bool) : IsCanonical (bool b)
  | number (n : JsonNumber) : IsCanonical (number n)
  | string (s : String) : IsCanonical (string s)
  | array {items : List Json} (h : ∀ item ∈ items, IsCanonical item) : IsCanonical (array items)
  | object {members : Members Json} (hsorted : members.Sorted)
    (h : ∀ m ∈ members, IsCanonical m.2) : IsCanonical (object members)

mutual

/-- Every value is brought into canonical form. -/
theorem isCanonical_canonical : ∀ j : Json, IsCanonical j.canonical
  | null => .null
  | bool b => .bool b
  | number n => .number n
  | string s => .string s
  | array items => .array (isCanonical_canonicalItems items)
  | object members =>
    .object (Members.sorted_sort _) fun m hm =>
      isCanonical_canonicalMembers members m (Members.mem_sort hm)

theorem isCanonical_canonicalItems :
    ∀ items : List Json, ∀ item ∈ canonicalItems items, IsCanonical item
  | [], _, h => nomatch h
  | first :: rest, item, h => by
    rcases List.mem_cons.mp h with rfl | h
    · exact isCanonical_canonical first
    · exact isCanonical_canonicalItems rest item h

theorem isCanonical_canonicalMembers :
    ∀ members : List (String × Json), ∀ m ∈ canonicalMembers members, IsCanonical m.2
  | [], _, h => nomatch h
  | (_, value) :: rest, m, h => by
    rcases List.mem_cons.mp h with rfl | h
    · exact isCanonical_canonical value
    · exact isCanonical_canonicalMembers rest m h

end

end DeviceSecurity.Json
