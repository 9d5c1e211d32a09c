import DeviceSecurity.Proofs.Json.Merge
import DeviceSecurity.Proofs.Json.RoundTrip

/-!
# Values that can be written and read

Bringing a value into canonical form and laying one value over another neither nest it deeper nor
bring in new numbers. So what is made of values that a reader accepts is read again from its text,
and as the same value (`ofText?_text`), as long as the numbers are read back from what is written
for them. Those that are written as integers of 64 bits are (`FromInteger.readsBack`), the negative
zero among them, which is read as floating point.
-/

namespace DeviceSecurity.Json

variable {j base patch : Json} {members changes : Members Json} {kind : JsonNumber → Prop} {d : Nat}

/-! ## Canonical form -/

namespace Members

variable {α : Type} {l : Members α} {key : String} {value : α}

theorem insert_of_forall_lt (h : ∀ m ∈ l, m.1 < key) :
    insert key value l = l ++ [(key, value)] := by
  induction l with
  | nil => rfl
  | cons m rest ih =>
    obtain ⟨hm, hrest⟩ := List.forall_mem_cons.mp h
    unfold insert
    rw [if_neg hm.asymm, if_neg hm.ne', ih hrest, List.cons_append]

/-- Sorting keeps what is sorted. -/
theorem Sorted.sort_eq (h : Sorted l) : l.sort = l := by
  have hfold : ∀ (rest first : Members α), Sorted (first ++ rest) →
      rest.foldl (fun sorted m => sorted.insert m.1 m.2) first = first ++ rest := by
    intro rest
    induction rest with
    | nil => exact fun first _ => (List.append_nil first).symm
    | cons m rest ih =>
      intro first hsorted
      have hbefore : ∀ other ∈ first, other.1 < m.1 := fun other hother =>
        (List.pairwise_append.mp hsorted).2.2 other hother m List.mem_cons_self
      have hsame : first ++ m :: rest = (first ++ [m]) ++ rest := by simp
      rw [List.foldl_cons, insert_of_forall_lt hbefore, hsame]
      exact ih (first ++ [m]) (hsame ▸ hsorted)
  exact hfold l [] h

end Members

theorem canonicalItems_eq_map (items : List Json) : canonicalItems items = items.map canonical := by
  induction items with
  | nil => rfl
  | cons item rest ih => rw [canonicalItems, ih, List.map_cons]

theorem canonicalMembers_eq_map (members : List (String × Json)) :
    canonicalMembers members = members.map fun m => (m.1, m.2.canonical) := by
  induction members with
  | nil => rfl
  | cons m rest ih => rw [canonicalMembers, ih, List.map_cons]

/-- A canonical value is its canonical form. -/
theorem IsCanonical.canonical_eq (h : IsCanonical j) : j.canonical = j := by
  induction h with
  | @array items _ ih =>
    rw [canonical, canonicalItems_eq_map, List.map_congr_left ih, List.map_id']
  | @object members hsorted _ ih =>
    have hsame : canonicalMembers members = members := by
      rw [canonicalMembers_eq_map, List.map_congr_left fun m hm => by rw [ih m hm], List.map_id']
    rw [canonical, hsame, hsorted.sort_eq]
  | _ => rfl

theorem isObject_canonical (j : Json) : j.canonical.isObject = j.isObject := by
  cases j <;> rfl

/-- The members of the canonical form come from those of the value. -/
theorem exists_of_mem_canonical {m : String × Json}
    (hm : m ∈ Members.sort (canonicalMembers members)) :
    ∃ written ∈ members, m = (written.1, written.2.canonical) := by
  have hmem := Members.mem_sort hm
  rw [canonicalMembers_eq_map] at hmem
  obtain ⟨written, hwritten, rfl⟩ := List.mem_map.mp hmem
  exact ⟨written, hwritten, rfl⟩

theorem depth_canonical_le (h : j.depth ≤ d) : j.canonical.depth ≤ d := by
  induction d generalizing j with
  | zero =>
    cases j with
    | array | object => cases h
    | _ => exact h
  | succ d ih =>
    cases j with
    | array items =>
      have hitems := depth_array_le.mp h
      rw [canonical, canonicalItems_eq_map]
      exact depth_array_le.mpr (List.forall_mem_map.mpr fun item hitem => ih (hitems item hitem))
    | object members =>
      have hmembers := depth_object_le.mp h
      rw [canonical]
      refine depth_object_le.mpr fun m hm => ?_
      obtain ⟨written, hwritten, rfl⟩ := exists_of_mem_canonical hm
      exact ih (hmembers written hwritten)
    | _ => exact h

theorem AllNumbers.canonical (h : AllNumbers kind j) : AllNumbers kind j.canonical := by
  induction h with
  | null => exact .null
  | bool b => exact .bool b
  | number h => exact .number h
  | string s => exact .string s
  | array _ ih =>
    rw [Json.canonical, canonicalItems_eq_map]
    exact .array (List.forall_mem_map.mpr ih)
  | object _ ih =>
    rw [Json.canonical]
    refine .object fun m hm => ?_
    obtain ⟨written, hwritten, rfl⟩ := exists_of_mem_canonical hm
    exact ih written hwritten

theorem AllNumbers.imp {other : JsonNumber → Prop} (himp : ∀ n, kind n → other n)
    (h : AllNumbers kind j) : AllNumbers other j := by
  induction h with
  | null => exact .null
  | bool b => exact .bool b
  | number h => exact .number (himp _ h)
  | string s => exact .string s
  | array _ ih => exact .array ih
  | object _ ih => exact .object ih

/-! ## Merging -/

theorem depth_merge_le (hbase : base.depth ≤ d) (hpatch : patch.depth ≤ d) :
    (merge base patch).depth ≤ d := by
  induction d generalizing base patch with
  | zero =>
    cases patch with
    | object => cases hpatch
    | _ => rwa [merge_of_not_isObject_right rfl]
  | succ d ih =>
    cases hobject : base.isObject with
    | false => rwa [merge_of_not_isObject_left hobject]
    | true =>
      obtain ⟨members, rfl⟩ := exists_members hobject
      cases patch with
      | object changes =>
        have hvalues := depth_object_le.mp hpatch
        have hmerged := forall_mem_mergeMembers (p := fun v => v.depth ≤ d)
          (depth_object_le.mp hbase) hvalues fun m hm stored hstored => ih hstored (hvalues m hm)
        rw [merge]
        exact depth_object_le.mpr hmerged
      | _ => rwa [merge_of_not_isObject_right rfl]

theorem AllNumbers.merge (hbase : AllNumbers kind base) (hpatch : AllNumbers kind patch) :
    AllNumbers kind (merge base patch) := by
  induction hpatch generalizing base with
  | @object changes hvalues ih =>
    cases hobject : base.isObject with
    | false =>
      rw [merge_of_not_isObject_left hobject]
      exact .object hvalues
    | true =>
      obtain ⟨members, rfl⟩ := exists_members hobject
      cases hbase with
      | object hmembers =>
        rw [Json.merge]
        exact .object
          (forall_mem_mergeMembers hmembers hvalues fun m hm base hbase => ih m hm hbase)
  | null => cases base <;> exact .null
  | bool b => cases base <;> exact .bool b
  | number h => cases base <;> exact .number h
  | string s => cases base <;> exact .string s
  | array hitems _ => cases base <;> exact .array hitems

/-! ## Writing and reading -/

/-- A canonical value is read from its own text. -/
theorem ofText?_text (hcanonical : IsCanonical j) (hnumbers : AllNumbers ReadsBack j)
    (hd : j.depth ≤ maxDepth) : ofText? j.text = some j := by
  rw [ofText?, parse?_text_of_readsBack hnumbers hd, Option.map_some, hcanonical.canonical_eq]

/-! ## Integers -/

/-- The natural number that digits write. -/
def digitsValue (s : List Char) : Nat := s.foldl (fun n d => n * 10 + (d.toNat - '0'.toNat)) 0

/-- A number written as an integer of 64 bits: by a sign and digits. -/
structure Numeral.IsInteger (m : Numeral) : Prop where
  fraction : m.fraction = none
  exponent : m.exponent = none
  range : if m.negative then digitsValue m.integer ≤ 2 ^ 63 else digitsValue m.integer < 2 ^ 64

/-- What is read from an integer of 64 bits. -/
def FromInteger (n : JsonNumber) : Prop := ∃ m : Numeral, m.IsInteger ∧ m.value? = some n

theorem fromInteger_whole {n : Nat} (h : n < 2 ^ 64) : FromInteger (.whole n) := by
  have hdigits : digitsValue (natChars n) = n := foldl_natChars n
  refine ⟨wholeNumeral false n, ⟨rfl, rfl, ?_⟩, value?_wholeNumeral h⟩
  show digitsValue (natChars n) < 2 ^ 64
  rwa [hdigits]

theorem le_foldl_digits (s : List Char) (n : Nat) :
    n ≤ s.foldl (fun n d => n * 10 + (d.toNat - '0'.toNat)) n := by
  induction s generalizing n with
  | nil => exact Nat.le_refl n
  | cons c s ih =>
    refine Nat.le_trans ?_ (ih _)
    show n ≤ n * 10 + (c.toNat - '0'.toNat)
    omega

/-- Zero is written with a single digit. -/
theorem Numeral.integer_of_digitsValue_eq_zero {m : Numeral} (h : digitsValue m.integer = 0) :
    m.integer = ['0'] := by
  obtain ⟨c, rest, hinteger, hdigit⟩ := m.integer_spec.exists_cons
  have hzero := m.zero_spec
  rw [hinteger] at h hzero ⊢
  have hc : c = '0' := by
    have hle := le_foldl_digits rest (0 * 10 + (c.toNat - '0'.toNat))
    have hlower := (Char.isDigit_iff_toNat.mp hdigit).1
    rw [digitsValue, List.foldl_cons] at h
    exact Char.toNat_inj.mp (by omega)
  subst hc
  rw [List.length_eq_zero_iff.mp (Nat.succ.inj (hzero rfl))]

/-- The negative zero is read as floating point, and read back from what is written for it. -/
theorem readsBack_of_minusZero {n : JsonNumber} (h : numberValue? true ['0'] none none = some n) :
    ReadsBack n := by
  have hread : numberValue? true ['0'] none none =
      some (.real (Binary64.zero.withSign true)) := by decide +kernel
  rw [hread] at h
  obtain rfl := Option.some.inj h
  decide +kernel

theorem FromInteger.readsBack {n : JsonNumber} (h : FromInteger n) : ReadsBack n := by
  obtain ⟨m, ⟨hfraction, hexponent, hrange⟩, hvalue⟩ := h
  rw [Numeral.value?, hfraction, hexponent, Option.map_none] at hvalue
  cases hsign : m.negative with
  | false =>
    rw [hsign] at hvalue hrange
    have hfits : digitsValue m.integer < 2 ^ 64 := hrange
    have hwhole : numberValue? false m.integer none none =
      some (.whole (digitsValue m.integer)) := if_pos ⟨rfl, rfl, hfits⟩
    rw [hwhole] at hvalue
    obtain rfl := Option.some.inj hvalue
    exact readsBack_whole (by omega) (by omega)
  | true =>
    rw [hsign] at hvalue hrange
    have hfits : digitsValue m.integer ≤ 2 ^ 63 := hrange
    rcases Nat.eq_zero_or_pos (digitsValue m.integer) with hzero | hpos
    · rw [Numeral.integer_of_digitsValue_eq_zero hzero] at hvalue
      exact readsBack_of_minusZero hvalue
    · have hwhole : numberValue? true m.integer none none =
        some (.whole (-digitsValue m.integer)) := if_pos ⟨rfl, rfl, hpos, hfits⟩
      rw [hwhole] at hvalue
      obtain rfl := Option.some.inj hvalue
      exact readsBack_whole (by omega) (by omega)

end DeviceSecurity.Json
