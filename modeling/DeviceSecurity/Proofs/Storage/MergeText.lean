import DeviceSecurity.Proofs.Json.Algebra
import DeviceSecurity.Proofs.Json.Closure
import DeviceSecurity.Proofs.Storage.Item

/-!
# Texts that merges make

A merge of texts succeeds exactly if both are texts of objects that nest no deeper than is read
(`exists_mergeText`). What it writes is such a text again, and is read as the merged value, as long
as the numbers are read back (`IsStorable`); so merges can go on for ever (`mergeText_closed`).

For a vault this means that an item that holds an object can be merged into after any sequence of
merges that went through, and that its text is that of the values that were read, laid one over the
other (`objectIn_mergedItem`). Only the first patch for a missing item is stored as it is written.
-/

namespace DeviceSecurity.Storage

open Json

variable {base patch text out : String} {j stored changes : Json} {kind : JsonNumber → Prop}

/-! ## Texts of objects -/

/-- The text of an object that nests no deeper than is read. -/
def IsObjectText (text : String) : Prop :=
  ∃ j, IsTextOf j text ∧ j.depth ≤ maxDepth ∧ j.isObject = true

/-- Every number in the text is an integer of 64 bits. -/
def HasIntegers (text : String) : Prop := ∀ j, IsTextOf j text → AllNumbers FromInteger j

/-- Texts of one value, which they may write with other blanks and escapes, with the members in
another order, or with members that later ones replace. -/
def SameValue (text other : String) : Prop :=
  ∃ j k, IsTextOf j text ∧ IsTextOf k other ∧ j.depth ≤ maxDepth ∧ k.depth ≤ maxDepth ∧
    j.canonical = k.canonical

theorem objectOfText_eq_ok :
    objectOfText text = .ok j ↔ ofText? text = some j ∧ j.isObject = true := by
  unfold objectOfText
  cases ofText? text with
  | none => simp
  | some value =>
    dsimp only
    split
    · next hobject =>
      constructor
      · rintro ⟨⟩
        exact ⟨rfl, hobject⟩
      · rintro ⟨⟨⟩, -⟩
        rfl
    · next hobject =>
      refine iff_of_false (fun h => nomatch h) ?_
      rintro ⟨⟨⟩, h⟩
      exact hobject h

theorem ofText?_eq_some_iff : ofText? text = some j ↔
    ∃ written, IsTextOf written text ∧ written.depth ≤ maxDepth ∧ written.canonical = j := by
  rw [ofText?, Option.map_eq_some_iff]
  simp only [parse?_eq_some_iff, and_assoc]

theorem objectOfText_eq_ok_iff : objectOfText text = .ok j ↔ ∃ written, IsTextOf written text ∧
    written.depth ≤ maxDepth ∧ written.isObject = true ∧ written.canonical = j := by
  rw [objectOfText_eq_ok, ofText?_eq_some_iff]
  constructor
  · rintro ⟨⟨written, htext, hd, rfl⟩, hobject⟩
    exact ⟨written, htext, hd, isObject_canonical written ▸ hobject, rfl⟩
  · rintro ⟨written, htext, hd, hobject, rfl⟩
    exact ⟨⟨written, htext, hd, rfl⟩, (isObject_canonical written).trans hobject⟩

theorem exists_objectOfText : (∃ j, objectOfText text = .ok j) ↔ IsObjectText text := by
  simp only [objectOfText_eq_ok_iff]
  constructor
  · rintro ⟨_, written, htext, hd, hobject, -⟩
    exact ⟨written, htext, hd, hobject⟩
  · rintro ⟨written, htext, hd, hobject⟩
    exact ⟨_, written, htext, hd, hobject, rfl⟩

theorem mergeText_eq_ok : mergeText base patch = .ok out ↔ ∃ stored changes,
    objectOfText base = .ok stored ∧ objectOfText patch = .ok changes ∧
      (merge stored changes).text = out := by
  unfold mergeText
  cases objectOfText base with
  | error fault => simp [bind, Except.bind]
  | ok stored =>
    cases objectOfText patch with
    | error fault => simp [bind, Except.bind]
    | ok changes => simp [bind, Except.bind, pure, Except.pure]

theorem exists_mergeText :
    (∃ out, mergeText base patch = .ok out) ↔ IsObjectText base ∧ IsObjectText patch := by
  simp only [mergeText_eq_ok, ← exists_objectOfText]
  constructor
  · rintro ⟨_, stored, changes, hstored, hchanges, -⟩
    exact ⟨⟨stored, hstored⟩, changes, hchanges⟩
  · rintro ⟨⟨stored, hstored⟩, changes, hchanges⟩
    exact ⟨_, stored, changes, hstored, hchanges, rfl⟩

/-- A merge looks at the values of its texts only. -/
theorem mergeText_congr {base' patch' : String} (hbase : SameValue base base')
    (hpatch : SameValue patch patch') : mergeText base' patch' = mergeText base patch := by
  have hsame : ∀ {t u : String}, SameValue t u → objectOfText u = objectOfText t := by
    rintro t u ⟨j, k, hj, hk, hdj, hdk, heq⟩
    unfold objectOfText
    rw [ofText?_eq_some_iff.mpr ⟨j, hj, hdj, rfl⟩, ofText?_eq_some_iff.mpr ⟨k, hk, hdk, heq.symm⟩]
  rw [mergeText, mergeText, hsame hbase, hsame hpatch]

/-! ## Objects that are read from what is written for them -/

/-- A canonical object with numbers of a kind that nests no deeper than is read. -/
structure IsStorable (kind : JsonNumber → Prop) (j : Json) : Prop where
  canonical : IsCanonical j
  isObject : j.isObject = true
  numbers : AllNumbers kind j
  depth : j.depth ≤ maxDepth

theorem isStorable_of_objectOfText (h : objectOfText text = .ok j) (hnumbers : AllNumbers kind j) :
    IsStorable kind j := by
  obtain ⟨hread, hobject⟩ := objectOfText_eq_ok.mp h
  obtain ⟨written, -, hd, rfl⟩ := ofText?_eq_some_iff.mp hread
  exact ⟨isCanonical_canonical written, hobject, hnumbers, depth_canonical_le hd⟩

theorem isStorable_empty : IsStorable kind (object []) :=
  ⟨.object List.Pairwise.nil (by simp), rfl, .object (by simp), by decide⟩

theorem IsStorable.merge (hstored : IsStorable kind stored) (hchanges : IsStorable kind changes) :
    IsStorable kind (merge stored changes) := by
  refine ⟨isCanonical_merge hchanges.canonical hstored.canonical, ?_,
    hstored.numbers.merge hchanges.numbers, depth_merge_le hstored.depth hchanges.depth⟩
  obtain ⟨members, rfl⟩ := exists_members hstored.isObject
  obtain ⟨others, rfl⟩ := exists_members hchanges.isObject
  rw [Json.merge]
  rfl

theorem IsStorable.foldl_merge {patches : List Json} (hstored : IsStorable kind stored)
    (h : ∀ p ∈ patches, IsStorable kind p) : IsStorable kind (patches.foldl Json.merge stored) := by
  induction patches generalizing stored with
  | nil => exact hstored
  | cons p patches ih =>
    obtain ⟨hp, hpatches⟩ := List.forall_mem_cons.mp h
    exact ih (hstored.merge hp) hpatches

theorem IsStorable.objectOfText_text (h : IsStorable ReadsBack j) : objectOfText j.text = .ok j :=
  objectOfText_eq_ok.mpr ⟨ofText?_text h.canonical h.numbers h.depth, h.isObject⟩

theorem IsStorable.readsBack (h : IsStorable FromInteger j) : IsStorable ReadsBack j :=
  ⟨h.canonical, h.isObject, h.numbers.imp fun _ => FromInteger.readsBack, h.depth⟩

theorem objectOfText_empty : objectOfText "\x7b\x7d" = .ok (object []) :=
  objectOfText_eq_ok_iff.mpr ⟨object [], ⟨[], _, [], rfl, allBlank_nil, allBlank_nil,
    .emptyObject allBlank_nil⟩, by decide, rfl, rfl⟩

/-- Merging the empty object into the text of an object gives that text back. -/
theorem IsStorable.mergeText_empty (h : IsStorable ReadsBack j) :
    mergeText j.text "\x7b\x7d" = .ok j.text := by
  refine mergeText_eq_ok.mpr ⟨j, object [], h.objectOfText_text, objectOfText_empty, ?_⟩
  obtain ⟨members, rfl⟩ := exists_members h.isObject
  rw [merge_empty]

/-! ## Items -/

/-- The object that a text holds, and the empty object where it holds none. -/
def objectIn (text : String) : Json :=
  match objectOfText text with
  | .ok j => j
  | .error _ => object []

/-- The object that an item holds. A missing item counts as the empty object. -/
def objectInItem (stored : Option String) : Json := stored.elim (object []) objectIn

theorem objectIn_of_ok (h : objectOfText text = .ok j) : objectIn text = j := by
  rw [objectIn, h]

theorem objectIn_of_parse? {members : Members Json} (h : parse? text = some (object members)) :
    objectIn text = (object members).canonical :=
  objectIn_of_ok (objectOfText_eq_ok.mpr ⟨by rw [ofText?, h, Option.map_some], rfl⟩)

theorem isStorable_objectIn (h : AllNumbers kind (objectIn text)) :
    IsStorable kind (objectIn text) := by
  cases hread : objectOfText text with
  | ok j =>
    rw [objectIn_of_ok hread] at h ⊢
    exact isStorable_of_objectOfText hread h
  | error fault =>
    rw [objectIn, hread]
    exact isStorable_empty

theorem isStorable_objectInItem {stored : Option String}
    (h : AllNumbers kind (objectInItem stored)) : IsStorable kind (objectInItem stored) := by
  cases stored with
  | none => exact isStorable_empty
  | some text => exact isStorable_objectIn h

theorem HasIntegers.objectIn (h : HasIntegers text) : AllNumbers FromInteger (objectIn text) := by
  cases hread : objectOfText text with
  | ok j =>
    obtain ⟨written, htext, -, -, rfl⟩ := objectOfText_eq_ok_iff.mp hread
    rw [objectIn_of_ok hread]
    exact (h written htext).canonical
  | error fault =>
    rw [Storage.objectIn, hread]
    exact isStorable_empty.numbers

theorem hasIntegers_of_parse? (h : parse? text = some j) (hnumbers : AllNumbers FromInteger j) :
    HasIntegers text :=
  fun _ hk => hk.unique (parse?_eq_some_iff.mp h).1 ▸ hnumbers

theorem hasIntegers_text (h : IsStorable FromInteger j) : HasIntegers j.text :=
  hasIntegers_of_parse? (parse?_text_of_readsBack h.readsBack.numbers h.depth) h.numbers

/-- What a merge writes holds the merged object. Over an item that is there it is the text of that
object; the patch for a missing item is stored as it is written. -/
theorem objectOfText_mergedText {stored : Option String} {merged : String}
    (h : Vault.mergedText stored patch = .ok merged)
    (hstored : AllNumbers ReadsBack (objectInItem stored))
    (hpatch : AllNumbers ReadsBack (objectIn patch)) :
    objectOfText merged = .ok (merge (objectInItem stored) (objectIn patch)) ∧
      (stored ≠ none → merged = (merge (objectInItem stored) (objectIn patch)).text) := by
  have hchanges := isStorable_objectIn hpatch
  cases stored with
  | none =>
    obtain ⟨changes, hread, rfl⟩ := map_eq_ok.mp h
    rw [objectIn_of_ok hread] at hchanges ⊢
    obtain ⟨members, rfl⟩ := exists_members hchanges.isObject
    refine ⟨?_, fun hnone => absurd rfl hnone⟩
    rw [hread, objectInItem, Option.elim_none, empty_merge hchanges.canonical]
  | some text =>
    obtain ⟨base, changes, hbase, hread, rfl⟩ := mergeText_eq_ok.mp h
    have hmerged := (isStorable_objectInItem hstored).merge hchanges
    rw [objectInItem, Option.elim_some, objectIn_of_ok hbase, objectIn_of_ok hread] at hmerged ⊢
    exact ⟨hmerged.objectOfText_text, fun _ => rfl⟩

/-- What is made of an item by patches, one after another, holds the object that is made of its
object by theirs. -/
theorem objectOfText_mergedItem {stored : Option String} {patches : List String} {merged : String}
    (h : Vault.mergedItem stored patches = .ok (some merged)) (hne : patches ≠ [])
    (hstored : AllNumbers ReadsBack (objectInItem stored))
    (hpatches : ∀ p ∈ patches, AllNumbers ReadsBack (objectIn p)) :
    objectOfText merged = .ok ((patches.map objectIn).foldl merge (objectInItem stored)) ∧
      (stored ≠ none →
        merged = ((patches.map objectIn).foldl merge (objectInItem stored)).text) := by
  induction patches generalizing stored with
  | nil => exact absurd rfl hne
  | cons p patches ih =>
    obtain ⟨hp, hrest⟩ := List.forall_mem_cons.mp hpatches
    cases hfirst : Vault.mergedText stored p with
    | error fault =>
      rw [Vault.mergedItem, List.foldlM_cons, hfirst] at h
      cases h
    | ok first =>
      rw [Vault.mergedItem_cons hfirst] at h
      obtain ⟨hread, htext⟩ := objectOfText_mergedText hfirst hstored hp
      have hobject : objectInItem (some first) = merge (objectInItem stored) (objectIn p) :=
        objectIn_of_ok hread
      cases patches with
      | nil =>
        obtain rfl : first = merged := Option.some.inj (Except.ok.inj h)
        exact ⟨hread, htext⟩
      | cons q patches =>
        have hnumbers := hobject ▸ hstored.merge hp
        obtain ⟨hmerged, htext'⟩ := ih h (List.cons_ne_nil _ _) hnumbers hrest
        rw [hobject] at hmerged htext'
        exact ⟨hmerged, fun _ => htext' (Option.some_ne_none first)⟩

/-! ## Closure -/

theorem IsStorable.isObjectText (h : IsStorable ReadsBack j) : IsObjectText j.text :=
  exists_objectOfText.mp ⟨j, h.objectOfText_text⟩

/-- What a merge of texts with integers writes, by the values that the texts spell. -/
theorem isStorable_mergeText (hstored : IsTextOf stored base) (hchanges : IsTextOf changes patch)
    (hbase : HasIntegers base) (hpatch : HasIntegers patch) (h : mergeText base patch = .ok out) :
    IsStorable FromInteger (Json.merge stored.canonical changes.canonical) ∧
      out = (Json.merge stored.canonical changes.canonical).text := by
  obtain ⟨j, k, hj, hk, rfl⟩ := mergeText_eq_ok.mp h
  obtain ⟨written, htext, -, -, rfl⟩ := objectOfText_eq_ok_iff.mp hj
  obtain ⟨written', htext', -, -, rfl⟩ := objectOfText_eq_ok_iff.mp hk
  obtain rfl := hstored.unique htext
  obtain rfl := hchanges.unique htext'
  have hleft := isStorable_of_objectOfText hj (hbase stored hstored).canonical
  have hright := isStorable_of_objectOfText hk (hpatch changes hchanges).canonical
  exact ⟨hleft.merge hright, rfl⟩

/-- Merges of texts with integers are closed. A merge succeeds exactly if both are texts of objects
that nest no deeper than is read. What it writes is read as the merged value, nests no deeper than
the deeper of the two, can stand on either side of a merge with any text of an object, and does not
change when the empty object is merged into it. Texts of the same values make the same text. In a
vault, an item that holds an object holds one that can be merged into after every sequence of merges
that went through, and if one of these was for its key, the item is the text of the values that were
read, laid one over the other. -/
theorem mergeText_closed :
    (∀ base patch,
      (∃ out, mergeText base patch = .ok out) ↔ IsObjectText base ∧ IsObjectText patch) ∧
    (∀ base patch stored changes out, IsTextOf stored base → IsTextOf changes patch →
      HasIntegers base → HasIntegers patch → mergeText base patch = .ok out →
      let merged := Json.merge stored.canonical changes.canonical
      parse? out = some merged ∧ merged.depth ≤ max stored.depth changes.depth ∧
      HasIntegers out ∧ mergeText out "\x7b\x7d" = .ok out ∧
      ∀ other, IsObjectText other →
        (∃ t, mergeText out other = .ok t) ∧ ∃ t, mergeText other out = .ok t) ∧
    (∀ base base' patch patch', SameValue base base' → SameValue patch patch' →
      mergeText base' patch' = mergeText base patch) ∧
    ∀ (σ : Type) (v : Vault σ) (content : σ → String → Option String) (s s' : VaultState σ)
      (entries : List (String × String)) (key base : String), v.backing.Stores content →
      (v.multiMerge entries).runOn s = (.ok (), s') →
      v.item (content s.store) key = .ok (some base) → IsObjectText base → HasIntegers base →
      (∀ patch ∈ Vault.patchesFor key entries, HasIntegers patch) →
      ∃ out, v.item (content s'.store) key = .ok (some out) ∧ IsObjectText out ∧ HasIntegers out ∧
        (∀ other, IsObjectText other → ∃ t, mergeText out other = .ok t) ∧
        (Vault.patchesFor key entries ≠ [] → out = (((Vault.patchesFor key entries).map
          objectIn).foldl Json.merge (objectIn base)).text) := by
  refine ⟨fun base patch => exists_mergeText, ?_, fun _ _ _ _ => mergeText_congr, ?_⟩
  · intro base patch stored changes out hstored hchanges hbase hpatch h merged
    obtain ⟨hmerged, rfl⟩ := isStorable_mergeText hstored hchanges hbase hpatch h
    have hback := hmerged.readsBack
    refine ⟨parse?_text_of_readsBack hback.numbers hback.depth, ?_, hasIntegers_text hmerged,
      hback.mergeText_empty, fun other hother => ?_⟩
    · exact depth_merge_le (depth_canonical_le (Nat.le_max_left _ _))
        (depth_canonical_le (Nat.le_max_right _ _))
    · exact ⟨exists_mergeText.mpr ⟨hback.isObjectText, hother⟩,
        exists_mergeText.mpr ⟨hother, hback.isObjectText⟩⟩
  · intro σ v content s s' entries key base hstores hrun hitem hobject hbase hpatches
    have hmergeable : ∀ {out}, IsObjectText out → ∀ other, IsObjectText other →
        ∃ t, mergeText out other = .ok t :=
      fun hout other hother => exists_mergeText.mpr ⟨hout, hother⟩
    rcases Vault.item_multiMerge hstores hrun key with
      ⟨hnone, hsame⟩ | ⟨stored, out, hstored, hne, hmerged, hout⟩
    · exact ⟨base, hsame.trans hitem, hobject, hbase, hmergeable hobject,
        fun hne => absurd hnone hne⟩
    · rw [hitem] at hstored
      obtain rfl := Except.ok.inj hstored
      have hstorable : IsStorable FromInteger (((Vault.patchesFor key entries).map
          objectIn).foldl Json.merge (objectIn base)) :=
        (isStorable_objectIn hbase.objectIn).foldl_merge (List.forall_mem_map.mpr fun p hp =>
          isStorable_objectIn (hpatches p hp).objectIn)
      obtain ⟨-, htext⟩ := objectOfText_mergedItem hmerged hne
        (hbase.objectIn.imp fun _ => FromInteger.readsBack)
        fun p hp => (hpatches p hp).objectIn.imp fun _ => FromInteger.readsBack
      obtain rfl := htext (Option.some_ne_none base)
      exact ⟨_, hout, hstorable.readsBack.isObjectText, hasIntegers_text hstorable,
        hmergeable hstorable.readsBack.isObjectText, fun _ => rfl⟩

/-- A patch with blanks, an escape, its keys out of order and one of them twice. -/
theorem mergeText_closed_shadowed :
    let base := "\x7b\"a\":\x7b\"x\":1\x7d,\"b\":[2]\x7d"
    let patch := " \x7b \"b\" : 0, \"a\" : \x7b \"y\" : 3, \"x\" : \"\\/\" \x7d, \"b\" : 7 \x7d"
    let out := "\x7b\"a\":\x7b\"x\":\"/\",\"y\":3\x7d,\"b\":7\x7d"
    let v : Vault Entries := ⟨.memory, ⟨⟨List.replicate 16 7, by decide⟩, .strict⟩, false⟩
    mergeText base patch = .ok out ∧ mergeText out "\x7b\x7d" = .ok out ∧
    ∃ s s', (v.set "k" base).runOn ⟨[], []⟩ = (.ok (), s) ∧
      (v.multiMerge [("k", patch)]).runOn s = (.ok (), s') ∧
      v.item (Entries.get? s'.store) "k" = .ok (some out) := by
  have hread : parse? "\x7b\"a\":\x7b\"x\":1\x7d,\"b\":[2]\x7d" =
      some (object
        [("a", object [("x", .number (.whole 1))]), ("b", array [.number (.whole 2)])]) := by
    rfl
  have hread' : parse?
      " \x7b \"b\" : 0, \"a\" : \x7b \"y\" : 3, \"x\" : \"\\/\" \x7d, \"b\" : 7 \x7d" =
    some (object [("b", .number (.whole 0)), ("a", object [("y", .number (.whole 3)),
      ("x", .string "/")]), ("b", .number (.whole 7))]) := by
    rfl
  intro base patch out v
  have hnumber : ∀ n < 8, AllNumbers FromInteger (.number (.whole (n : Nat))) :=
    fun n hn => .number (fromInteger_whole (by omega))
  have hbase : HasIntegers base := by
    refine hasIntegers_of_parse? hread (.object ?_)
    simp only [List.forall_mem_cons, List.not_mem_nil, false_implies, implies_true, and_true]
    exact ⟨.object (by simpa using hnumber 1 (by decide)),
      .array (by simpa using hnumber 2 (by decide))⟩
  have hpatch : HasIntegers patch := by
    refine hasIntegers_of_parse? hread' (.object ?_)
    simp only [List.forall_mem_cons, List.not_mem_nil, false_implies, implies_true, and_true]
    exact ⟨hnumber 0 (by decide), .object (by simpa using ⟨hnumber 3 (by decide), .string "/"⟩),
      hnumber 7 (by decide)⟩
  have hmerge : mergeText base patch = .ok out := by decide +kernel
  have hshort : ¬Text.isTooLong "k" ∧ ¬Text.isTooLong base ∧ ¬Text.isTooLong out := by
    decide +kernel
  obtain ⟨s, hset⟩ := Vault.exists_runOn_set_memory (v := v) rfl rfl hshort.1 hshort.2.1 ⟨[], []⟩
  have hitem := (Vault.item_set Backing.stores_memory hset).1
  have hmerged : Vault.mergedText (some base) patch = .ok out := hmerge
  obtain ⟨s', hrun, -⟩ :=
    Vault.exists_runOn_merge_memory rfl rfl hitem hmerged hshort.1 hshort.2.2
  have hrun : (v.multiMerge [("k", patch)]).runOn s = (.ok (), s') := by
    rw [Vault.multiMerge_cons, VaultAction.runOn_bind, hrun]
    rfl
  obtain ⟨hiff, hclosed, -, hvault⟩ := mergeText_closed
  obtain ⟨hobject, -⟩ := (hiff base patch).mp ⟨out, hmerge⟩
  obtain ⟨stored, changes, hstored, hchanges, htext⟩ := mergeText_eq_ok.mp hmerge
  obtain ⟨written, hwritten, -, -, rfl⟩ := objectOfText_eq_ok_iff.mp hstored
  obtain ⟨written', hwritten', -, -, rfl⟩ := objectOfText_eq_ok_iff.mp hchanges
  obtain ⟨-, -, -, hfixed, -⟩ := hclosed _ _ _ _ _ hwritten hwritten' hbase hpatch hmerge
  have hfor : Vault.patchesFor "k" [("k", patch)] = [patch] := by simp [Vault.patchesFor]
  obtain ⟨out', hout', -, -, -, heq⟩ := hvault _ _ _ _ _ _ "k" base Backing.stores_memory hrun
    hitem hobject hbase (by rw [hfor]; exact List.forall_mem_singleton.mpr hpatch)
  have hsame : out' = out := by
    rw [heq (by rw [hfor]; exact List.cons_ne_nil _ _), hfor, ← htext, ← objectIn_of_ok hstored,
      ← objectIn_of_ok hchanges]
    rfl
  exact ⟨hmerge, hfixed, s, s', hset, hrun, hsame ▸ hout'⟩

end DeviceSecurity.Storage
