import DeviceSecurity.Proofs.Storage.MergeText

/-!
# Items and the order of merges

The algebra of merging values carries over to the items of a vault: patches of which no two conflict
leave items of one value in whatever order they are applied, and a missing item counts as the empty
object (`merge_algebra`). Between two merges an item is a text, though, so this is said of numbers
that are read back from what is written for them. A number of floating point need not be, and then
the value of an item depends on how often it was written (`merge_algebra_real`).
-/

namespace DeviceSecurity.Storage

open Json

variable {σ : Type} {v : Vault σ} {content : σ → String → Option String} {s s' : VaultState σ}
  {key patch : String}

/-- The item under a key is read as the value. -/
def ItemReads (v : Vault σ) (content : String → Option String) (key : String) (j : Json) : Prop :=
  ∃ text, v.item content key = .ok (some text) ∧ ofText? text = some j

theorem ofText?_of_objectOfText {text : String} {j : Json} (h : objectOfText text = .ok j) :
    ofText? text = some j :=
  (objectOfText_eq_ok.mp h).1

/-- A merge leaves an item that is read as the merged object. -/
theorem itemReads_merge (h : v.backing.Stores content)
    (hmerge : (v.merge key patch).runOn s = (.ok (), s')) {stored : Option String}
    (hitem : v.item (content s.store) key = .ok stored)
    (hstored : AllNumbers ReadsBack (objectInItem stored))
    (hpatch : AllNumbers ReadsBack (objectIn patch)) :
    ItemReads v (content s'.store) key (merge (objectInItem stored) (objectIn patch)) := by
  obtain ⟨stored', x, hitem', hmerged, hx, -⟩ := Vault.item_merge h hmerge
  rw [hitem] at hitem'
  obtain rfl := Except.ok.inj hitem'
  exact ⟨x, hx, ofText?_of_objectOfText (objectOfText_mergedText hmerged hstored hpatch).1⟩

/-- After a sequence of merges an item with patches is read as what they make of its object. -/
theorem itemReads_multiMerge (h : v.backing.Stores content)
    {entries : List (String × String)} (hmerge : (v.multiMerge entries).runOn s = (.ok (), s'))
    (hne : Vault.patchesFor key entries ≠ []) {stored : Option String}
    (hitem : v.item (content s.store) key = .ok stored)
    (hstored : AllNumbers ReadsBack (objectInItem stored))
    (hpatches : ∀ p ∈ Vault.patchesFor key entries, AllNumbers ReadsBack (objectIn p)) :
    ItemReads v (content s'.store) key
      (((Vault.patchesFor key entries).map objectIn).foldl merge (objectInItem stored)) := by
  rcases Vault.item_multiMerge h hmerge key with
    ⟨hnone, -⟩ | ⟨stored', x, hitem', -, hmerged, hx⟩
  · exact absurd hnone hne
  · rw [hitem] at hitem'
    obtain rfl := Except.ok.inj hitem'
    exact ⟨x, hx, ofText?_of_objectOfText (objectOfText_mergedItem hmerged hne hstored hpatches).1⟩

/-- Merges into a missing item and into one that holds the empty object leave the patch. -/
theorem itemReads_merge_empty (h : v.backing.Stores content)
    (hmerge : (v.merge key patch).runOn s = (.ok (), s')) {stored : Option String}
    (hitem : v.item (content s.store) key = .ok stored) (hempty : objectInItem stored = object [])
    (hpatch : AllNumbers ReadsBack (objectIn patch)) :
    ItemReads v (content s'.store) key (objectIn patch) := by
  have hstorable := isStorable_objectIn hpatch
  obtain ⟨changes, hchanges⟩ := exists_members hstorable.isObject
  have hread := itemReads_merge h hmerge hitem (hempty ▸ isStorable_empty.numbers) hpatch
  rw [hempty, hchanges, empty_merge (hchanges ▸ hstorable.canonical)] at hread
  rwa [hchanges]

/-- Sequences of merges in different orders leave an item of one value, in which all patches for its
key are found. -/
theorem itemReads_multiMerge_perm (h : v.backing.Stores content) {t t' : VaultState σ}
    (hsame : content s.store = content t.store) {entries others : List (String × String)}
    (hmerge : (v.multiMerge entries).runOn s = (.ok (), s'))
    (hmerge' : (v.multiMerge others).runOn t = (.ok (), t')) (hperm : entries.Perm others)
    (hne : Vault.patchesFor key entries ≠ []) {stored : Option String}
    (hitem : v.item (content s.store) key = .ok stored)
    (hstored : AllNumbers ReadsBack (objectInItem stored))
    (hpatches : ∀ p ∈ Vault.patchesFor key entries, AllNumbers ReadsBack (objectIn p))
    (hfree : ((Vault.patchesFor key entries).map objectIn).Pairwise ConflictFree) :
    ∃ merged, ItemReads v (content s'.store) key merged ∧
      ItemReads v (content t'.store) key merged ∧
      ∀ p ∈ Vault.patchesFor key entries, ∀ path,
        (∀ value, (objectIn p).HoldsValue path value → merged.HoldsValue path value) ∧
        ((objectIn p).HoldsObject path → merged.HoldsObject path) := by
  have hfor : (Vault.patchesFor key entries).Perm (Vault.patchesFor key others) :=
    hperm.filterMap _
  have hne' : Vault.patchesFor key others ≠ [] := fun hnone =>
    hne (List.perm_nil.mp (hnone ▸ hfor))
  have hread := itemReads_multiMerge h hmerge hne hitem hstored hpatches
  have hread' := itemReads_multiMerge h hmerge' hne' (hsame ▸ hitem) hstored
    fun p hp => hpatches p (hfor.mem_iff.mpr hp)
  have hcanonical : ∀ p ∈ (Vault.patchesFor key entries).map objectIn, IsCanonical p :=
    List.forall_mem_map.mpr fun p hp => (isStorable_objectIn (hpatches p hp)).canonical
  have hcanonical' := (isStorable_objectInItem hstored).canonical
  rw [← foldl_merge_perm (hfor.map objectIn) hcanonical hfree hcanonical'] at hread'
  refine ⟨_, hread, hread', fun p hp path => ⟨fun _ => ?_, ?_⟩⟩
  · exact holdsValue_foldl_merge hcanonical hfree hcanonical' (List.mem_map_of_mem hp)
  · exact holdsObject_foldl_merge hcanonical hfree hcanonical' (List.mem_map_of_mem hp)

/-- The algebra of merging. On canonical objects the empty one is neutral on both sides, a patch
laid over its own result changes nothing, and patches free of conflicts commute over every base,
whatever it holds. For the items of a vault, as far as numbers are read back from what is written
for them, as integers of 64 bits are: merging into a missing item and into one that holds the empty
object leave items of one value, and so do sequences of merges in different orders, if no two
patches for the key conflict; the item then holds whatever one of these patches holds. An item
without patches stays. -/
theorem merge_algebra :
    (∀ members, merge (object members) (object []) = object members) ∧
    (∀ p, IsCanonical p → p.isObject = true → merge (object []) p = p) ∧
    (∀ b p, IsCanonical b → IsCanonical p → merge (merge b p) p = merge b p) ∧
    (∀ p q, IsCanonical p → IsCanonical q → ConflictFree p q → ∀ b, IsCanonical b →
      merge (merge b p) q = merge (merge b q) p) ∧
    (∀ n, FromInteger n → ReadsBack n) ∧
    ∀ (σ : Type) (v : Vault σ) (content : σ → String → Option String), v.backing.Stores content →
      (∀ s s' t t' key key' patch base, (v.merge key patch).runOn s = (.ok (), s') →
        (v.merge key' patch).runOn t = (.ok (), t') → v.item (content s.store) key = .ok none →
        v.item (content t.store) key' = .ok (some base) → objectOfText base = .ok (object []) →
        AllNumbers ReadsBack (objectIn patch) →
        ItemReads v (content s'.store) key (objectIn patch) ∧
          ItemReads v (content t'.store) key' (objectIn patch)) ∧
      ∀ s s' t t' entries others, content s.store = content t.store →
        (v.multiMerge entries).runOn s = (.ok (), s') →
        (v.multiMerge others).runOn t = (.ok (), t') → entries.Perm others → ∀ key,
        (∀ stored, v.item (content s.store) key = .ok stored →
          AllNumbers ReadsBack (objectInItem stored)) →
        (∀ p ∈ Vault.patchesFor key entries, AllNumbers ReadsBack (objectIn p)) →
        ((Vault.patchesFor key entries).map objectIn).Pairwise ConflictFree →
        (Vault.patchesFor key entries = [] ∧
          v.item (content s'.store) key = v.item (content s.store) key ∧
          v.item (content t'.store) key = v.item (content t.store) key) ∨
        ∃ merged, ItemReads v (content s'.store) key merged ∧
          ItemReads v (content t'.store) key merged ∧
          ∀ p ∈ Vault.patchesFor key entries, ∀ path,
            (∀ value, (objectIn p).HoldsValue path value → merged.HoldsValue path value) ∧
            ((objectIn p).HoldsObject path → merged.HoldsObject path) := by
  refine ⟨merge_empty, ?_, fun b p hb hp => merge_merge_self hp hb,
    fun p q hp hq hfree b hb => (hfree.commute hp hq).2 b hb, fun _ => FromInteger.readsBack, ?_⟩
  · intro p hp hobject
    obtain ⟨changes, rfl⟩ := exists_members hobject
    exact empty_merge hp
  intro σ v content hstores
  constructor
  · intro s s' t t' key key' patch base hmerge hmerge' hnone hitem hempty hpatch
    exact ⟨itemReads_merge_empty hstores hmerge hnone rfl hpatch,
      itemReads_merge_empty hstores hmerge' hitem (objectIn_of_ok hempty) hpatch⟩
  · intro s s' t t' entries others hsame hmerge hmerge' hperm key hstored hpatches hfree
    have hfor : (Vault.patchesFor key entries).Perm (Vault.patchesFor key others) :=
      hperm.filterMap _
    rcases Vault.item_multiMerge hstores hmerge key with
      ⟨hnone, hkept⟩ | ⟨stored, -, hitem, hne, -, -⟩
    · have hnone' : Vault.patchesFor key others = [] := List.perm_nil.mp (hnone ▸ hfor.symm)
      rcases Vault.item_multiMerge hstores hmerge' key with ⟨-, hkept'⟩ | ⟨_, _, -, hne, -, -⟩
      · exact .inl ⟨hnone, hkept, hkept'⟩
      · exact absurd hnone' hne
    · exact .inr (itemReads_multiMerge_perm hstores hsame hmerge hmerge' hperm hne hitem
        (hstored stored hitem) hpatches hfree)

/-- Two patches into one object, over an item that holds a truth value where both hold an object. -/
theorem merge_algebra_nested :
    let p := "\x7b\"a\":\x7b\"x\":1\x7d\x7d"
    let q := "\x7b\"a\":\x7b\"y\":2\x7d\x7d"
    let v : Vault Entries := ⟨.memory, ⟨⟨List.replicate 16 7, by decide⟩, .strict⟩, false⟩
    ∃ s s₁ s₂ merged, v.item (Entries.get? s.store) "k" = .ok (some "\x7b\"a\":true\x7d") ∧
      (v.multiMerge [("k", p), ("k", q)]).runOn s = (.ok (), s₁) ∧
      (v.multiMerge [("k", q), ("k", p)]).runOn s = (.ok (), s₂) ∧
      ItemReads v (Entries.get? s₁.store) "k" merged ∧
      ItemReads v (Entries.get? s₂.store) "k" merged ∧
      merged.HoldsValue ["a", "x"] (number (.whole 1)) ∧
      merged.HoldsValue ["a", "y"] (number (.whole 2)) := by
  have hread : parse? "\x7b\"a\":\x7b\"x\":1\x7d\x7d" =
    some (object [("a", object [("x", number (.whole 1))])]) := by rfl
  have hread' : parse? "\x7b\"a\":\x7b\"y\":2\x7d\x7d" =
    some (object [("a", object [("y", number (.whole 2))])]) := by rfl
  have hreadBase : parse? "\x7b\"a\":true\x7d" = some (object [("a", bool true)]) := by rfl
  intro p q v
  have hshort : ¬Text.isTooLong "k" ∧ ¬Text.isTooLong "\x7b\"a\":true\x7d" ∧ ¬Text.isTooLong p ∧
      ¬Text.isTooLong q ∧ ¬Text.isTooLong "\x7b\"a\":\x7b\"x\":1,\"y\":2\x7d\x7d" := by
    decide +kernel
  obtain ⟨hk, hstored, hpshort, hqshort, hmerged⟩ := hshort
  have hp : objectIn p = object [("a", object [("x", number (.whole 1))])] :=
    objectIn_of_parse? hread
  have hq : objectIn q = object [("a", object [("y", number (.whole 2))])] :=
    objectIn_of_parse? hread'
  have hbase : objectIn "\x7b\"a\":true\x7d" = object [("a", bool true)] :=
    objectIn_of_parse? hreadBase
  have hwithin : ∀ {name : String} {n : Nat}, n < 3 →
      AllNumbers ReadsBack (object [("a", object [(name, .number (.whole n))])]) := by
    intro name n hn
    refine .object (List.forall_mem_singleton.mpr (.object (List.forall_mem_singleton.mpr ?_)))
    exact .number (readsBack_whole (by omega) (by omega))
  obtain ⟨s, hset⟩ := Vault.exists_runOn_set_memory (v := v) rfl rfl hk hstored ⟨[], []⟩
  obtain ⟨hitem, -⟩ := Vault.item_set Backing.stores_memory hset
  have hfirst : Vault.mergedText (some "\x7b\"a\":true\x7d") p = .ok p ∧
      Vault.mergedText (some "\x7b\"a\":true\x7d") q = .ok q := by decide +kernel
  have hsecond :
      Vault.mergedText (some p) q = .ok "\x7b\"a\":\x7b\"x\":1,\"y\":2\x7d\x7d" ∧
      Vault.mergedText (some q) p = .ok "\x7b\"a\":\x7b\"x\":1,\"y\":2\x7d\x7d" := by
    decide +kernel
  obtain ⟨s₁, hrun₁, -⟩ := Vault.exists_runOn_multiMerge_memory rfl rfl hitem hfirst.1 hk hpshort
    (.inl ⟨rfl, rfl⟩) hsecond.1 hk hmerged
  obtain ⟨s₂, hrun₂, -⟩ := Vault.exists_runOn_multiMerge_memory rfl rfl hitem hfirst.2 hk hqshort
    (.inl ⟨rfl, rfl⟩) hsecond.2 hk hmerged
  have hfor : Vault.patchesFor "k" [("k", p), ("k", q)] = [p, q] := by simp [Vault.patchesFor]
  have hfree : ConflictFree (objectIn p) (objectIn q) := by
    rw [hp, hq]
    refine .object fun key x y hx hy => ?_
    obtain rfl := Members.eq_of_get?_singleton hx
    obtain rfl := Members.eq_of_get?_singleton hy
    exact conflictFree_of_disjoint rfl rfl (by simp [memberNames])
  have hnumbers : ∀ patch ∈ [p, q], AllNumbers ReadsBack (objectIn patch) :=
    List.forall_mem_cons.mpr ⟨hp ▸ hwithin (n := 1) (by decide),
      List.forall_mem_singleton.mpr (hq ▸ hwithin (n := 2) (by decide))⟩
  have hitems : ∀ stored, v.item (Entries.get? s.store) "k" = .ok stored →
      AllNumbers ReadsBack (objectInItem stored) := by
    intro stored hstored
    rw [hitem] at hstored
    obtain rfl := Except.ok.inj hstored
    rw [objectInItem, Option.elim_some, hbase]
    exact .object (List.forall_mem_singleton.mpr (.bool true))
  obtain ⟨-, -, -, -, -, hvault⟩ := merge_algebra
  have hall := (hvault _ v Entries.get? Backing.stores_memory).2 s s₁ s s₂ _ _ rfl hrun₁ hrun₂
    (List.Perm.swap _ _ _) "k" hitems
  rw [hfor] at hall
  rcases hall hnumbers (List.pairwise_pair.mpr hfree) with
    ⟨hnone, -⟩ | ⟨merged, hread₁, hread₂, hholds⟩
  · exact absurd hnone (List.cons_ne_nil _ _)
  · refine ⟨s, s₁, s₂, merged, hitem, hrun₁, hrun₂, hread₁, hread₂, ?_, ?_⟩
    · exact (hholds p (by simp) _).1 _ (hp ▸ ⟨rfl, rfl⟩)
    · exact (hholds q (by simp) _).1 _ (hq ▸ ⟨rfl, rfl⟩)

/-- A number of floating point that is read, written and read again may come back as another one.
Then a merge into a missing item and one into the empty object leave items of different values, and
so do two patches without a common key in different orders. -/
theorem merge_algebra_real :
    let patch := "\x7b\"x\":2.9e51\x7d"
    let other := "\x7b\"y\":1\x7d"
    let v : Vault Entries := ⟨.memory, ⟨⟨List.replicate 16 7, by decide⟩, .strict⟩, false⟩
    ConflictFree (objectIn patch) (objectIn other) ∧
    ∃ s, v.item (Entries.get? s.store) "a" = .ok none ∧
      v.item (Entries.get? s.store) "b" = .ok (some "\x7b\x7d") ∧
      (∃ s' x y, (v.multiMerge [("a", patch), ("b", patch)]).runOn s = (.ok (), s') ∧
        v.item (Entries.get? s'.store) "a" = .ok (some x) ∧
        v.item (Entries.get? s'.store) "b" = .ok (some y) ∧ ofText? x ≠ ofText? y) ∧
      ∃ s₁ s₂ x y, (v.multiMerge [("b", patch), ("b", other)]).runOn s = (.ok (), s₁) ∧
        (v.multiMerge [("b", other), ("b", patch)]).runOn s = (.ok (), s₂) ∧
        v.item (Entries.get? s₁.store) "b" = .ok (some x) ∧
        v.item (Entries.get? s₂.store) "b" = .ok (some y) ∧ ofText? x ≠ ofText? y := by
  have hreads : ∀ {x y : String}, (ofText? x).map text ≠ (ofText? y).map text →
      ofText? x ≠ ofText? y := fun h heq => h (congrArg (Option.map text) heq)
  intro patch other v
  have hshort : ¬Text.isTooLong "a" ∧ ¬Text.isTooLong "b" ∧ ¬Text.isTooLong "\x7b\x7d" ∧
      ¬Text.isTooLong patch ∧ ¬Text.isTooLong other ∧
      ¬Text.isTooLong "\x7b\"x\":2.9000000000000002e+51\x7d" ∧
      ¬Text.isTooLong "\x7b\"x\":2.9e+51,\"y\":1\x7d" ∧
      ¬Text.isTooLong "\x7b\"x\":2.9000000000000002e+51,\"y\":1\x7d" := by
    decide +kernel
  obtain ⟨ha, hb, hempty, hpatch, hother, hwritten, hfirst, hsecond⟩ := hshort
  have hmissing : Vault.mergedText none patch = .ok patch := by decide +kernel
  have hthere : Vault.mergedText (some "\x7b\x7d") patch =
    .ok "\x7b\"x\":2.9000000000000002e+51\x7d" := by decide +kernel
  obtain ⟨s, hset⟩ := Vault.exists_runOn_set_memory (v := v) rfl rfl hb hempty ⟨[], []⟩
  obtain ⟨hitem, hothers⟩ := Vault.item_set Backing.stores_memory hset
  have hnone : v.item (Entries.get? s.store) "a" = .ok none :=
    (hothers "a" (by decide)).trans (v.item_of_empty ha)
  have hfree : ConflictFree (objectIn patch) (objectIn other) :=
    conflictFree_of_disjoint (by decide +kernel) (by decide +kernel) (by decide +kernel)
  refine ⟨hfree, s, hnone, hitem, ?_, ?_⟩
  · obtain ⟨s', hrun, hy, hx⟩ := Vault.exists_runOn_multiMerge_memory rfl rfl hnone hmissing ha
      hpatch (.inr ⟨by decide, hitem⟩) hthere hb hwritten
    exact ⟨s', _, _, hrun, hx (by decide), hy, hreads (by decide +kernel)⟩
  · have hotherThere : Vault.mergedText (some "\x7b\x7d") other = .ok other := by decide +kernel
    have hotherLast : Vault.mergedText (some "\x7b\"x\":2.9000000000000002e+51\x7d") other =
      .ok "\x7b\"x\":2.9e+51,\"y\":1\x7d" := by decide +kernel
    have hpatchLast : Vault.mergedText (some other) patch =
      .ok "\x7b\"x\":2.9000000000000002e+51,\"y\":1\x7d" := by decide +kernel
    obtain ⟨s₁, hrun₁, hx, -⟩ := Vault.exists_runOn_multiMerge_memory rfl rfl hitem hthere hb
      hwritten (.inl ⟨rfl, rfl⟩) hotherLast hb hfirst
    obtain ⟨s₂, hrun₂, hy, -⟩ := Vault.exists_runOn_multiMerge_memory rfl rfl hitem hotherThere hb
      hother (.inl ⟨rfl, rfl⟩) hpatchLast hb hsecond
    exact ⟨s₁, s₂, _, _, hrun₁, hrun₂, hx, hy, hreads (by decide +kernel)⟩

end DeviceSecurity.Storage
