import DeviceSecurity.Proofs.Text.Trim
import DeviceSecurity.Text.Folding

/-!
# Folding and ASCII

On ASCII folding is lowering. Some characters beyond ASCII fold to letters, but none folds to a dot,
so that dots stand at the same places in two texts that differ only in case.
-/

namespace DeviceSecurity.Text

/-- An ASCII character. -/
def IsAscii (c : Char) : Prop := c.toNat < 0x80

instance : DecidablePred IsAscii := fun c => inferInstanceAs (Decidable (c.toNat < 0x80))

/-- What holds of the first 128 code points holds of every ASCII character. -/
theorem forall_isAscii {P : Char → Prop} (h : ∀ n < 0x80, P (Char.ofNat n)) :
    ∀ c, IsAscii c → P c := by
  intro c hc
  have hP := h c.toNat hc
  rwa [Char.ofNat_toNat] at hP

theorem isAscii_of_le {c high : Char} (hhigh : IsAscii high) (h : c ≤ high) : IsAscii c := by
  have hle : c.toNat ≤ high.toNat := h
  exact Nat.lt_of_le_of_lt hle hhigh

theorem ranges_of_isAlphanum {c : Char} (h : c.isAlphanum = true) :
    ('A' ≤ c ∧ c ≤ 'Z') ∨ ('a' ≤ c ∧ c ≤ 'z') ∨ '0' ≤ c ∧ c ≤ '9' := by
  change (decide (c.val ≥ 'A'.val ∧ c.val ≤ 'Z'.val) ||
    (decide (c.val ≥ 'a'.val) && decide (c.val ≤ 'z'.val)) ||
    (decide (c.val ≥ '0'.val) && decide (c.val ≤ '9'.val))) = true at h
  simp only [Bool.or_eq_true, Bool.and_eq_true, decide_eq_true_eq, or_assoc] at h
  exact h

theorem isAscii_of_isAlphanum {c : Char} (h : c.isAlphanum = true) : IsAscii c := by
  rcases ranges_of_isAlphanum h with ⟨-, h⟩ | ⟨-, h⟩ | ⟨-, h⟩
  · exact isAscii_of_le (by decide) h
  · exact isAscii_of_le (by decide) h
  · exact isAscii_of_le (by decide) h

theorem fold_of_isAscii {c : Char} (h : IsAscii c) : fold c = c.toLower := if_pos h

theorem toLower_of_not_isAscii {c : Char} (h : ¬IsAscii c) : c.toLower = c := by
  unfold IsAscii at h
  unfold Char.toLower
  rw [dif_neg]
  rintro ⟨-, hle⟩
  have : c.toNat ≤ 0x5a := hle
  omega

theorem toLower_ascii :
    ∀ c : Char, IsAscii c → IsAscii c.toLower ∧ c.toLower.toLower = c.toLower :=
  forall_isAscii (by decide +kernel)

theorem toLower_toLower (c : Char) : c.toLower.toLower = c.toLower := by
  by_cases h : IsAscii c
  · exact (toLower_ascii c h).2
  · rw [toLower_of_not_isAscii h, toLower_of_not_isAscii h]

theorem isAscii_toLower {c : Char} : IsAscii c.toLower ↔ IsAscii c := by
  by_cases h : IsAscii c
  · exact iff_of_true (toLower_ascii c h).1 h
  · rw [toLower_of_not_isAscii h]

theorem fold_toLower (c : Char) : fold c.toLower = fold c := by
  by_cases h : IsAscii c
  · rw [fold_of_isAscii (isAscii_toLower.mpr h), fold_of_isAscii h, toLower_toLower]
  · rw [toLower_of_not_isAscii h]

theorem toNat_ofNat {n : Nat} (h : n.isValidChar) : (Char.ofNat n).toNat = n := by
  rw [Char.ofNat, dif_pos h]
  rfl

theorem eq_of_ofNat_eq_dot {n : Nat} (h : Char.ofNat n = '.') : n = 0x2e := by
  by_cases hvalid : n.isValidChar
  · rw [← toNat_ofNat hvalid, h]
    rfl
  · rw [Char.ofNat, dif_neg hvalid] at h
    exact absurd h (by decide)

/-- What a run folds to lies above the signs of ASCII. -/
theorem offset_bound : ∀ r ∈ foldingRuns, (0x40 : Int) < r.first + r.offset := by decide +kernel

/-- Nothing but a dot folds to a dot. -/
theorem fold_eq_dot {c : Char} : fold c = '.' ↔ c = '.' := by
  refine ⟨fun h => ?_, fun h => by rw [h]; decide⟩
  by_cases hascii : IsAscii c
  · rw [fold_of_isAscii hascii] at h
    have hlower : ∀ c, IsAscii c → c.toLower = '.' → c = '.' := forall_isAscii (by decide +kernel)
    exact hlower c hascii h
  · unfold fold at h
    rw [if_neg (show ¬c.toNat < 0x80 from hascii)] at h
    split at h
    · next r hfind =>
      have hcovers : r.first ≤ c.toNat := by
        have := List.find?_some hfind
        simp only [FoldingRun.covers, Bool.and_eq_true, decide_eq_true_eq] at this
        exact this.1.1
      have hbound := offset_bound r (List.mem_of_find?_eq_some hfind)
      have hcode := eq_of_ofNat_eq_dot h
      omega
    · exact h

/-! ## Texts -/

/-- Dots at the end may be removed before folding or after it. -/
theorem map_fold_dropEndWhile (l : List Char) :
    (dropEndWhile (· == '.') l).map fold = dropEndWhile (· == '.') (l.map fold) := by
  refine map_dropEndWhile (fun c => ?_) l
  rw [Bool.eq_iff_iff, beq_iff_eq, beq_iff_eq]
  exact fold_eq_dot

/-- Nothing but a dot is lowered to a dot. -/
theorem toLower_eq_dot {c : Char} : c.toLower = '.' ↔ c = '.' := by
  rw [← fold_eq_dot (c := c), ← fold_toLower, fold_eq_dot]

/-- Dots at the end may be removed before lowering or after it. -/
theorem map_toLower_dropEndWhile (l : List Char) :
    (dropEndWhile (· == '.') l).map Char.toLower =
      dropEndWhile (· == '.') (l.map Char.toLower) := by
  refine map_dropEndWhile (fun c => ?_) l
  rw [Bool.eq_iff_iff, beq_iff_eq, beq_iff_eq]
  exact toLower_eq_dot

theorem map_fold_map_toLower (l : List Char) : (l.map Char.toLower).map fold = l.map fold := by
  rw [List.map_map]
  exact List.map_congr_left fun c _ => fold_toLower c

theorem map_fold_of_isAscii {l : List Char} (h : ∀ c ∈ l, IsAscii c) :
    l.map fold = l.map Char.toLower :=
  List.map_congr_left fun c hc => fold_of_isAscii (h c hc)

end DeviceSecurity.Text
