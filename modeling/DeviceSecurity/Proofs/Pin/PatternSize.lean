import DeviceSecurity.Pin.HostName
import Mathlib.Algebra.BigOperators.Ring.List
import Mathlib.Algebra.Order.BigOperators.Group.List
import Mathlib.Algebra.Order.Ring.Nat
import Mathlib.Data.List.Basic

/-!
# Names that can be compared

The automata for a class take at most 40 bytes for every byte of its sequences, and a few besides
(`forwardSize_le`, `backwardSize_le`), because what can follow different bytes are different
sequences. A class has no more sequences than characters, and a character has no more mates than
there are runs of folded ones. So a name of some hundred characters can always be compared
(`canBuild_of_length_le`). On the other hand each character takes a state at least, so that very
long names never can (`not_canBuild_of_lt_length`).
-/

namespace DeviceSecurity.HostName

/-! ## Sequences of bytes -/

/-- The number of bytes in all sequences of a class. -/
def byteCount (k : ByteClass) : Nat := (k.map List.length).sum

theorem byteCount_cons (s : List ByteRange) (k : ByteClass) :
    byteCount (s :: k) = s.length + byteCount k := by
  rw [byteCount, List.map_cons, List.sum_cons, byteCount]

/-- The sequences that do not begin with a range. -/
def others (k : ByteClass) (r : ByteRange) : ByteClass := k.filter fun s => s.head? ≠ some r

variable {k : ByteClass} {r r' : ByteRange}

theorem length_others_le : (others k r).length ≤ k.length := List.length_filter_le ..

theorem byteCount_tails_le (k : ByteClass) (r : ByteRange) :
    byteCount (tails k r) + byteCount (others k r) ≤ byteCount k := by
  induction k with
  | nil => exact Nat.le_refl 0
  | cons s k ih =>
    by_cases h : s.head? = some r
    · have htails : tails (s :: k) r = s.tail :: tails k r := by simp [tails, h]
      have hothers : others (s :: k) r = others k r := by simp [others, h]
      rw [htails, hothers, byteCount_cons, byteCount_cons, List.length_tail]
      omega
    · have htails : tails (s :: k) r = tails k r := by simp [tails, h]
      have hothers : others (s :: k) r = s :: others k r := by simp [others, h]
      rw [htails, hothers, byteCount_cons, byteCount_cons]
      omega

theorem heads_cons (r : ByteRange) (t : List ByteRange) (k : ByteClass) :
    heads ((r :: t) :: k) = r :: heads (others k r) := by
  have hothers : ((k.filterMap List.head?).filter fun x => !x == r) =
      (others k r).filterMap List.head? := by
    rw [others, List.filter_filterMap, List.filterMap_filter]
    refine List.filterMap_congr fun s _ => ?_
    cases s with
    | nil => rfl
    | cons x t => by_cases h : x = r <;> simp [h]
  rw [heads, List.filterMap_cons_some (f := List.head?) rfl, List.eraseDups_cons, hothers, heads]

theorem ne_of_mem_heads_others (h : r' ∈ heads (others k r)) : r' ≠ r := by
  obtain ⟨s, hs, hhead⟩ := List.mem_filterMap.mp (List.mem_eraseDups.mp h)
  have hne : s.head? ≠ some r := by simpa using (List.mem_filter.mp hs).2
  rintro rfl
  exact hne hhead

theorem tails_others (h : r' ≠ r) : tails (others k r) r' = tails k r' := by
  rw [tails, others, List.filterMap_filter, tails]
  refine List.filterMap_congr fun s _ => ?_
  by_cases hs : s.head? = some r'
  · simp [hs, h]
  · simp [hs]

/-- What follows the different ranges at the start of sequences has for each of them a byte less. -/
theorem sum_byteCount_tails_le :
    ∀ k : ByteClass, ((heads k).map fun r => byteCount (tails k r) + 1).sum ≤ byteCount k
  | [] => Nat.le_refl 0
  | [] :: k => by
    rw [byteCount_cons, List.length_nil, Nat.zero_add]
    exact sum_byteCount_tails_le k
  | (r :: t) :: k => by
    have hfirst : tails ((r :: t) :: k) r = t :: tails k r := by simp [tails]
    have hlater : ∀ r' ∈ heads (others k r),
        byteCount (tails ((r :: t) :: k) r') + 1 = byteCount (tails (others k r) r') + 1 := by
      intro r' hr'
      have hne := ne_of_mem_heads_others hr'
      rw [tails_others hne]
      simp [tails, hne.symm]
    have hothers := sum_byteCount_tails_le (others k r)
    have hcut := byteCount_tails_le k r
    rw [heads_cons, List.map_cons, List.sum_cons, List.map_congr_left hlater, hfirst,
      byteCount_cons, byteCount_cons, List.length_cons]
    omega
termination_by k => k.length
decreasing_by
  · exact Nat.lt_succ_self _
  · exact Nat.lt_succ_of_le length_others_le

/-! ## Classes -/

theorem total_eq_sum (sizes : List Nat) : total sizes = sizes.sum := List.sum_eq_foldr.symm

/-- The size of states that read bytes. -/
def statesSize (states : List ByteClass) : Nat :=
  (states.map fun k => stateSize + 8 * (heads k).length).sum

theorem statesSize_flatMap {α : Type} (l : List α) (f : α → List ByteClass) :
    statesSize (l.flatMap f) = (l.map fun a => statesSize (f a)).sum := by
  induction l with
  | nil => rfl
  | cons a l ih =>
    rw [List.flatMap_cons, statesSize, List.map_append, List.sum_append, List.map_cons,
      List.sum_cons, ← ih, statesSize, statesSize]

/-- A state of the automaton has 32 bytes and eight for each range; what follows the ranges has for
each of them one byte less, which pays for both. -/
theorem statesSize_residuals_le (n : Nat) (k : ByteClass) :
    statesSize (residuals n k) ≤ 40 * byteCount k := by
  induction n generalizing k with
  | zero => exact Nat.zero_le _
  | succ n ih =>
    rw [residuals]
    split
    · exact Nat.zero_le _
    · next hheads =>
      have hpos : 0 < (heads k).length := by
        rw [List.length_pos_iff]
        simpa using hheads
      have hbelow : ((heads k).map fun r => statesSize (residuals n (tails k r))).sum ≤
          ((heads k).map fun r => 40 * byteCount (tails k r)).sum :=
        List.sum_le_sum fun r _ => ih (tails k r)
      have hbytes := sum_byteCount_tails_le k
      rw [List.sum_map_add, List.map_const', List.sum_replicate, Nat.nsmul_eq_mul,
        mul_one] at hbytes
      rw [List.sum_map_mul_left] at hbelow
      have hcons : statesSize (k :: (heads k).flatMap fun r => residuals n (tails k r)) =
          32 + 8 * (heads k).length +
            ((heads k).map fun r => statesSize (residuals n (tails k r))).sum := by
        rw [← statesSize_flatMap]
        rfl
      omega

theorem eraseDups_sublist {α : Type} [BEq α] : ∀ l : List α, l.eraseDups.Sublist l
  | [] => .slnil
  | a :: l => by
    rw [List.eraseDups_cons]
    exact ((eraseDups_sublist _).trans List.filter_sublist).cons_cons a
termination_by l => l.length
decreasing_by exact Nat.lt_succ_of_le (List.length_filter_le ..)

theorem forwardSize_le (k : ByteClass) : forwardSize k ≤ 32 + 40 * byteCount k := by
  have hdistinct : statesSize (residuals 4 k).eraseDups ≤ statesSize (residuals 4 k) :=
    ((eraseDups_sublist _).map _).sum_le_sum fun _ _ => Nat.zero_le _
  rw [forwardSize, total_eq_sum]
  exact Nat.add_le_add_left (hdistinct.trans (statesSize_residuals_le 4 k)) 32

theorem backwardSize_le (k : ByteClass) :
    backwardSize k ≤ 64 + 4 * k.length + 40 * byteCount k := by
  have hforward := forwardSize_le k
  have hstarts : (k.flatMap starts).length = byteCount k := by
    rw [List.length_flatMap, byteCount]
    simp only [starts, List.length_map, List.length_range]
  have hdistinct := (eraseDups_sublist (k.flatMap starts)).length_le
  rw [hstarts] at hdistinct
  unfold backwardSize
  split
  · omega
  · show 2 * 32 + 4 * k.length + 32 * _ ≤ _
    omega

/-! ## Characters -/

theorem length_join? {a b joined : List ByteRange} (h : join? a b = some joined) :
    joined.length = b.length := by
  fun_induction join? a b generalizing joined with
  | case1 a b hnext =>
    obtain rfl := Option.some.inj h
    rfl
  | case2 => cases h
  | case3 _ _ _ _ ih =>
    obtain ⟨rest, hrest, rfl⟩ := Option.map_eq_some_iff.mp h
    rw [List.length_cons, List.length_cons, ih hrest]
  | case4 => cases h
  | case5 => cases h

/-- A class has no more sequences than characters, none longer than four bytes. -/
theorem classOf_le (chars : List Char) :
    (classOf chars).length ≤ chars.length ∧ byteCount (classOf chars) ≤ 4 * chars.length := by
  induction chars with
  | nil => exact ⟨Nat.le_refl 0, Nat.le_refl 0⟩
  | cons c rest ih =>
    have hsequence : ((String.utf8EncodeChar c).map fun b => (b, b)).length ≤ 4 := by
      rw [List.length_map, String.length_utf8EncodeChar]
      exact c.utf8Size_le_four
    rw [classOf]
    split
    · next h =>
      rw [byteCount_cons, List.length_singleton, List.length_cons]
      have hnone : byteCount [] = 0 := rfl
      omega
    · next next others h =>
      rw [h, List.length_cons, byteCount_cons] at ih
      split
      · next joined hjoined =>
        have hlength := length_join? hjoined
        simp only [byteCount_cons, List.length_cons]
        omega
      · simp only [byteCount_cons, List.length_cons]
        omega

theorem length_caseMates_le (c : Char) : (Text.caseMates c).length ≤ 211 := by
  have hruns : Text.foldingRuns.length = 210 := rfl
  unfold Text.caseMates Text.sources
  generalize (Text.fold c).toNat = n
  have hfolded := List.length_filterMap_le (·.source? n) Text.foldingRuns
  generalize Text.foldingRuns.filterMap (·.source? n) = folded at hfolded
  have hcut : folded.length = folded.countP (fun m => decide (m < n)) +
      folded.countP (fun m => ¬decide (m < n)) := List.length_eq_countP_add_countP _
  have habove : folded.countP (fun m => decide (n < m)) ≤
      folded.countP (fun m => ¬decide (m < n)) :=
    List.countP_mono_left fun m _ h => by simpa using Nat.le_of_lt (of_decide_eq_true h)
  show (List.map _ _).length ≤ _
  rw [List.length_map, List.length_append, List.length_cons, ← List.countP_eq_length_filter,
    ← List.countP_eq_length_filter]
  omega

/-- A size for classes that is at least that of a state and grows with the bytes of a class. -/
structure Bounded (classSize : ByteClass → Nat) : Prop where
  ge : ∀ k, 32 ≤ classSize k
  le : ∀ k, classSize k ≤ 64 + 4 * k.length + 40 * byteCount k

theorem bounded_forwardSize : Bounded forwardSize where
  ge k := Nat.le_add_right 32 _
  le k := (forwardSize_le k).trans (by omega)

theorem bounded_backwardSize : Bounded backwardSize where
  ge k := by
    unfold backwardSize
    split
    · exact bounded_forwardSize.ge k
    · show 32 ≤ 2 * 32 + _ + _
      omega
  le := backwardSize_le

namespace Bounded

variable {classSize : ByteClass → Nat} (h : Bounded classSize)

include h

theorem charSize_ge (c : Char) : 32 ≤ charSize classSize c := by
  unfold charSize placeSize
  split
  · next same _ =>
    rw [String.length_utf8EncodeChar]
    exact Nat.le_mul_of_pos_right 32 same.utf8Size_pos
  · exact h.ge _

theorem charSize_le (c : Char) : charSize classSize c ≤ 34668 := by
  unfold charSize placeSize
  split
  · next same _ =>
    have hsize := same.utf8Size_le_four
    rw [String.length_utf8EncodeChar]
    show 32 * same.utf8Size ≤ _
    omega
  · have hmates := length_caseMates_le c
    obtain ⟨hlength, hbytes⟩ := classOf_le (Text.caseMates c)
    have hclass := h.le (classOf (Text.caseMates c))
    omega

theorem nameSize_ge (around : Nat) (commonName : List Char) :
    around + 32 * commonName.length ≤ nameSize around classSize commonName := by
  have hsum (l : List Char) : 32 * l.length ≤ (l.map (charSize classSize)).sum := by
    have hle := List.card_nsmul_le_sum (l.map (charSize classSize)) 32
      (List.forall_mem_map.mpr fun c _ => h.charSize_ge c)
    rwa [List.length_map, Nat.nsmul_eq_mul, Nat.mul_comm] at hle
  unfold nameSize
  split
  · next rest =>
    have hrest := hsum rest
    have hline := h.ge lineClass
    rw [List.length_cons, total_eq_sum]
    omega
  · rw [total_eq_sum]
    exact Nat.add_le_add_left (hsum commonName) around

theorem nameSize_le (around : Nat) (commonName : List Char) :
    nameSize around classSize commonName ≤
      around + classSize lineClass + 40 + 34668 * commonName.length := by
  have hsum (l : List Char) : (l.map (charSize classSize)).sum ≤ 34668 * l.length := by
    have hle := List.sum_le_card_nsmul (l.map (charSize classSize)) 34668
      (List.forall_mem_map.mpr fun c _ => h.charSize_le c)
    rwa [List.length_map, Nat.nsmul_eq_mul, Nat.mul_comm] at hle
  unfold nameSize
  split
  · next rest =>
    have hrest := hsum rest
    rw [List.length_cons, total_eq_sum]
    show around + (classSize lineClass + 32 + 8) + _ ≤ _
    omega
  · have hname := hsum commonName
    rw [total_eq_sum]
    omega

end Bounded

/-! ## Names -/

variable {commonName : List Char}

theorem nameSize_name (h : commonName.head? ≠ some '*') {around : Nat}
    {classSize : ByteClass → Nat} : nameSize around classSize commonName =
      around + (commonName.map (charSize classSize)).sum := by
  unfold nameSize
  split
  · exact absurd rfl h
  · rw [total_eq_sum]

theorem nameSize_replicate {c : Char} (hc : c ≠ '*') (n around : Nat)
    (classSize : ByteClass → Nat) :
    nameSize around classSize (List.replicate n c) = around + n * charSize classSize c := by
  have hhead : (List.replicate n c).head? ≠ some '*' := by
    rw [List.head?_replicate]
    split
    · exact (Option.some_ne_none _).symm
    · exact fun h => hc (Option.some.inj h)
  rw [nameSize_name hhead, List.map_replicate, List.sum_replicate, Nat.nsmul_eq_mul]

theorem canBuild_iff : canBuild commonName = true ↔
    nameSize 192 forwardSize commonName ≤ 10485760 ∧
      nameSize 128 backwardSize commonName ≤ 10485760 := by
  rw [canBuild, Bool.and_eq_true, decide_eq_true_eq, decide_eq_true_eq]
  rfl

/-- A name of a few hundred characters can be compared, whatever they are. -/
theorem canBuild_of_length_le (h : commonName.length ≤ 300) : canBuild commonName = true := by
  have hforward := bounded_forwardSize.nameSize_le 192 commonName
  have hbackward := bounded_backwardSize.nameSize_le 128 commonName
  have hline : forwardSize lineClass = 424 ∧ backwardSize lineClass = 1000 := by decide +kernel
  rw [hline.1] at hforward
  rw [hline.2] at hbackward
  rw [canBuild_iff]
  omega

/-- A name of some hundred thousand characters cannot be compared. -/
theorem not_canBuild_of_lt_length (h : 327674 < commonName.length) :
    ¬canBuild commonName = true := by
  have hforward := bounded_forwardSize.nameSize_ge 192 commonName
  rw [canBuild_iff]
  omega

end DeviceSecurity.HostName
